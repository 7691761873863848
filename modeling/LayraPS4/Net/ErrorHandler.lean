/-
**`NetErrorHandler`** (`core/libraries/network/net.cpp`).

The handler calls an operation until it returns something other than a failure with
`ORBISNETEINTR`, and turns the host errno of the last failure into what the guest is told. Host errnos
come with either sign, and the arithmetic on them is two's complement.

`netErrorHandler_handles`: the operation is called once for each attempt, and `handled` is what the
last of them comes to; a handler whose attempts are all interrupted never returns.

The constants are those of `neterror.h`, which the repository does not hold: `NetErrors` takes them as
they are, with the two facts about their bits that the handler relies on.
-/

import LayraPS4.Library.Cxx
import LayraPS4.Library.Loops

namespace LayraPS4.Net

open Cxx Loops

/-! ### The handler -/

/-- The constants of `neterror.h`. -/
structure NetErrors where
  /-- `ORBISNETEBADF` -/
  eBadf : Int32
  /-- `ORBISNETEINTR` -/
  eIntr : Int32
  /-- `ORBISNETENOTSOCK` -/
  eNotSock : Int32
  /-- `ORBISNETENETINTR` -/
  eNetIntr : Int32
  /-- `ORBISNETERETURN` -/
  eReturn : Int32
  /-- `ORBISNETERRORENOTINIT` -/
  errorENotInit : Int32
  /-- `ORBISNETERRORBASE` -/
  errorBase : Int32
  errorBase_sign : errorBase < 0
  eIntr_low : eIntr &&& 0xfff0000 = 0

/-- A thread: `*Libraries::Kernel::_Error()`, `*sceNetErrnoLoc()` and what else an operation works
on. -/
structure NetThread (Rest : Type) where
  error : Int32
  netErrno : Int32
  rest : Rest

/-- What the handler is given: a function that returns an `int`. -/
abbrev Operation (Rest : Type) := NetThread Rest → Except Fault (Int32 × NetThread Rest)

variable {Rest : Type}

/-- What stands after the loop. -/
def afterLoop (errors : NetErrors) (positiveErr : Int32) (thread : NetThread Rest) :
    Int32 × NetThread Rest :=
  let result :=
    if positiveErr = errors.eNotSock then -errors.eBadf
    else if positiveErr = errors.eNetIntr then -errors.eIntr
    else -positiveErr
  (-result ||| errors.errorBase, { thread with netErrno := -result })

/-- One pass of the loop, with what stands after it where the pass ends it. -/
def handlerPass (errors : NetErrors) (f : Operation Rest) (thread : NetThread Rest) :
    Except Fault (Pass (NetThread Rest) (Int32 × NetThread Rest)) := do
  let (result, thread) ← f thread
  if 0 ≤ result then return .leave (result, thread)
  let positiveErr := magnitude thread.error
  if positiveErr &&& 0xfff0000 ≠ 0 then
    return .leave (-positiveErr, { thread with netErrno := errors.eReturn })
  if positiveErr = errors.eIntr then return .again thread
  return .leave (afterLoop errors positiveErr thread)

/-- `NetErrorHandler(f)`, for at most so many passes of its loop. -/
def netErrorHandler (errors : NetErrors) (f : Operation Rest) (passes : Nat)
    (thread : NetThread Rest) : Option (Except Fault (Int32 × NetThread Rest)) :=
  loop (handlerPass errors f) passes thread

/-! ### Attempts -/

/-- What one call of the operation came to: its return value, and the host errno after it. -/
structure Attempt where
  result : Int32
  errno : Int32

/-- The calls of an operation one after the other. -/
inductive Attempts (f : Operation Rest) :
    NetThread Rest → List Attempt → NetThread Rest → Prop
  | none {thread : NetThread Rest} : Attempts f thread [] thread
  | call {thread between after : NetThread Rest} {result : Int32} {attempts : List Attempt} :
      f thread = .ok (result, between) → Attempts f between attempts after →
      Attempts f thread (⟨result, between.error⟩ :: attempts) after

/-- A failure with `ORBISNETEINTR`, of either sign. -/
def Attempt.Interrupted (errors : NetErrors) (attempt : Attempt) : Prop :=
  attempt.result < 0 ∧ magnitude attempt.errno = errors.eIntr

instance (errors : NetErrors) (attempt : Attempt) : Decidable (attempt.Interrupted errors) :=
  inferInstanceAs (Decidable (_ ∧ _))

/-- The errno the guest is told for a host errno. -/
def guestErrno (errors : NetErrors) (positiveErr : Int32) : Int32 :=
  if positiveErr = errors.eNotSock then errors.eBadf
  else if positiveErr = errors.eNetIntr then errors.eIntr
  else positiveErr

/-- What the handler is to return for the last attempt, and the guest errno it is to leave. -/
def handled (errors : NetErrors) (last : Attempt) (netErrno : Int32) : Int32 × Int32 :=
  if 0 ≤ last.result then (last.result, netErrno)
  else if magnitude last.errno &&& 0xfff0000 ≠ 0 then (-magnitude last.errno, errors.eReturn)
  else (guestErrno errors (magnitude last.errno) ||| errors.errorBase,
    guestErrno errors (magnitude last.errno))

/-- An operation that counts its calls. -/
def Operation.counted (f : Operation Rest) : Operation (Rest × Nat) := fun thread => do
  let (result, after) ← f ⟨thread.error, thread.netErrno, thread.rest.1⟩
  return (result, ⟨after.error, after.netErrno, (after.rest, thread.rest.2 + 1)⟩)

/-- The thread, with a count of calls. -/
def NetThread.counting (thread : NetThread Rest) (calls : Nat) : NetThread (Rest × Nat) :=
  ⟨thread.error, thread.netErrno, (thread.rest, calls)⟩

section Attempts

variable {errors : NetErrors} {f : Operation Rest} {thread after : NetThread Rest}
  {attempts : List Attempt} {last : Attempt}

theorem counted_ok {result : Int32} (called : f thread = .ok (result, after)) (calls : Nat) :
    f.counted (thread.counting calls) = .ok (result, after.counting (calls + 1)) := by
  show (do let (result, after) ← f thread; _) = _
  rw [called]
  rfl

/-- Counting the calls changes nothing else. -/
theorem Attempts.counted (made : Attempts f thread attempts after) (calls : Nat) :
    Attempts f.counted (thread.counting calls) attempts
      (after.counting (calls + attempts.length)) := by
  induction made generalizing calls with
  | none => exact .none
  | @call thread between after result attempts called _ ih =>
      rw [List.length_cons, Nat.add_comm attempts.length, ← Nat.add_assoc]
      exact .call (counted_ok called calls) (ih (calls + 1))

/-- The last attempt, and the ones before it. -/
theorem Attempts.concat (made : Attempts f thread (attempts ++ [last]) after) :
    ∃ before, Attempts f thread attempts before ∧ f before = .ok (last.result, after) ∧
      last.errno = after.error := by
  induction attempts generalizing thread with
  | nil =>
      obtain _ | ⟨called, rest⟩ := made
      obtain _ | _ := rest
      exact ⟨_, .none, called, rfl⟩
  | cons first attempts ih =>
      obtain _ | ⟨called, rest⟩ := made
      obtain ⟨before, made, lastCall, errno⟩ := ih rest
      exact ⟨before, .call called made, lastCall, errno⟩

/-! ### One pass -/

theorem handlerPass_interrupted {result : Int32} (called : f thread = .ok (result, after))
    (interrupted : Attempt.Interrupted errors ⟨result, after.error⟩) :
    handlerPass errors f thread = .ok (.again after) := by
  obtain ⟨failed, isIntr⟩ := interrupted
  have notNegative : ¬ 0 ≤ result := Int32.not_le.mpr failed
  simp [handlerPass, called, notNegative, isIntr, errors.eIntr_low, bind, Except.bind, pure,
    Except.pure]

theorem afterLoop_eq (positiveErr : Int32) :
    afterLoop errors positiveErr thread = (guestErrno errors positiveErr ||| errors.errorBase,
      { thread with netErrno := guestErrno errors positiveErr }) := by
  unfold afterLoop guestErrno
  split_ifs <;> simp

/-- A pass whose attempt is not interrupted ends the loop, with what the attempt comes to. -/
theorem handlerPass_leaves {result : Int32} (called : f thread = .ok (result, after))
    (goesOn : ¬ Attempt.Interrupted errors ⟨result, after.error⟩) :
    handlerPass errors f thread =
      .ok (.leave ((handled errors ⟨result, after.error⟩ after.netErrno).1,
        { after with netErrno := (handled errors ⟨result, after.error⟩ after.netErrno).2 })) := by
  unfold handlerPass handled
  rw [called]
  by_cases succeeded : 0 ≤ result
  · simp [succeeded, bind, Except.bind, pure, Except.pure]
  · have notIntr : magnitude after.error ≠ errors.eIntr := fun isIntr =>
      goesOn ⟨Int32.not_le.mp succeeded, isIntr⟩
    by_cases fatal : magnitude after.error &&& 0xfff0000 = 0
    · simp [succeeded, fatal, notIntr, afterLoop_eq, bind, Except.bind, pure, Except.pure]
    · simp [succeeded, fatal, bind, Except.bind, pure, Except.pure]

/-! ### The loop -/

/-- Attempts that are all interrupted are rounds of the loop. -/
theorem rounds_of_attempts (made : Attempts f thread attempts after)
    (interrupted : ∀ attempt ∈ attempts, attempt.Interrupted errors) :
    Rounds (handlerPass errors f) attempts.length thread after := by
  induction made with
  | none => exact .none
  | call called _ ih =>
      obtain ⟨first, rest⟩ := List.forall_mem_cons.mp interrupted
      exact .round (handlerPass_interrupted called first) (ih rest)

/-- The handler returns what its last attempt comes to. -/
theorem netErrorHandler_returns (made : Attempts f thread (attempts ++ [last]) after)
    (interrupted : ∀ attempt ∈ attempts, attempt.Interrupted errors)
    (goesOn : ¬ last.Interrupted errors) {passes : Nat} (enough : attempts.length < passes) :
    netErrorHandler errors f passes thread =
      some (.ok ((handled errors last after.netErrno).1,
        { after with netErrno := (handled errors last after.netErrno).2 })) := by
  obtain ⟨before, earlier, called, errno⟩ := made.concat
  obtain ⟨result, _⟩ := last
  subst errno
  exact loop_returns (rounds_of_attempts earlier interrupted) (handlerPass_leaves called goesOn)
    enough

/-- Only a success is returned as a value that is not negative. -/
theorem handled_nonneg (errors : NetErrors) (last : Attempt) (netErrno : Int32) :
    0 ≤ (handled errors last netErrno).1 ↔ 0 ≤ last.result := by
  unfold handled
  split_ifs with succeeded fatal
  · exact iff_of_true succeeded succeeded
  · refine iff_of_false (Int32.not_le.mpr (neg_magnitude_lt_zero ?_)) succeeded
    intro zero
    rw [zero] at fatal
    exact fatal (by decide)
  · exact iff_of_false (Int32.not_le.mpr (or_lt_zero _ errors.errorBase_sign)) succeeded

/-- **`NetErrorHandler`.** Attempts of which the last is the first that is not interrupted are all it
makes: it calls the operation once for each, returns what the last comes to and leaves the guest
errno that goes with it, and only a success is returned as a value that is not negative. If every
attempt is interrupted it never returns. -/
theorem netErrorHandler_handles (errors : NetErrors) (f : Operation Rest) (thread : NetThread Rest) :
    (∀ attempts last after, Attempts f thread (attempts ++ [last]) after →
      (∀ attempt ∈ attempts, attempt.Interrupted errors) → ¬ last.Interrupted errors →
      (∀ passes, attempts.length < passes →
        netErrorHandler errors f.counted passes (thread.counting 0) =
          some (.ok ((handled errors last after.netErrno).1,
            { after with netErrno := (handled errors last after.netErrno).2 }.counting
              (attempts ++ [last]).length)) ∧
        netErrorHandler errors f passes thread =
          some (.ok ((handled errors last after.netErrno).1,
            { after with netErrno := (handled errors last after.netErrno).2 }))) ∧
      (0 ≤ (handled errors last after.netErrno).1 ↔ 0 ≤ last.result)) ∧
    ((∀ calls, ∃ attempts after, attempts.length = calls ∧ Attempts f thread attempts after ∧
        ∀ attempt ∈ attempts, attempt.Interrupted errors) →
      ∀ passes, netErrorHandler errors f passes thread = none) := by
  refine ⟨fun attempts last after made interrupted goesOn => ⟨fun passes enough => ⟨?_, ?_⟩,
    handled_nonneg errors last _⟩, fun always => ?_⟩
  · have counted := netErrorHandler_returns (made.counted 0) interrupted goesOn enough
    rw [Nat.zero_add] at counted
    exact counted
  · exact netErrorHandler_returns made interrupted goesOn enough
  · refine loop_diverges fun rounds => ?_
    obtain ⟨attempts, after, rfl, made, interrupted⟩ := always rounds
    exact ⟨after, rounds_of_attempts made interrupted⟩

end Attempts

section Session

/-- The constants of the console. -/
def consoleErrors : NetErrors where
  eBadf := 9
  eIntr := 4
  eNotSock := 38
  eNetIntr := 167
  eReturn := 205
  errorENotInit := -0x7fbefe38
  errorBase := -0x7fbeff00
  errorBase_sign := by decide
  eIntr_low := by decide

/-- An operation that fails and succeeds by a script. -/
def scripted : Operation (List Attempt) := fun thread =>
  match thread.rest with
  | [] => .ok (0, thread)
  | attempt :: rest => .ok (attempt.result, { thread with error := attempt.errno, rest })

/-- Two attempts are interrupted, with an errno of either sign, and the third finds no socket. -/
theorem netErrorHandler_handles_session :
    ∃ after, Attempts scripted ⟨0, 0, [⟨-1, 4⟩, ⟨-1, -4⟩, ⟨-1, 38⟩]⟩
        ([⟨-1, 4⟩, ⟨-1, -4⟩] ++ [⟨-1, 38⟩]) after ∧
      netErrorHandler consoleErrors scripted.counted 3
          (NetThread.counting ⟨0, 0, [⟨-1, 4⟩, ⟨-1, -4⟩, ⟨-1, 38⟩]⟩ 0) =
        some (.ok (-0x7fbefef7, { after with netErrno := 9 }.counting 3)) :=
  have made : Attempts scripted ⟨0, 0, [⟨-1, 4⟩, ⟨-1, -4⟩, ⟨-1, 38⟩]⟩
      ([⟨-1, 4⟩, ⟨-1, -4⟩] ++ [⟨-1, 38⟩]) ⟨38, 0, []⟩ :=
    .call (show scripted _ = .ok (-1, ⟨4, 0, _⟩) from rfl)
      (.call (show scripted _ = .ok (-1, ⟨-4, 0, _⟩) from rfl)
        (.call (show scripted _ = .ok (-1, ⟨38, 0, _⟩) from rfl) .none))
  ⟨_, made, (((netErrorHandler_handles consoleErrors scripted _).1 _ _ _ made (by decide)
    (by decide)).1 3 (by decide)).1⟩

end Session

end LayraPS4.Net
