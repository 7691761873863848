/-
**A call depends on its request, and changes its request.**

What a call on a request id replies and does to the table is read off the live request with that id
and the sign-in flag (`run_eq_outcome`): the call leaves the request, writes it or removes it
(`Effect`). So two calls on different ids do not see each other, though a delete changes the counter
that every lookup tests, and `requests_commute` follows.
-/

import LayraPS4.NpAuth.Threads

set_option linter.unusedSectionVars false

namespace LayraPS4.NpAuth

open Cxx Runs

/-! ### Effects -/

/-- What a call does to the request it is given. -/
inductive Effect
  | keep
  | write (request : NpAuthRequest)
  | remove (request : NpAuthRequest)

def Effect.apply (globals : Globals) (reqId : Int32) : Effect → Globals
  | .keep => globals
  | .write request => globals.setRequest (slotOf reqId) request
  | .remove request => globals.remove reqId request

/-- The effects on the live request with an id, if there is one. -/
inductive Effect.On : Option NpAuthRequest → Effect → Prop
  | keep {request : Option NpAuthRequest} : On request .keep
  | write {request after : NpAuthRequest} : after.live = true → On (some request) (.write after)
  | remove {request : NpAuthRequest} : On (some request) (.remove request)

section Apply

variable {globals : Globals} {reqId other : Int32} {effect effect' : Effect}

@[simp] theorem Effect.apply_gSignedIn :
    (effect.apply globals reqId).gSignedIn = globals.gSignedIn := by
  rcases effect with _ | request | request <;> rfl

theorem Effect.On.valid (valid : globals.Valid) (isOn : effect.On (globals.request? reqId)) :
    (effect.apply globals reqId).Valid := by
  generalize found : globals.request? reqId = request at isOn
  cases isOn with
  | keep => exact valid
  | write live => exact valid.setRequest found live
  | remove => exact valid.remove found

/-- An effect leaves the requests with other ids. -/
theorem Effect.On.request? (isOn : effect.On (globals.request? reqId)) (distinct : other ≠ reqId) :
    (effect.apply globals reqId).request? other = globals.request? other := by
  generalize found : globals.request? reqId = request at isOn
  cases isOn with
  | keep => rfl
  | write live =>
      obtain ⟨bound, _⟩ := List.getElem?_eq_some_iff.mp (Globals.request?_eq_some.mp found).1
      rw [apply, Globals.request?_setRequest bound, if_neg distinct]
  | remove => rw [apply, Globals.request?_remove found, if_neg distinct]

theorem setRequest_comm {slot slot' : Nat} (distinct : slot ≠ slot')
    (request request' : NpAuthRequest) :
    (globals.setRequest slot request).setRequest slot' request' =
      (globals.setRequest slot' request').setRequest slot request := by
  unfold Globals.setRequest
  rw [List.set_comm _ _ distinct]

/-- **Effects on different ids commute.** -/
theorem Effect.apply_comm (distinct : other ≠ reqId) :
    effect'.apply (effect.apply globals reqId) other =
      effect.apply (effect'.apply globals other) reqId := by
  have slots : slotOf reqId ≠ slotOf other := fun same => distinct (slotOf_injective same).symm
  rcases effect with _ | request | request
  · rfl
  · rcases effect' with _ | request' | request'
    · rfl
    · exact setRequest_comm slots _ _
    · exact @setRequest_comm { globals with gActiveAuthRequests := _ } _ _ slots _ _
  · rcases effect' with _ | request' | request'
    · rfl
    · exact @setRequest_comm { globals with gActiveAuthRequests := _ } _ _ slots _ _
    · exact @setRequest_comm { globals with gActiveAuthRequests := _ } _ _ slots _ _

end Apply

/-! ### The outcome of a call -/

/-- What an operation replies and does, given the live request with the id. -/
def RequestOp.outcome (op : RequestOp) : Option NpAuthRequest → Except Fault (Reply × Effect)
  | none => .ok (⟨.requestNotFound, {}⟩, .keep)
  | some request => (op.act request).map fun (reply, after) => (reply, .write after)

/-- What a call replies and does, given the live request with the id. -/
def Entry.outcome (env : Env) (signedIn : Bool) (entry : Entry) (request : Option NpAuthRequest) :
    Except Fault (Reply × Effect) :=
  match entry.op? env signedIn, request with
  | some op, request => op.outcome request
  | none, request =>
      if entry = .deleteRequest then
        match request with
        | none => .ok (⟨.requestNotFound, {}⟩, .keep)
        | some request => .ok (⟨.ok, {}⟩, .remove request)
      else
        -- the call never gets to the table, so any table serves
        (entry.run env { gSignedIn := signedIn } 0).map fun (reply, _) => (reply, .keep)

section Outcome

variable {env : Env} {globals : Globals} {reqId : Int32} {entry : Entry}

/-- **A call depends on its request.** -/
theorem run_eq_outcome (valid : globals.Valid) :
    entry.run env globals reqId =
      (entry.outcome env globals.gSignedIn (globals.request? reqId)).map
        fun (reply, effect) => (reply, effect.apply globals reqId) := by
  unfold Entry.outcome
  rcases asks : entry.op? env globals.gSignedIn with _ | op
  · dsimp only
    by_cases delete : entry = .deleteRequest
    · subst delete
      rw [if_pos rfl, show Entry.deleteRequest.run env globals reqId = _ from
        sceNpAuthDeleteRequest_eq valid reqId]
      rcases globals.request? reqId with _ | request <;> rfl
    · rw [if_neg delete]
      rcases run_turnedDown asks delete with ⟨fault, faults⟩ | ⟨code, _, replies⟩
      · dsimp only at faults
        rw [faults globals reqId rfl, faults { gSignedIn := globals.gSignedIn } 0 rfl]
        rfl
      · dsimp only at replies
        rw [replies globals reqId rfl, replies { gSignedIn := globals.gSignedIn } 0 rfl]
        rfl
  · rw [run_eq_perform valid asks]
    rcases found : globals.request? reqId with _ | request
    · rw [Globals.perform_of_none found]
      rfl
    · rcases acted : op.act request with fault | ⟨reply, after⟩
      · rw [Globals.perform_of_fault found acted]
        simp only [RequestOp.outcome, acted, Except.map]
      · rw [Globals.perform_of_act found acted]
        simp only [RequestOp.outcome, acted, Except.map, Effect.apply]

/-- A call does something to the request with its id, or nothing. -/
theorem outcome_on {signedIn : Bool} {reply : Reply} {effect : Effect}
    (ran : entry.outcome env signedIn (globals.request? reqId) = .ok (reply, effect)) :
    effect.On (globals.request? reqId) := by
  generalize found : globals.request? reqId = request at ran
  unfold Entry.outcome at ran
  rcases asks : entry.op? env signedIn with _ | op
  · rw [asks] at ran
    dsimp only at ran
    split_ifs at ran with delete
    · rcases request with _ | request
      · cases ran
        exact .keep
      · cases ran
        exact .remove
    · rcases down : entry.run env { gSignedIn := signedIn } 0 with fault | ⟨reply, next⟩
      · rw [down] at ran
        cases ran
      · rw [down] at ran
        cases ran
        exact .keep
  · rw [asks] at ran
    rcases request with _ | request
    · cases ran
      exact .keep
    · have live := (Globals.request?_eq_some.mp found).2
      rcases acted : op.act request with fault | ⟨reply, after⟩
      · simp only [RequestOp.outcome, acted, Except.map] at ran
        cases ran
      · simp only [RequestOp.outcome, acted, Except.map] at ran
        cases ran
        exact .write ((RequestOp.acts live acted).live live)

/-- What a call that returned replied and did. -/
theorem outcome_of_run {reply : Reply} {next : Globals} (valid : globals.Valid)
    (ran : entry.run env globals reqId = .ok (reply, next)) :
    ∃ effect, entry.outcome env globals.gSignedIn (globals.request? reqId) = .ok (reply, effect) ∧
      effect.On (globals.request? reqId) ∧ next = effect.apply globals reqId := by
  rw [run_eq_outcome valid] at ran
  rcases out : entry.outcome env globals.gSignedIn (globals.request? reqId) with
    fault | ⟨replied, effect⟩
  · rw [out] at ran
    cases ran
  · rw [out] at ran
    cases ran
    exact ⟨effect, rfl, outcome_on out, rfl⟩

end Outcome

/-! ### Two calls -/

/-- A call on a request id. -/
structure RequestCall where
  env : Env
  reqId : Int32
  entry : Entry

def RequestCall.run (globals : Globals) (call : RequestCall) : Except Fault (Reply × Globals) :=
  call.entry.run call.env globals call.reqId

/-- One call after the other: the replies and the globals. -/
def inOrder (first second : RequestCall) (globals : Globals) :
    Except Fault ((Reply × Reply) × Globals) := do
  let (reply, globals) ← first.run globals
  let (reply', globals) ← second.run globals
  return ((reply, reply'), globals)

section Commute

variable {globals next : Globals} {first second : RequestCall} {reply reply' : Reply}

theorem inOrder_eq_ok :
    inOrder first second globals = .ok ((reply, reply'), next) ↔
      ∃ between, first.run globals = .ok (reply, between) ∧
        second.run between = .ok (reply', next) := by
  constructor
  · intro ran
    rcases ranFirst : first.run globals with fault | ⟨replied, between⟩
    · simp [inOrder, ranFirst, bind, Except.bind] at ran
    · rcases ranSecond : second.run between with fault | ⟨replied', after⟩
      · simp [inOrder, ranFirst, ranSecond, bind, Except.bind] at ran
      · simp only [inOrder, ranFirst, ranSecond, bind, Except.bind] at ran
        cases ran
        exact ⟨between, rfl, ranSecond⟩
  · rintro ⟨between, ranFirst, ranSecond⟩
    simp only [inOrder, ranFirst, ranSecond, bind, Except.bind]
    rfl

theorem inOrder_swap (valid : globals.Valid) (distinct : first.reqId ≠ second.reqId)
    (ran : inOrder first second globals = .ok ((reply, reply'), next)) :
    inOrder second first globals = .ok ((reply', reply), next) := by
  obtain ⟨between, ranFirst, ranSecond⟩ := inOrder_eq_ok.mp ran
  obtain ⟨effect, out, isOn, rfl⟩ := outcome_of_run valid ranFirst
  obtain ⟨effect', out', isOn', rfl⟩ := outcome_of_run (isOn.valid valid) ranSecond
  -- neither call sees what the other did
  rw [Effect.apply_gSignedIn, isOn.request? distinct.symm] at out'
  rw [isOn.request? distinct.symm] at isOn'
  refine inOrder_eq_ok.mpr ⟨effect'.apply globals second.reqId, ?_, ?_⟩
  · rw [RequestCall.run, run_eq_outcome valid, out']
    rfl
  · rw [RequestCall.run, run_eq_outcome (isOn'.valid valid), Effect.apply_gSignedIn,
      isOn'.request? distinct, out, Effect.apply_comm distinct.symm]
    rfl

/-- **Calls on different requests commute.** At every reachable state and for every two calls on
different ids, live or not, one order gives the two replies and the globals that the other gives. -/
theorem requests_commute {Thread : Type} [DecidableEq Thread] {history : ThreadHistory Thread}
    {process : Process Thread} (run : (threads Thread).Run history process)
    {first second : RequestCall} (distinct : first.reqId ≠ second.reqId) (reply reply' : Reply)
    (next : Globals) :
    inOrder first second process.globals = .ok ((reply, reply'), next) ↔
      inOrder second first process.globals = .ok ((reply', reply), next) :=
  ⟨inOrder_swap (reachable_valid run) distinct, inOrder_swap (reachable_valid run) distinct.symm⟩

/-- Of two requests the one is deleted and the other is asked for a code. -/
theorem requests_commute_session :
    inOrder ⟨offline, 0x10000002, getCode⟩ ⟨offline, 0x10000001, .deleteRequest⟩
        ⟨false, 2, [⟨.ready, false, .ok⟩, ⟨.ready, false, .ok⟩]⟩ =
      .ok ((⟨.signedOut, {}⟩, ⟨.ok, {}⟩),
        ⟨false, 1, [⟨.none, false, .ok⟩, ⟨.complete, false, .signedOut⟩]⟩) := by
  have run : (threads Nat).Run _ _ :=
    .of_exec (show (threads Nat).start {} from rfl) (createSync 0 ++ createSync 1) rfl
  have both := requests_commute run
    (show (⟨offline, 0x10000001, .deleteRequest⟩ : RequestCall).reqId ≠
      (⟨offline, 0x10000002, getCode⟩ : RequestCall).reqId by decide)
  exact (both _ _ _).mp rfl

end Commute

end LayraPS4.NpAuth
