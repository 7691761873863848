/-
**Loops that may go round for ever.**

The body of a loop makes one pass over the state: it leaves the loop with a result, goes round again,
or fails. `loop` makes at most so many passes and is `none` when they do not suffice, so that a loop
returns if some number of passes gives a result, and runs for ever if none does.

* `loop_returns`: so many rounds and a pass that leaves; any larger number of passes gives its result;
* `loop_diverges`: a state from which every number of rounds is possible.
-/

import Mathlib.Logic.Basic

namespace LayraPS4.Loops

/-- One pass of a loop body. -/
inductive Pass (State Result : Type)
  | leave (result : Result)
  | again (state : State)

variable {State Result Failure : Type}

/-- At most `passes` passes of the body. -/
def loop (body : State → Except Failure (Pass State Result)) :
    Nat → State → Option (Except Failure Result)
  | 0, _ => none
  | passes + 1, state =>
      match body state with
      | .error failure => some (.error failure)
      | .ok (.leave result) => some (.ok result)
      | .ok (.again next) => loop body passes next

/-- So many rounds lead from one state to another. -/
inductive Rounds (body : State → Except Failure (Pass State Result)) :
    Nat → State → State → Prop
  | none {state : State} : Rounds body 0 state state
  | round {rounds : Nat} {state between last : State} : body state = .ok (.again between) →
      Rounds body rounds between last → Rounds body (rounds + 1) state last

section Loop

variable {body : State → Except Failure (Pass State Result)} {rounds : Nat} {state last : State}

/-- The rounds of a loop use up as many passes. -/
theorem loop_rounds (went : Rounds body rounds state last) (passes : Nat) :
    loop body (rounds + passes) state = loop body passes last := by
  induction went with
  | none => rw [Nat.zero_add]
  | @round rounds state between last around _ ih =>
      rw [Nat.add_right_comm, loop, around]
      exact ih

/-- **A loop returns**: some rounds, then a pass that leaves. -/
theorem loop_returns {result : Result} (went : Rounds body rounds state last)
    (leaves : body last = .ok (.leave result)) {passes : Nat} (enough : rounds < passes) :
    loop body passes state = some (.ok result) := by
  obtain ⟨left, rfl⟩ := Nat.exists_eq_add_of_lt enough
  rw [Nat.add_assoc, loop_rounds went, loop, leaves]

/-- **A loop runs for ever**: it can always go round once more. -/
theorem loop_diverges (always : ∀ rounds, ∃ last, Rounds body rounds state last) (passes : Nat) :
    loop body passes state = none := by
  obtain ⟨last, went⟩ := always passes
  exact loop_rounds went 0

end Loop

end LayraPS4.Loops
