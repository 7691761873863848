/-
**What can be observed of a system.**

Two states are `Indistinguishable` when no sequence of actions is answered differently from the one
and from the other. A system `Refines` another along a view of its states when, under an invariant,
the other takes the same steps on the views.

* `Refines.observe_eq`, `Refines.run`: the other system answers for it, and has its runs.
* `Refines.indistinguishable`: states with the same view are indistinguishable.
* `Indistinguishable.next`: indistinguishable states stay so, after any step.
-/

import LayraPS4.Library.Runs

namespace LayraPS4.Runs

variable {State View Action Answer Failure : Type} {M : System State Action Answer Failure}
  {A : System View Action Answer Failure}

/-- The same steps, from this state. -/
def System.startingAt (M : System State Action Answer Failure) (state : State) :
    System State Action Answer Failure := { M with start := (· = state) }

/-- What was done in a step, and what it was answered. -/
def Transition.exchange (t : Transition State Action Answer) : Action × Answer :=
  (t.action, t.answer)

/-! ### Indistinguishable states -/

/-- No sequence of actions tells the two states apart. -/
def Indistinguishable (M : System State Action Answer Failure) (state state' : State) : Prop :=
  ∀ actions, M.observe state actions = M.observe state' actions

section Indistinguishable

variable {state state' after : State} {action : Action} {answer : Answer}

theorem Indistinguishable.symm (alike : Indistinguishable M state state') :
    Indistinguishable M state' state := fun actions => (alike actions).symm

/-- **A step** from one of two indistinguishable states is one from the other, with the same answer,
and leaves them indistinguishable. -/
theorem Indistinguishable.next (alike : Indistinguishable M state state')
    (taken : M.step state action = .ok (answer, after)) :
    ∃ after', M.step state' action = .ok (answer, after') ∧ Indistinguishable M after after' := by
  rcases taken' : M.step state' action with failure | ⟨answer', after'⟩
  · have first := alike [action]
    simp [System.observe, taken, taken'] at first
  · have all : ∀ actions, answer = answer' ∧ M.observe after actions = M.observe after' actions := by
      intro actions
      have here := alike (action :: actions)
      simp only [System.observe, taken, taken'] at here
      simpa using here
    obtain ⟨rfl, _⟩ := all []
    exact ⟨after', rfl, fun actions => (all actions).2⟩

/-- The same, with the step from the other state at hand. -/
theorem Indistinguishable.both {answer' : Answer} {after' : State}
    (alike : Indistinguishable M state state') (taken : M.step state action = .ok (answer, after))
    (taken' : M.step state' action = .ok (answer', after')) :
    answer = answer' ∧ Indistinguishable M after after' := by
  obtain ⟨other, same, alike⟩ := alike.next taken
  cases same.symm.trans taken'
  exact ⟨rfl, alike⟩

end Indistinguishable

/-! ### Refinement -/

/-- Under `Inv`, `M` takes the steps that `A` takes on what `view` shows of its states. -/
structure Refines (M : System State Action Answer Failure) (A : System View Action Answer Failure)
    (Inv : State → Prop) (view : State → View) : Prop where
  start : ∀ state, M.start state → Inv state ∧ A.start (view state)
  keep : ∀ state action answer next, Inv state → M.step state action = .ok (answer, next) → Inv next
  step : ∀ state action, Inv state → A.step (view state) action =
    (M.step state action).map fun (answer, next) => (answer, view next)

namespace Refines

variable {Inv : State → Prop} {view : State → View} {state state' : State}

theorem inv {history : History State Action Answer} (refines : Refines M A Inv view)
    (run : M.Run history state) : Inv state :=
  run.invariant Inv (fun s begins => (refines.start s begins).1)
    fun s action answer next good taken => refines.keep s action answer next good taken

/-- A step of the one is a step of the other. -/
theorem step_ok {next : State} {action : Action} {answer : Answer} (refines : Refines M A Inv view)
    (good : Inv state) (taken : M.step state action = .ok (answer, next)) :
    A.step (view state) action = .ok (answer, view next) := by
  rw [refines.step state action good, taken]
  rfl

theorem step_error {action : Action} {failure : Failure} (refines : Refines M A Inv view)
    (good : Inv state) (failed : M.step state action = .error failure) :
    A.step (view state) action = .error failure := by
  rw [refines.step state action good, failed]
  rfl

theorem unwinds (refines : Refines M A Inv view) :
    Unwinds M A fun state shown => Inv state ∧ shown = view state := by
  rintro state _ action ⟨good, rfl⟩
  rcases taken : M.step state action with failure | ⟨answer, next⟩
  · exact .inl ⟨failure, rfl, refines.step_error good taken⟩
  · exact .inr ⟨answer, next, view next, rfl, refines.step_ok good taken,
      refines.keep _ _ _ _ good taken, rfl⟩

/-- **The other system answers for it.** -/
theorem observe_eq (refines : Refines M A Inv view) (good : Inv state) (actions : List Action) :
    M.observe state actions = A.observe (view state) actions :=
  refines.unwinds.observe_eq ⟨good, rfl⟩ actions

/-- **What the view leaves out cannot be observed.** -/
theorem indistinguishable (refines : Refines M A Inv view) (good : Inv state) (good' : Inv state')
    (same : view state = view state') : Indistinguishable M state state' := by
  intro actions
  rw [refines.observe_eq good, refines.observe_eq good', same]

end Refines

end LayraPS4.Runs
