/-
**Runs of a system of atomic steps.**

A `System` takes one atomic step at a time; a step without a defined behaviour is an error and ends
the run. `Run history state` is every interleaving at once: whoever takes a step is part of its
action, and the history keeps each step with the states before and after it, newest first.

* `Run.invariant`, `Run.history_invariant`: what the start has and each step keeps.
* `Run.split`, `Run.after`: a property established by one step of the history, carried to the end.
* `Run.good_iff`: a system that leaves the good states by one kind of step only. The states of a
  run are all good exactly when the run takes no such step.
* `exec`: the runs of a given list of actions, computed.
* `Unwinds.observe_eq`: two systems that answer alike from states that agree, and stay in states
  that agree, cannot be told apart by any sequence of actions.
-/

import Mathlib.Logic.Basic

namespace LayraPS4.Runs

/-- A system of atomic steps: where it starts, and what a step answers and leaves behind. -/
structure System (State Action Answer Failure : Type) where
  start : State → Prop
  step : State → Action → Except Failure (Answer × State)

/-- One step as it was taken. -/
structure Transition (State Action Answer : Type) where
  pre : State
  action : Action
  answer : Answer
  post : State

/-- The steps of a run, newest first. -/
abbrev History (State Action Answer : Type) := List (Transition State Action Answer)

variable {State Action Answer Failure : Type} {M : System State Action Answer Failure}

/-- The finite runs of a system. -/
inductive System.Run (M : System State Action Answer Failure) :
    History State Action Answer → State → Prop
  | start {state : State} : M.start state → M.Run [] state
  | step {history : History State Action Answer} {state next : State} {action : Action}
      {answer : Answer} : M.Run history state → M.step state action = .ok (answer, next) →
      M.Run (⟨state, action, answer, next⟩ :: history) next

namespace System.Run

/-! ### Taking a run apart -/

/-- The newest step of a run was taken from the state the earlier steps reached. -/
theorem uncons {t : Transition State Action Answer} {older : History State Action Answer}
    {state : State} (run : M.Run (t :: older) state) :
    M.Run older t.pre ∧ M.step t.pre t.action = .ok (t.answer, t.post) ∧ t.post = state := by
  cases run with
  | step earlier taken => exact ⟨earlier, taken, rfl⟩

/-- Every step of a history ends the run that reached it. -/
theorem split {newer older : History State Action Answer} {t : Transition State Action Answer}
    {state : State} (run : M.Run (newer ++ t :: older) state) : M.Run (t :: older) t.post := by
  induction newer generalizing state with
  | nil =>
      obtain ⟨_, _, rfl⟩ := run.uncons
      exact run
  | cons last newer ih => exact ih run.uncons.1

/-- Every step of a history was taken from a state of the run. -/
theorem of_mem {history : History State Action Answer} {t : Transition State Action Answer}
    {state : State} (run : M.Run history state) (member : t ∈ history) :
    (∃ older, M.Run older t.pre) ∧ M.step t.pre t.action = .ok (t.answer, t.post) := by
  obtain ⟨newer, older, rfl⟩ := List.append_of_mem member
  obtain ⟨earlier, taken, _⟩ := run.split.uncons
  exact ⟨⟨older, earlier⟩, taken⟩

/-! ### Carrying properties along a run -/

/-- What holds at the start and is kept by every step holds in every state reached. -/
theorem invariant {history : History State Action Answer} {state : State} (Inv : State → Prop)
    (base : ∀ s, M.start s → Inv s)
    (keep : ∀ s action answer s', Inv s → M.step s action = .ok (answer, s') → Inv s')
    (run : M.Run history state) : Inv state := by
  induction run with
  | start begins => exact base _ begins
  | step _ taken ih => exact keep _ _ _ _ ih taken

/-- A property of the history and the state it reached. -/
theorem history_invariant {history : History State Action Answer} {state : State}
    (Inv : History State Action Answer → State → Prop) (base : ∀ s, M.start s → Inv [] s)
    (keep : ∀ t older, M.Run older t.pre → Inv older t.pre →
      M.step t.pre t.action = .ok (t.answer, t.post) → Inv (t :: older) t.post)
    (run : M.Run history state) : Inv history state := by
  induction run with
  | start begins => exact base _ begins
  | step earlier taken ih => exact keep ⟨_, _, _, _⟩ _ earlier ih taken

/-- **From one step on.** What a step of the history establishes and every later step keeps. -/
theorem after {newer older : History State Action Answer} {t : Transition State Action Answer}
    {state : State} (run : M.Run (newer ++ t :: older) state)
    (Since : History State Action Answer → State → Prop) (base : Since [] t.post)
    (keep : ∀ u later, M.Run (later ++ t :: older) u.pre → Since later u.pre →
      M.step u.pre u.action = .ok (u.answer, u.post) → Since (u :: later) u.post) :
    Since newer state := by
  induction newer generalizing state with
  | nil =>
      obtain ⟨_, _, rfl⟩ := run.uncons
      exact base
  | cons last newer ih =>
      obtain ⟨earlier, taken, rfl⟩ := run.uncons
      exact keep last newer earlier (ih earlier) taken

/-- What holds at the start and after every step of the run holds in its last state. -/
theorem last {history : History State Action Answer} {state : State} (Good : State → Prop)
    (base : ∀ s, M.start s → Good s) (run : M.Run history state)
    (good : ∀ t ∈ history, Good t.post) : Good state := by
  cases run with
  | start begins => exact base _ begins
  | step _ _ => exact good _ List.mem_cons_self

/-- **One kind of step leaves the good states.** Under an invariant of the system, a good state is
left exactly by the steps that are not `Safe`: the states of a run are all good if and only if all
its steps are safe. -/
theorem good_iff {history : History State Action Answer} {state : State}
    (Inv Good : State → Prop) (Safe : Transition State Action Answer → Prop)
    (inv : ∀ {older s}, M.Run older s → Inv s) (base : ∀ s, M.start s → Good s)
    (keep : ∀ t : Transition State Action Answer, Inv t.pre → Good t.pre →
      M.step t.pre t.action = .ok (t.answer, t.post) → Safe t → Good t.post)
    (leave : ∀ t : Transition State Action Answer, Inv t.pre → Good t.pre →
      M.step t.pre t.action = .ok (t.answer, t.post) → ¬ Safe t → ¬ Good t.post)
    (run : M.Run history state) :
    (∀ t ∈ history, Good t.post) ↔ ∀ t ∈ history, Safe t := by
  induction run with
  | start begins => simp
  | step earlier taken ih =>
      simp only [List.forall_mem_cons]
      constructor
      · rintro ⟨next, before⟩
        have here := earlier.last Good base before
        refine ⟨Classical.byContradiction fun unsafeStep => ?_, ih.mp before⟩
        exact leave ⟨_, _, _, _⟩ (inv earlier) here taken unsafeStep next
      · rintro ⟨safe, before⟩
        have here := earlier.last Good base (ih.mpr before)
        exact ⟨keep ⟨_, _, _, _⟩ (inv earlier) here taken safe, ih.mpr before⟩

end System.Run

/-! ### Computed runs -/

/-- Take a list of actions in order, keeping the history. -/
def System.exec (M : System State Action Answer Failure) :
    History State Action Answer → State → List Action →
      Except Failure (History State Action Answer × State)
  | history, state, [] => .ok (history, state)
  | history, state, action :: actions =>
      match M.step state action with
      | .error failure => .error failure
      | .ok (answer, next) => M.exec (⟨state, action, answer, next⟩ :: history) next actions

theorem System.Run.exec {history : History State Action Answer} {state : State}
    (run : M.Run history state) (actions : List Action)
    {reached : History State Action Answer × State}
    (executed : M.exec history state actions = .ok reached) : M.Run reached.1 reached.2 := by
  induction actions generalizing history state with
  | nil =>
      cases executed
      exact run
  | cons action actions ih =>
      rw [System.exec] at executed
      cases stepped : M.step state action with
      | error failure => simp [stepped] at executed
      | ok result =>
          simp only [stepped] at executed
          exact ih (run.step stepped) executed

/-- The run of a list of actions from a start state. -/
theorem System.Run.of_exec {state : State} (begins : M.start state) (actions : List Action)
    {reached : History State Action Answer × State}
    (executed : M.exec [] state actions = .ok reached) : M.Run reached.1 reached.2 :=
  (System.Run.start begins).exec actions executed

/-! ### Two systems side by side -/

/-- The answers to a sequence of actions, up to a step without a defined behaviour. -/
def System.observe (M : System State Action Answer Failure) :
    State → List Action → List (Except Failure Answer)
  | _, [] => []
  | state, action :: actions =>
      match M.step state action with
      | .error failure => [.error failure]
      | .ok (answer, next) => .ok answer :: M.observe next actions

section Unwinding

variable {State' : Type} {M' : System State' Action Answer Failure}

/-- From states that agree, the two systems answer alike and reach states that agree. -/
def Unwinds (M : System State Action Answer Failure) (M' : System State' Action Answer Failure)
    (Agree : State → State' → Prop) : Prop :=
  ∀ state state' action, Agree state state' →
    (∃ failure, M.step state action = .error failure ∧ M'.step state' action = .error failure) ∨
    ∃ answer next next', M.step state action = .ok (answer, next) ∧
      M'.step state' action = .ok (answer, next') ∧ Agree next next'

/-- **No sequence of actions tells the two apart.** -/
theorem Unwinds.observe_eq {Agree : State → State' → Prop} (unwinds : Unwinds M M' Agree)
    {state : State} {state' : State'} (agree : Agree state state') (actions : List Action) :
    M.observe state actions = M'.observe state' actions := by
  induction actions generalizing state state' with
  | nil => rfl
  | cons action actions ih =>
      rcases unwinds state state' action agree with ⟨failure, failed, failed'⟩ |
        ⟨answer, next, next', taken, taken', agree⟩
      · simp only [System.observe, failed, failed']
      · simp only [System.observe, taken, taken', ih agree]

end Unwinding

end LayraPS4.Runs
