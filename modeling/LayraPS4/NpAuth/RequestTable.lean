/-
**The threads as a table of requests.**

Under any interleaving, the slots behave as a table of independent requests keyed by their ids: each
step of a thread creates a request under an id not in use, asks one request for an operation,
deletes one request, or touches none (`requestTable`). What the guest can tell about it from calls
and replies alone, the ids it was given and has not deleted (`liveIds`), are the table's keys
(`mem_liveIds`).
-/

import LayraPS4.Library.ObjectTable
import LayraPS4.NpAuth.Threads

set_option linter.unusedSectionVars false

namespace LayraPS4.NpAuth

open Cxx Runs ObjectTable

variable {Thread : Type} [DecidableEq Thread]

/-! ### Moves of the table -/

/-- Requests, as the objects of a table. -/
def requestKind : Kind NpAuthRequest RequestOp Reply where
  act op request := (op.act request).toOption

theorem requestKind_act {op : RequestOp} {request after : NpAuthRequest} {reply : Reply} :
    requestKind.act op request = some (reply, after) ↔ op.act request = .ok (reply, after) := by
  show (op.act request).toOption = _ ↔ _
  cases op.act request <;> simp [Except.toOption]

/-- The live requests by their ids. -/
def requests (process : Process Thread) : Table Int32 NpAuthRequest := process.globals.request?

/-- What a step does to the table. -/
def move (t : ThreadStep Thread) : Move Int32 NpAuthRequest RequestOp Reply :=
  match t.action, t.answer with
  | .createSection thread, .created reqId =>
      match t.pre.creating thread with
      | some async => .create reqId (t.pre.globals.newRequest async)
      | none => .idle
  | .call _ env reqId entry, .returned reply =>
      match t.pre.globals.request? reqId, entry.op? env t.pre.globals.gSignedIn with
      | some _, some op => .ask reqId op reply
      | some _, none => if entry = .deleteRequest then .delete reqId else .idle
      | none, _ => .idle
  | _, _ => .idle

section Moves

variable {process next : Process Thread} {action : Action Thread} {answer : Answer}

/-- **A step of a thread is a move of the table.** -/
theorem Steps.move (steps : Steps process action answer next) (valid : process.globals.Valid) :
    requestKind.Step (requests process) (NpAuth.move ⟨process, action, answer, next⟩)
      (requests next) := by
  cases steps with
  | @asked _ _ reqId _ _ request after _ asks found acted =>
      obtain ⟨inSlot, live⟩ := Globals.request?_eq_some.mp found
      obtain ⟨bound, _⟩ := List.getElem?_eq_some_iff.mp inSlot
      have stays := (RequestOp.acts live acted).live live
      have changed : requests { process with
            globals := process.globals.setRequest (slotOf reqId) after } =
          Function.update (requests process) reqId (some after) := by
        funext other
        rw [Function.update_apply]
        refine (Globals.request?_setRequest bound after other).trans ?_
        rw [if_pos stays]
        rfl
      simp only [NpAuth.move, found, asks, changed]
      exact .ask found (requestKind_act.mpr acted)
  | @deleted _ _ reqId request found =>
      have changed : requests { process with globals := process.globals.remove reqId request } =
          Function.update (requests process) reqId none := by
        funext other
        rw [Function.update_apply]
        exact Globals.request?_remove found other
      simp only [NpAuth.move, found, Entry.op?, if_true, changed]
      exact .delete found
  | notFound missing =>
      simp only [NpAuth.move, missing]
      exact .idle
  | @turnedDown _ _ reqId _ _ asks kept =>
      cases found : process.globals.request? reqId with
      | none =>
          simp only [NpAuth.move, found]
          exact .idle
      | some request =>
          simp only [NpAuth.move, found, asks, if_neg kept]
          exact .idle
  | refused => exact .idle
  | passed _ => exact .idle
  | @created thread async creating waiting _ =>
      have changed : requests ⟨process.globals.afterCreate async, creating⟩ =
          Function.update (requests process) process.globals.newId
            (some (process.globals.newRequest async)) := by
        funext other
        rw [Function.update_apply]
        exact Globals.request?_afterCreate valid async other
      simp only [NpAuth.move, waiting, changed]
      exact .create _ (Globals.request?_newId valid)
  | registered => exact .idle

variable (Thread) in
/-- **The threads simulate a table of requests.** -/
def requestTable : Simulates (threads Thread) requestKind Int32 where
  view := requests
  move := NpAuth.move
  start := by
    rintro _ rfl reqId
    rfl
  step := by
    intro t older earlier taken
    have valid := reachable_valid earlier
    exact (steps_of_step valid taken).move valid

end Moves

/-! ### The ids the guest was given -/

/-- The id a create returned. -/
def createdId (t : ThreadStep Thread) : Option Int32 :=
  match t.answer with
  | .created reqId => some reqId
  | _ => none

/-- The id a successful delete was given. -/
def deletedId (t : ThreadStep Thread) : Option Int32 :=
  match t.action, t.answer with
  | .call _ _ reqId .deleteRequest, .returned reply => if reply.code = .ok then some reqId else none
  | _, _ => none

/-- The ids that a create has returned and that have not been deleted since. -/
def liveIds : ThreadHistory Thread → List Int32
  | [] => []
  | t :: older =>
      match createdId t, deletedId t with
      | some reqId, _ => reqId :: liveIds older
      | none, some reqId => (liveIds older).erase reqId
      | none, none => liveIds older

/-- How many creates of the history succeeded. -/
def creates (history : ThreadHistory Thread) : Nat := history.countP fun t => (createdId t).isSome

/-- How many deletes of the history succeeded. -/
def deletes (history : ThreadHistory Thread) : Nat := history.countP fun t => (deletedId t).isSome

section Ids

variable {process next : Process Thread} {action : Action Thread} {answer : Answer}
  {history : ThreadHistory Thread}

/-- A create is seen as one. -/
theorem Steps.createdId (steps : Steps process action answer next) :
    NpAuth.createdId ⟨process, action, answer, next⟩ =
      (NpAuth.move ⟨process, action, answer, next⟩).created? := by
  cases steps with
  | asked asks found _ => simp [NpAuth.createdId, NpAuth.move, found, asks, Move.created?]
  | deleted found => simp [NpAuth.createdId, NpAuth.move, found, Entry.op?, Move.created?]
  | notFound missing => simp [NpAuth.createdId, NpAuth.move, missing, Move.created?]
  | @turnedDown _ _ reqId _ _ asks kept =>
      cases found : process.globals.request? reqId <;>
        simp [NpAuth.createdId, NpAuth.move, found, asks, kept, Move.created?]
  | created waiting _ => simp [NpAuth.createdId, NpAuth.move, waiting, Move.created?]
  | refused => rfl
  | passed _ => rfl
  | registered => rfl

/-- A successful delete is seen as one. -/
theorem Steps.deletedId (steps : Steps process action answer next) :
    NpAuth.deletedId ⟨process, action, answer, next⟩ =
      (NpAuth.move ⟨process, action, answer, next⟩).deleted? := by
  cases steps with
  | @asked _ _ _ entry _ _ _ _ asks found _ =>
      cases entry with
      | deleteRequest => cases asks
      | _ => simp [NpAuth.deletedId, NpAuth.move, found, asks, Move.deleted?]
  | deleted found => simp [NpAuth.deletedId, NpAuth.move, found, Entry.op?, Move.deleted?]
  | @notFound _ _ _ entry missing =>
      cases entry <;> simp [NpAuth.deletedId, NpAuth.move, missing, Move.deleted?]
  | @turnedDown _ _ reqId entry _ asks kept =>
      cases found : process.globals.request? reqId <;> cases entry <;>
        simp_all [NpAuth.deletedId, NpAuth.move, Move.deleted?]
  | created waiting _ => simp [NpAuth.deletedId, NpAuth.move, waiting, Move.deleted?]
  | refused => rfl
  | passed _ => rfl
  | registered => rfl

/-- The step that returned an id from a create. -/
theorem Steps.of_createdId {reqId : Int32} (steps : Steps process action answer next)
    (isCreate : NpAuth.createdId ⟨process, action, answer, next⟩ = some reqId) :
    ∃ thread async, action = .createSection thread ∧ process.creating thread = some async ∧
      reqId = process.globals.newId ∧ next.globals = process.globals.afterCreate async ∧
      process.globals.freeSlot < maxSlots := by
  cases steps with
  | created waiting room =>
      obtain rfl := Option.some.inj isCreate
      exact ⟨_, _, rfl, waiting, rfl, rfl, room⟩
  | _ => cases isCreate

/-- The guest's account of a run is the table's. -/
theorem liveIds_eq (run : (threads Thread).Run history process) :
    liveIds history = liveKeys ((requestTable Thread).moves history) ∧
      creates history = creations ((requestTable Thread).moves history) ∧
      deletes history = deletions ((requestTable Thread).moves history) := by
  refine run.history_invariant (fun history _ =>
    liveIds history = liveKeys ((requestTable Thread).moves history) ∧
      creates history = creations ((requestTable Thread).moves history) ∧
      deletes history = deletions ((requestTable Thread).moves history)) ?_ ?_
  · exact fun _ _ => ⟨rfl, rfl, rfl⟩
  · rintro t older earlier ⟨ids, created, deleted⟩ taken
    have steps := steps_of_step (reachable_valid earlier) taken
    have isCreate : createdId t = ((requestTable Thread).move t).created? := steps.createdId
    have isDelete : deletedId t = ((requestTable Thread).move t).deleted? := steps.deletedId
    unfold Simulates.moves creates deletes creations deletions at *
    rw [List.map_cons, List.countP_cons, List.countP_cons, List.countP_cons, List.countP_cons,
      liveIds, liveKeys, ids, created, deleted, isCreate, isDelete]
    refine ⟨?_, rfl, rfl⟩
    cases ((requestTable Thread).move t).created? with
    | some reqId => rfl
    | none => cases ((requestTable Thread).move t).deleted? <;> rfl

/-- **The ids the guest was given and has not deleted** are those of the live requests. -/
theorem mem_liveIds (run : (threads Thread).Run history process) (reqId : Int32) :
    reqId ∈ liveIds history ↔ process.globals.request? reqId ≠ none := by
  rw [(liveIds_eq run).1]
  exact ((requestTable Thread).accounted run).mem reqId

end Ids

end LayraPS4.NpAuth
