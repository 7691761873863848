/-
**A thread can always clean up.**

Whatever the threads have done, and also where their creates have taken the counter past the limit: a
thread that is not in the middle of a create can delete the live requests one after the other, in any
order, each delete is answered with `ORBIS_OK`, and then there are none (`drained`). The guest needs
nothing for it but its own records: the ids it was given and has not deleted.
-/

import LayraPS4.NpAuth.Accounting
import LayraPS4.NpAuth.Calls
import LayraPS4.Library.Observation

set_option linter.unusedSectionVars false

namespace LayraPS4.NpAuth

open Cxx Runs SlotVector

variable {Thread : Type} [DecidableEq Thread]

/-- A thread's call of `sceNpAuthDeleteRequest`. -/
def deletion (thread : Thread) (reqId : Int32) : Action Thread :=
  .call thread offline reqId .deleteRequest

section Drain

variable {history : ThreadHistory Thread} {process : Process Thread} {thread : Thread}

theorem step_deletes (idle : process.creating thread = none) (valid : process.globals.Valid)
    {reqId : Int32} {request : NpAuthRequest}
    (found : process.globals.request? reqId = some request) :
    (threads Thread).step process (deletion thread reqId) = .ok (.returned ⟨.ok, {}⟩,
      { process with globals := process.globals.remove reqId request }) := by
  have deleted : Entry.deleteRequest.run offline process.globals reqId =
      .ok (⟨.ok, {}⟩, process.globals.remove reqId request) := by
    show sceNpAuthDeleteRequest process.globals reqId = _
    rw [sceNpAuthDeleteRequest_eq valid, found]
  show process.step (deletion thread reqId) = _
  dsimp only [deletion, Process.step]
  rw [if_pos idle, deleted]

/-- **One delete after the other.** The ids are those of the live requests, in any order. -/
theorem deletes_all {ids : List Int32} (run : (threads Thread).Run history process)
    (idle : process.creating thread = none) (distinct : ids.Nodup)
    (live : ∀ reqId, reqId ∈ ids ↔ process.globals.request? reqId ≠ none) :
    ∃ newer after, (threads Thread).Run (newer ++ history) after ∧
      (newer.map Transition.exchange).reverse =
        ids.map (fun reqId => (deletion thread reqId, .returned ⟨.ok, {}⟩)) ∧
      (∀ reqId, after.globals.request? reqId = none) ∧
      after.globals.gAuthRequests.length = process.globals.gAuthRequests.length := by
  induction ids generalizing history process with
  | nil =>
      refine ⟨[], process, run, rfl, fun reqId => ?_, rfl⟩
      exact not_not.mp fun found => absurd ((live reqId).mpr found) List.not_mem_nil
  | cons reqId ids ih =>
      obtain ⟨notLater, distinct⟩ := List.nodup_cons.mp distinct
      obtain ⟨request, found⟩ :=
        Option.ne_none_iff_exists'.mp ((live reqId).mp List.mem_cons_self)
      have left := Globals.request?_remove found
      obtain ⟨newer, after, all, answers, empty, length⟩ :=
        ih (run.step (step_deletes idle (reachable_valid run) found)) idle distinct fun other => by
          rw [left other]
          by_cases same : other = reqId
          · rw [if_pos same, same]
            exact iff_of_false notLater (not_not.mpr rfl)
          · rw [if_neg same, ← live other, List.mem_cons, or_iff_right same]
      refine ⟨newer ++ [_], after, by rw [List.append_assoc]; exact all, ?_, empty, ?_⟩
      · rw [List.map_append, List.reverse_append, answers]
        rfl
      · rw [length]
        exact Globals.setRequest_length _ _

/-- **Cleaning up.** In every reachable state a thread that is not in the middle of a create can delete
the ids that were handed out and not deleted, in any order. Every delete succeeds; afterwards no
request is live, the counter is zero, the next id is the first again, and the vector is as long as it
was. -/
theorem drained (run : (threads Thread).Run history process)
    (idle : process.creating thread = none) {ids : List Int32} (all : ids.Perm (liveIds history)) :
    ∃ newer after, (threads Thread).Run (newer ++ history) after ∧
      (newer.map Transition.exchange).reverse =
        ids.map (fun reqId => (deletion thread reqId, .returned ⟨.ok, {}⟩)) ∧
      after.globals.gActiveAuthRequests = 0 ∧ after.globals.newId = 0x10000001 ∧
      after.globals.gAuthRequests.length = process.globals.gAuthRequests.length := by
  have distinct : (liveIds history).Nodup := by
    rw [(liveIds_eq run).1]
    exact ((requestTable Thread).accounted run).nodup
  obtain ⟨newer, after, more, answers, empty, length⟩ :=
    deletes_all run idle (all.nodup_iff.mpr distinct) fun reqId => by
      rw [all.mem_iff, mem_liveIds run]
  have none : liveIds (newer ++ history) = [] :=
    List.eq_nil_iff_forall_not_mem.mpr fun reqId => by
      rw [mem_liveIds more, empty]
      exact not_not.mpr rfl
  have count := liveIds_length more
  rw [none] at count
  refine ⟨newer, after, more, answers, ?_, ?_, length⟩
  · rw [(reachable_valid more).counted, ← count]
    rfl
  · have first : after.globals.freeSlot ≤ 0 := by
      refine (isLeast_firstFree after.globals.gAuthRequests).2 fun used => ?_
      obtain ⟨request, inSlot, live⟩ := usedAt_iff.mp used
      have found : after.globals.request? (idOf 0) = some request :=
        Globals.request?_eq_some.mpr ⟨inSlot, live⟩
      exact Option.some_ne_none request (found.symm.trans (empty _))
    rw [Globals.newId, Nat.le_zero.mp first]
    rfl

/-- Three requests of three threads, deleted by the first of them, the middle one first. -/
theorem drained_session :
    ∃ history process, (threads Nat).Run history process ∧
      liveIds history = [0x10000003, 0x10000002, 0x10000001] ∧
      ∃ newer after, (threads Nat).Run (newer ++ history) after ∧
        (newer.map Transition.exchange).reverse =
          [0x10000002, 0x10000003, 0x10000001].map
            (fun reqId => (deletion 0 reqId, .returned ⟨.ok, {}⟩)) ∧
        after.globals.gActiveAuthRequests = 0 ∧ after.globals.newId = 0x10000001 ∧
        after.globals.gAuthRequests.length = process.globals.gAuthRequests.length := by
  have run : (threads Nat).Run _ _ :=
    .of_exec rfl (createSync 0 ++ createAsync 1 ++ createSync 2) rfl
  exact ⟨_, _, run, rfl, drained run rfl (by decide)⟩

end Drain

end LayraPS4.NpAuth
