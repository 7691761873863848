/-
**Creating a request.**

`createSection`, what the mutex of `CreateNpAuthRequest` protects, takes the first slot without a
request, or a new one at the end (`createSection_eq`). The two cases differ in one field: a new slot
starts with the result `ORBIS_OK`, while a slot that is used again keeps the result of the request
that had it (`Globals.leftover`).

* `createSection_ok`: the id is the one of that slot and the table is `Globals.afterCreate`;
* `Valid.createSection_faults_iff`: it has no meaning only when the ids have run out;
* `request?_newId`, `request?_afterCreate`: the id was free, and is now the new request's;
* `Valid.afterCreate`: the counter still counts the live slots.
-/

import LayraPS4.NpAuth.Requests

namespace LayraPS4.NpAuth

open Cxx SlotVector

/-! ### The slot a create takes -/

namespace Globals

/-- The slot the next create takes. -/
def freeSlot (globals : Globals) : Nat := firstFree (·.live) globals.gAuthRequests

/-- The id the next create returns. -/
def newId (globals : Globals) : Int32 := idOf globals.freeSlot

/-- The `result` the next create leaves in its slot: `ORBIS_OK` in a new one, else what the request
that had the slot before left there. -/
def leftover (globals : Globals) : OrbisCode :=
  match globals.gAuthRequests[globals.freeSlot]? with
  | none => .ok
  | some request => request.result

/-- The request the next create puts there. -/
def newRequest (globals : Globals) (async : Bool) : NpAuthRequest :=
  ⟨.ready, async, globals.leftover⟩

/-- The globals after the next create. -/
def afterCreate (globals : Globals) (async : Bool) : Globals :=
  { globals with
    gActiveAuthRequests := globals.gActiveAuthRequests + 1
    gAuthRequests := put globals.gAuthRequests globals.freeSlot (globals.newRequest async) }

end Globals

section Loop

variable (async : Bool) (requests : List NpAuthRequest)

/-- The loop stops at the first slot without a request. -/
theorem createLoop_index :
    (createLoop async requests).1 = firstFree (·.live) requests := by
  induction requests with
  | nil => rfl
  | cons request rest ih =>
      rw [createLoop, firstFree_cons]
      by_cases used : request.live = true
      · rw [if_neg (NpAuthRequest.live_iff.mp used), if_pos used, ← ih]
      · rw [if_pos (NpAuthRequest.not_live_iff.mp ((Bool.not_eq_true _).mp used)), if_neg used]

/-- The loop leaves the number of slots. -/
theorem createLoop_length : (createLoop async requests).2.length = requests.length := by
  induction requests with
  | nil => rfl
  | cons request rest ih =>
      rw [createLoop]
      split
      · rfl
      · exact congrArg (· + 1) ih

/-- The loop fills that slot if there is one. -/
theorem createLoop_slots (slot : Nat) :
    (createLoop async requests).2[slot]? =
      if slot = firstFree (·.live) requests then
        requests[slot]?.map fun request => { request with state := .ready, async }
      else requests[slot]? := by
  induction requests generalizing slot with
  | nil => simp [createLoop]
  | cons request rest ih =>
      rw [createLoop, firstFree_cons]
      by_cases used : request.live = true
      · rw [if_neg (NpAuthRequest.live_iff.mp used), if_pos used]
        cases slot with
        | zero => simp
        | succ slot => simpa using ih slot
      · rw [if_pos (NpAuthRequest.not_live_iff.mp ((Bool.not_eq_true _).mp used)), if_neg used]
        cases slot <;> simp

end Loop

section Section

variable {globals : Globals} {async : Bool}

/-- The loop and the `emplace_back` after it put the new request in the first free slot. -/
theorem createLoop_put :
    (let (reqIndex, requests) := createLoop async globals.gAuthRequests
      if reqIndex = requests.length then requests ++ [⟨.ready, async, .ok⟩] else requests) =
      put globals.gAuthRequests globals.freeSlot (globals.newRequest async) := by
  have index : _ = globals.freeSlot := createLoop_index async globals.gAuthRequests
  have length := createLoop_length async globals.gAuthRequests
  have slots : ∀ slot, _ = if slot = globals.freeSlot then _ else _ :=
    createLoop_slots async globals.gAuthRequests
  have within : globals.freeSlot ≤ globals.gAuthRequests.length := firstFree_le _ _
  generalize createLoop async globals.gAuthRequests = loop at index length slots ⊢
  obtain ⟨reqIndex, requests⟩ := loop
  dsimp only at index length slots ⊢
  refine List.ext_getElem? fun slot => ?_
  rw [getElem?_put within, length, index]
  by_cases full : globals.freeSlot = globals.gAuthRequests.length
  · -- no free slot: the request goes to the end
    rw [if_pos full, List.getElem?_append, slots, length]
    by_cases here : slot = globals.freeSlot
    · simp [here, full, Globals.newRequest, Globals.leftover]
    · rw [if_neg here, if_neg here]
      by_cases before : slot < globals.gAuthRequests.length
      · rw [if_pos before]
      · rw [if_neg before, List.getElem?_eq_none (by simp; omega),
          List.getElem?_eq_none (by omega)]
  · -- the slot is used again, with the result it had
    have bound : globals.freeSlot < globals.gAuthRequests.length := by omega
    rw [if_neg full, slots]
    by_cases here : slot = globals.freeSlot
    · rw [if_pos here, if_pos here, here]
      simp [Globals.newRequest, Globals.leftover, bound]
    · rw [if_neg here, if_neg here]

/-- **The critical section of a create**: it can overflow the counter, and the id. -/
theorem createSection_eq :
    createSection globals async = do
      let _ ← checkedS32 (globals.gActiveAuthRequests + 1)
      let reqId ← requestId globals.freeSlot
      return (reqId, globals.afterCreate async) := by
  have index := createLoop_index async globals.gAuthRequests
  have filled := @createLoop_put globals async
  unfold createSection
  generalize createLoop async globals.gAuthRequests = loop at index filled ⊢
  obtain ⟨reqIndex, requests⟩ := loop
  dsimp only at index filled ⊢
  rw [filled, index, checkedS32_bind, checkedS32_bind]
  rfl

/-- A critical section that returns has found a slot with an id. -/
theorem createSection_ok {reqId : Int32} {next : Globals}
    (created : createSection globals async = .ok (reqId, next)) :
    reqId = globals.newId ∧ next = globals.afterCreate async ∧ globals.freeSlot < maxSlots := by
  rw [createSection_eq, checkedS32_bind, requestId_eq] at created
  split_ifs at created with counted room
  · obtain ⟨rfl, rfl⟩ := Prod.mk.inj (Except.ok.inj created)
    exact ⟨rfl, rfl, room⟩
  · cases created

namespace Globals

/-- All slots before the next one are taken. -/
theorem freeSlot_le_liveCount (globals : Globals) : globals.freeSlot ≤ globals.liveCount :=
  firstFree_le_countP _ _

/-- The counter never overflows before the ids do. -/
theorem Valid.counter_fits (valid : globals.Valid) :
    checkedS32 (globals.gActiveAuthRequests + 1) = .ok (globals.gActiveAuthRequests + 1) := by
  have counted := valid.counted
  have bound := valid.active_le
  unfold maxSlots at bound
  exact checkedS32_ok (by unfold s32Min; omega) (by unfold s32Max; omega)

theorem Valid.freeSlot_lt_maxSlots (valid : globals.Valid)
    (room : globals.gActiveAuthRequests < maxSlots) : globals.freeSlot < maxSlots := by
  have counted := valid.counted
  have before := globals.freeSlot_le_liveCount
  omega

/-- With fewer requests than there are ids, the critical section creates one. -/
theorem Valid.createSection_ok (valid : globals.Valid)
    (room : globals.gActiveAuthRequests < maxSlots) (async : Bool) :
    createSection globals async = .ok (globals.newId, globals.afterCreate async) := by
  rw [createSection_eq, valid.counter_fits, requestId_eq,
    if_pos (valid.freeSlot_lt_maxSlots room)]
  rfl

theorem Valid.freeSlot_lt (valid : globals.Valid) : globals.freeSlot < 0x80000000 := by
  have within : globals.freeSlot ≤ globals.gAuthRequests.length := firstFree_le _ _
  have := valid.indexed
  unfold maxSlots at this
  omega

/-- **When the critical section overflows**: exactly with as many live requests as there are ids. -/
theorem Valid.createSection_faults_iff (valid : globals.Valid) (async : Bool) :
    (∃ fault, createSection globals async = .error fault) ↔ globals.liveCount = maxSlots := by
  have counted := valid.counted
  have live : globals.liveCount ≤ globals.gAuthRequests.length := List.countP_le_length
  have slots := valid.indexed
  by_cases room : globals.gActiveAuthRequests < maxSlots
  · rw [valid.createSection_ok room]
    exact iff_of_false (fun ⟨_, faults⟩ => nomatch faults) (by omega)
  · -- every slot is in use, so the next one has no id
    have full : globals.freeSlot = globals.gAuthRequests.length :=
      (firstFree_eq_length_iff _).mpr (show globals.liveCount = _ by omega)
    rw [createSection_eq, valid.counter_fits, requestId_eq, if_neg (by omega)]
    exact iff_of_true ⟨_, rfl⟩ (by omega)

theorem Valid.slotOf_newId (valid : globals.Valid) : slotOf globals.newId = globals.freeSlot :=
  slotOf_idOf valid.freeSlot_lt

/-- **The id of a create was free.** -/
theorem request?_newId (valid : globals.Valid) : globals.request? globals.newId = none := by
  refine request?_eq_none.mpr fun request found => ?_
  rw [valid.slotOf_newId] at found
  exact firstFree_free _ found

/-- **A create** adds the new request and leaves the others. -/
theorem request?_afterCreate (valid : globals.Valid) (async : Bool) (other : Int32) :
    (globals.afterCreate async).request? other =
      if other = globals.newId then some (globals.newRequest async)
      else globals.request? other := by
  have within : globals.freeSlot ≤ globals.gAuthRequests.length := firstFree_le _ _
  unfold request? afterCreate
  dsimp only
  rw [getElem?_put within]
  by_cases same : other = globals.newId
  · subst same
    rw [if_pos valid.slotOf_newId, if_pos rfl]
    rfl
  · rw [if_neg same, if_neg fun slot => same (slotOf_injective (slot.trans valid.slotOf_newId.symm))]

theorem Valid.afterCreate (valid : globals.Valid) (room : globals.freeSlot < maxSlots)
    (async : Bool) : (globals.afterCreate async).Valid := by
  have within : globals.freeSlot ≤ globals.gAuthRequests.length := firstFree_le _ _
  have counted := valid.counted
  have free : ∀ old, globals.gAuthRequests[globals.freeSlot]? = some old → old.live = false :=
    fun _ found => firstFree_free _ found
  refine ⟨?_, ?_⟩
  · have count := countP_put _ free within (show (globals.newRequest async).live = true from rfl)
    show globals.gActiveAuthRequests + 1 = ((put _ _ _).countP _ : Nat)
    rw [count, counted]
    rfl
  · show (put _ _ _).length ≤ maxSlots
    rw [length_put]
    split
    · rename_i full
      exact full ▸ room
    · exact valid.indexed

end Globals

end Section

end LayraPS4.NpAuth
