/-
**Creating requests on one thread.**

Without another thread between the read of the limit and the critical section, the counter never
passes the limit, and neither does the number of slots: a slot is added when all that exist are in
use, and then there are fewer than sixteen of them.

`create_exact`: a create fails at sixteen live requests and at no other number of them, and says
which slot it takes otherwise.
-/

import LayraPS4.NpAuth.Calls
import LayraPS4.NpAuth.Effects

namespace LayraPS4.NpAuth

open Cxx Runs SlotVector

/-! ### The limit holds -/

/-- No more requests and no more slots than the limit. -/
structure Globals.Fits (globals : Globals) : Prop where
  active : globals.gActiveAuthRequests ≤ requestLimit
  slots : (globals.gAuthRequests.length : Int) ≤ requestLimit

section Fits

variable {globals next : Globals}

/-- Below the limit there is a slot for the next create. -/
theorem Globals.Fits.freeSlot_lt (fits : globals.Fits) (valid : globals.Valid)
    (room : limitReached globals = false) : (globals.freeSlot : Int) < requestLimit := by
  have notFull : globals.gActiveAuthRequests ≠ requestLimit := by simpa [limitReached] using room
  have before := globals.freeSlot_le_liveCount
  have counted := valid.counted
  have active := fits.active
  omega

theorem Globals.Fits.afterCreate (fits : globals.Fits) (valid : globals.Valid)
    (room : limitReached globals = false) (async : Bool) : (globals.afterCreate async).Fits := by
  have slot := fits.freeSlot_lt valid room
  have notFull : globals.gActiveAuthRequests ≠ requestLimit := by simpa [limitReached] using room
  refine ⟨?_, ?_⟩
  · show globals.gActiveAuthRequests + 1 ≤ requestLimit
    have active := fits.active
    omega
  · show ((put _ _ _).length : Int) ≤ requestLimit
    rw [length_put]
    split
    · rename_i full
      push_cast
      omega
    · exact fits.slots

theorem Globals.Fits.apply (fits : globals.Fits) (reqId : Int32) (effect : Effect) :
    (effect.apply globals reqId).Fits := by
  rcases effect with _ | request | request
  · exact fits
  · exact ⟨fits.active, by simpa [Effect.apply] using fits.slots⟩
  · refine ⟨?_, by simpa [Effect.apply, Globals.remove] using fits.slots⟩
    have active := fits.active
    show globals.gActiveAuthRequests - 1 ≤ requestLimit
    omega

/-- A call keeps the limit. -/
theorem Globals.Fits.run (fits : globals.Fits) (valid : globals.Valid) {call : Call}
    {answer : Answer} (ran : call.run globals = .ok (answer, next)) : next.Fits := by
  match call with
  | .create entry =>
      have made : ∃ reply, entry.run globals = .ok (reply, next) := by
        obtain ⟨code, made, _⟩ | ⟨reqId, made, _⟩ := Call.run_create ran
        · exact ⟨_, made⟩
        · exact ⟨_, made⟩
      obtain ⟨reply, made⟩ := made
      obtain ⟨_, _, _, rfl⟩ | ⟨_, _, _, _, rfl⟩ | ⟨async, _, room, _, rfl⟩ :=
        CreateEntry.run_cases made
      · exact fits
      · exact fits
      · exact fits.afterCreate valid room async
  | .request env reqId entry =>
      obtain ⟨reply, made, _⟩ := Call.run_request ran
      obtain ⟨effect, _, _, rfl⟩ := outcome_of_run valid made
      exact fits.apply reqId effect
  | .registerLib psnSignedIn =>
      cases ran
      exact ⟨fits.active, fits.slots⟩

/-- **The limit holds** throughout a single-threaded run. -/
theorem singleThread_fits {history : History Globals Call Answer}
    (run : singleThread.Run history globals) : globals.Fits := by
  refine run.history_invariant (fun _ globals => globals.Fits) ?_ ?_
  · rintro _ rfl
    exact ⟨by decide, by decide⟩
  · intro t older earlier fits taken
    exact fits.run (singleThread_valid earlier) taken

end Fits

/-! ### What a create does -/

/-- The ids of the slots an id can be computed for without wrapping around. -/
theorem idOf_toInt {slot : Nat} (small : slot < 0x60000000) :
    (idOf slot).toInt = 0x10000001 + slot := by
  have index : (Int32.ofNat slot).toInt = slot := Int32.toInt_ofNat_of_lt (by omega)
  have offset : requestIdOffset.toInt = 0x10000000 := rfl
  have one : (1 : Int32).toInt = 1 := rfl
  unfold idOf handleOf
  rw [Int32.toInt_add, Int32.toInt_add, index, offset, one,
    Int.bmod_eq_of_le (n := (slot : Int) + 0x10000000) (by omega) (by omega),
    Int.bmod_eq_of_le (by omega) (by omega)]
  omega

/-- A create takes this slot. -/
structure TakesSlot (globals : Globals) (async : Bool) (slot : Nat) (reqId : Int32)
    (next : Globals) : Prop where
  id : reqId.toInt = 0x10000001 + slot
  free : ∀ request, globals.gAuthRequests[slot]? = some request → request.state = .none
  first : ∀ earlier < slot, ∃ request, globals.gAuthRequests[earlier]? = some request ∧
    request.state ≠ .none
  ready : ∃ request, next.gAuthRequests[slot]? = some request ∧ request.state = .ready ∧
    request.async = async
  others : ∀ other ≠ slot, next.gAuthRequests[other]? = globals.gAuthRequests[other]?
  counter : next.gActiveAuthRequests = globals.gActiveAuthRequests + 1
  grows : next.gAuthRequests.length = globals.gAuthRequests.length +
    if ∃ request ∈ globals.gAuthRequests, request.state = .none then 0 else 1

section Create

variable {globals : Globals}

theorem freeSlot_lt_iff :
    globals.freeSlot < globals.gAuthRequests.length ↔
      ∃ request ∈ globals.gAuthRequests, request.state = .none := by
  unfold Globals.freeSlot firstFree
  simp [List.findIdx_lt_length, NpAuthRequest.not_live_iff]

/-- **The slot of a create** is the first without a request. -/
theorem afterCreate_takesSlot (fits : globals.Fits) (valid : globals.Valid)
    (room : limitReached globals = false) (async : Bool) :
    TakesSlot globals async globals.freeSlot globals.newId (globals.afterCreate async) := by
  have within : globals.freeSlot ≤ globals.gAuthRequests.length := firstFree_le _ _
  have small : (globals.freeSlot : Int) < 0x10 := fits.freeSlot_lt valid room
  refine ⟨idOf_toInt (by omega), ?_, ?_, ?_, ?_, rfl, ?_⟩
  · intro request found
    exact NpAuthRequest.not_live_iff.mp (firstFree_free _ found)
  · intro earlier before
    have bound : earlier < globals.gAuthRequests.length := by omega
    have used := used_of_lt_firstFree _ bound before
    exact ⟨_, List.getElem?_eq_getElem bound, NpAuthRequest.live_iff.mp used⟩
  · refine ⟨globals.newRequest async, ?_, rfl, rfl⟩
    exact (getElem?_put within _ _).trans (if_pos rfl)
  · intro other distinct
    exact (getElem?_put within _ _).trans (if_neg distinct)
  · show (put _ _ _).length = _
    simp only [length_put, ← freeSlot_lt_iff]
    split_ifs <;> omega

theorem limitReached_iff (valid : globals.Valid) :
    limitReached globals = true ↔ globals.liveCount = 16 := by
  have counted := valid.counted
  unfold limitReached requestLimit
  rw [beq_iff_eq]
  omega

/-- Below the limit a create succeeds. -/
theorem createNpAuthRequest_ok (fits : globals.Fits) (valid : globals.Valid)
    (room : limitReached globals = false) (async : Bool) :
    createNpAuthRequest globals async = .ok (.ok globals.newId, globals.afterCreate async) := by
  have active := fits.active
  unfold requestLimit at active
  rw [createNpAuthRequest, if_neg (by simp [room]),
    valid.createSection_ok (by unfold maxSlots; omega)]
  rfl

/-- The ids that creates return. -/
theorem created_range (fits : globals.Fits) (valid : globals.Valid) {call : Call} {reqId : Int32}
    {next : Globals} (ran : call.run globals = .ok (.created reqId, next)) :
    0x10000001 ≤ reqId.toInt ∧ reqId.toInt ≤ 0x10000010 := by
  match call with
  | .create entry =>
      obtain ⟨_, _, answers⟩ | ⟨made, ran, answers⟩ := Call.run_create ran
      · cases answers
      · cases answers
        obtain ⟨_, _, refused, _⟩ | ⟨_, _, _, refused, _⟩ | ⟨async, _, room, same, _⟩ :=
          CreateEntry.run_cases ran
        · cases refused
        · cases refused
        · obtain rfl := Except.ok.inj same
          have id := (afterCreate_takesSlot fits valid room async).id
          have small : (globals.freeSlot : Int) < 0x10 := fits.freeSlot_lt valid room
          omega
  | .request env reqId entry =>
      obtain ⟨_, _, answers⟩ := Call.run_request ran
      cases answers
  | .registerLib psnSignedIn => cases ran

end Create

/-- **Creating a request**, at every state of a single-threaded run: it fails, and changes nothing,
exactly at sixteen live requests; else it takes the first slot without a request. There are never
more than sixteen slots, and the ids are those of sixteen slots. -/
theorem create_exact {history : History Globals Call Answer} {globals : Globals}
    (run : singleThread.Run history globals) :
    (∀ async, createNpAuthRequest globals async = .ok (.error .requestMax, globals) ↔
      globals.liveCount = 16) ∧
    (∀ async, globals.liveCount ≠ 16 → ∃ slot reqId next,
      createNpAuthRequest globals async = .ok (.ok reqId, next) ∧
        TakesSlot globals async slot reqId next) ∧
    globals.gAuthRequests.length ≤ 16 ∧
    ∀ t ∈ history, ∀ reqId, t.answer = .created reqId →
      0x10000001 ≤ reqId.toInt ∧ reqId.toInt ≤ 0x10000010 := by
  have valid := singleThread_valid run
  have fits := singleThread_fits run
  have creates : ∀ async, globals.liveCount ≠ 16 → createNpAuthRequest globals async =
      .ok (.ok globals.newId, globals.afterCreate async) ∧
        TakesSlot globals async globals.freeSlot globals.newId (globals.afterCreate async) := by
    intro async notFull
    have room : limitReached globals = false := by
      rw [← Bool.not_eq_true, limitReached_iff valid]
      exact notFull
    exact ⟨createNpAuthRequest_ok fits valid room async,
      afterCreate_takesSlot fits valid room async⟩
  refine ⟨fun async => ⟨fun refused => ?_, fun full => ?_⟩, ?_, ?_, ?_⟩
  · by_contra notFull
    cases (creates async notFull).1.symm.trans refused
  · rw [createNpAuthRequest, if_pos ((limitReached_iff valid).mpr full)]
  · exact fun async notFull => ⟨_, _, _, creates async notFull⟩
  · have slots := fits.slots
    unfold requestLimit at slots
    omega
  · intro t member reqId created
    obtain ⟨⟨older, earlier⟩, taken⟩ := run.of_mem member
    rw [created] at taken
    exact created_range (singleThread_fits earlier) (singleThread_valid earlier) taken

/-- Two creates, and a delete of the first: the next create takes the first slot. -/
theorem create_exact_session :
    ∃ slot reqId next,
      createNpAuthRequest ⟨false, 1, [⟨.none, false, .ok⟩, ⟨.ready, false, .ok⟩]⟩ true =
        .ok (.ok reqId, next) ∧
      TakesSlot ⟨false, 1, [⟨.none, false, .ok⟩, ⟨.ready, false, .ok⟩]⟩ true slot reqId next := by
  have run : singleThread.Run _ _ := .of_exec (show singleThread.start {} from rfl)
    [.create .createRequest, .create .createRequest, .request offline 0x10000001 .deleteRequest] rfl
  exact (create_exact run).2.1 true (by decide)

end LayraPS4.NpAuth
