/-
**The request table as the guest sees it.**

`request?` reads the table by request id: the slot a live request is in. Under the two facts every
reachable state has (`Valid`: the counter counts the live slots, and every slot has an id that is an
`s32`), the lookup that every operation starts with is that reading (`findRequest_eq`).
-/

import LayraPS4.Library.SlotVector
import LayraPS4.NpAuth.EntryPoints

namespace LayraPS4.NpAuth

open Cxx SlotVector

/-! ### Ids and slots -/

/-- The slot an id stands for. -/
def slotOf (reqId : Int32) : Nat := indexOf requestIdOffset reqId

/-- The id of a slot. -/
def idOf (slot : Nat) : Int32 := handleOf requestIdOffset slot

theorem slotOf_injective : Function.Injective slotOf := indexOf_injective requestIdOffset

theorem slotOf_idOf {slot : Nat} (small : slot < 0x80000000) : slotOf (idOf slot) = slot :=
  indexOf_handleOf requestIdOffset small

theorem idOf_slotOf {reqId : Int32} (small : slotOf reqId < 0x80000000) : idOf (slotOf reqId) = reqId :=
  handleOf_indexOf requestIdOffset small

/-- How many slots have an id that is an `s32`. -/
def maxSlots : Nat := 0x6fffffff

/-- **The id of a new request**: it overflows for the slots from `maxSlots` on. -/
theorem requestId_eq (slot : Nat) :
    requestId slot = if slot < maxSlots then .ok (idOf slot) else .error .signedOverflow := by
  have offset : requestIdOffset.toInt = 0x10000000 := rfl
  have id : Int32.ofInt (slot + requestIdOffset.toInt + 1) = idOf slot := by
    rw [Int32.ofInt_add, Int32.ofInt_add, Int32.ofInt_eq_ofNat, Int32.ofInt_toInt]
    rfl
  rw [requestId, checkedS32_bind, checkedS32_bind, checkedS32_bind, id]
  unfold s32Min s32Max maxSlots
  by_cases small : slot < 0x6fffffff
  · rw [if_pos (by omega), if_pos (by omega), if_pos (by omega), if_pos small]
    rfl
  · rw [if_neg small]
    split_ifs
    · omega
    all_goals rfl

/-! ### Live requests -/

/-- The slot holds a request. -/
def NpAuthRequest.live (request : NpAuthRequest) : Bool := request.state != .none

theorem NpAuthRequest.live_iff {request : NpAuthRequest} :
    request.live = true ↔ request.state ≠ .none := by
  simp [live]

theorem NpAuthRequest.not_live_iff {request : NpAuthRequest} :
    request.live = false ↔ request.state = .none := by
  rw [← Bool.not_eq_true, live_iff, not_not]

namespace Globals

/-- The live request with this id. -/
def request? (globals : Globals) (reqId : Int32) : Option NpAuthRequest :=
  (globals.gAuthRequests[slotOf reqId]?).filter (·.live)

/-- The number of slots that hold a request. -/
def liveCount (globals : Globals) : Nat := globals.gAuthRequests.countP (·.live)

/-- The counter counts the live slots, and every slot has an id. -/
structure Valid (globals : Globals) : Prop where
  counted : globals.gActiveAuthRequests = globals.liveCount
  indexed : globals.gAuthRequests.length ≤ maxSlots

variable {globals : Globals} {reqId : Int32} {request : NpAuthRequest}

theorem Valid.empty (signedIn : Bool) : Valid { gSignedIn := signedIn } :=
  ⟨rfl, Nat.zero_le _⟩

theorem request?_eq_some :
    globals.request? reqId = some request ↔
      globals.gAuthRequests[slotOf reqId]? = some request ∧ request.live = true :=
  Option.filter_eq_some_iff

theorem request?_eq_none :
    globals.request? reqId = none ↔
      ∀ request, globals.gAuthRequests[slotOf reqId]? = some request → request.live = false := by
  simp [request?, Option.filter_eq_none_iff]

/-- The counter is at most the length of the vector. -/
theorem Valid.active_le (valid : globals.Valid) : globals.gActiveAuthRequests ≤ maxSlots := by
  have bound : globals.liveCount ≤ globals.gAuthRequests.length := List.countP_le_length
  have := valid.counted
  have := valid.indexed
  omega

theorem Valid.lt_of_lt_length {slot : Nat} (valid : globals.Valid)
    (bound : slot < globals.gAuthRequests.length) : slot < 0x80000000 := by
  have := valid.indexed
  unfold maxSlots at this
  omega

/-- A live request is in a slot an `s32` indexes. -/
theorem Valid.slotOf_lt (valid : globals.Valid) (found : globals.request? reqId = some request) :
    slotOf reqId < 0x80000000 := by
  obtain ⟨bound, _⟩ := List.getElem?_eq_some_iff.mp (request?_eq_some.mp found).1
  exact valid.lt_of_lt_length bound

/-- With a live request the counter is positive. -/
theorem Valid.active_pos (valid : globals.Valid) (found : globals.request? reqId = some request) :
    0 < globals.gActiveAuthRequests := by
  obtain ⟨inSlot, live⟩ := request?_eq_some.mp found
  have positive : 0 < globals.liveCount :=
    List.countP_pos_iff.mpr ⟨request, List.mem_of_getElem? inSlot, live⟩
  have := valid.counted
  omega

/-- **The lookup is exact**: it finds the live request with the id, and nothing else. -/
theorem findRequest_eq (valid : globals.Valid) (reqId : Int32) :
    findRequest globals reqId =
      .ok ((globals.request? reqId).map fun request => (slotOf reqId, request)) := by
  have found := @Valid.active_pos globals reqId
  unfold findRequest
  show (if globals.gActiveAuthRequests = 0 ∨
    globals.gAuthRequests.length ≤ slotOf reqId then _ else _) = _
  cases inSlot : globals.gAuthRequests[slotOf reqId]? with
  | none =>
      have past : globals.gAuthRequests.length ≤ slotOf reqId := List.getElem?_eq_none_iff.mp inSlot
      rw [if_pos (.inr past)]
      simp [request?, inSlot]
  | some request =>
      obtain ⟨bound, _⟩ := List.getElem?_eq_some_iff.mp inSlot
      by_cases live : request.live = true
      · have here : globals.request? reqId = some request := request?_eq_some.mpr ⟨inSlot, live⟩
        have active := found valid here
        rw [if_neg (by omega), here]
        simp [show asSize (requestIndex reqId) = slotOf reqId from rfl, inSlot,
          NpAuthRequest.live_iff.mp live]
      · have dead : globals.request? reqId = none :=
          request?_eq_none.mpr fun other same => by
            cases inSlot.symm.trans same
            simpa using live
        have state : request.state = .none :=
          NpAuthRequest.not_live_iff.mp ((Bool.not_eq_true _).mp live)
        rw [dead]
        split
        · rfl
        · simp [show asSize (requestIndex reqId) = slotOf reqId from rfl, inSlot, state]

/-! ### Writing a slot -/

/-- Writing the slot of one id leaves the requests of all others. -/
theorem request?_setRequest (bound : slotOf reqId < globals.gAuthRequests.length)
    (request : NpAuthRequest) (other : Int32) :
    (globals.setRequest (slotOf reqId) request).request? other =
      if other = reqId then (if request.live then some request else none)
      else globals.request? other := by
  unfold request? setRequest
  dsimp only
  by_cases same : other = reqId
  · subst same
    rw [if_pos rfl, List.getElem?_set_self bound, Option.filter_some]
  · rw [if_neg same, List.getElem?_set_ne fun equal => same (slotOf_injective equal).symm]

@[simp] theorem setRequest_length (slot : Nat) (request : NpAuthRequest) :
    (globals.setRequest slot request).gAuthRequests.length = globals.gAuthRequests.length :=
  List.length_set

theorem request?_setRequest_self {next : NpAuthRequest}
    (found : globals.request? reqId = some request) (live : next.live = true) :
    (globals.setRequest (slotOf reqId) next).request? reqId = some next := by
  obtain ⟨bound, _⟩ := List.getElem?_eq_some_iff.mp (request?_eq_some.mp found).1
  rw [request?_setRequest bound, if_pos rfl, if_pos live]

/-- Writing back what is there changes nothing. -/
theorem setRequest_self (found : globals.request? reqId = some request) :
    globals.setRequest (slotOf reqId) request = globals := by
  obtain ⟨bound, inSlot⟩ := List.getElem?_eq_some_iff.mp (request?_eq_some.mp found).1
  unfold setRequest
  rw [← inSlot, List.set_getElem_self]

/-- Writing a live request over a live one keeps the count. -/
theorem Valid.setRequest {next : NpAuthRequest} (valid : globals.Valid)
    (found : globals.request? reqId = some request) (live : next.live = true) :
    (globals.setRequest (slotOf reqId) next).Valid := by
  obtain ⟨inSlot, used⟩ := request?_eq_some.mp found
  have count := countP_set_used (·.live) inSlot used next
  refine ⟨?_, by simpa using valid.indexed⟩
  rw [if_pos live] at count
  have := valid.counted
  show globals.gActiveAuthRequests = ((globals.gAuthRequests.set _ next).countP _ : Nat)
  unfold liveCount at this
  omega

end Globals

end LayraPS4.NpAuth
