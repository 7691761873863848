/-
**The table is all there is to tell.**

Two states of a single thread answer every sequence of calls alike if and only if they show the same
table (`indistinguishable_iff`). One direction is the refinement of `SlotTable`: the length of the
vector, the counter and the state a freed slot was left in cannot be observed. The other is a
collection of probes: calls that read the sign-in flag, a request, and the `result` left in a slot
without one, which takes creates until the slot is the next to be used.
-/

import LayraPS4.NpAuth.SlotTable

namespace LayraPS4.NpAuth

open Cxx Runs SlotVector

/-! ### The probes -/

section Probes

variable {globals : Globals} {reqId : Int32} {request : NpAuthRequest}

/-- A call that asks something of a live request. -/
theorem call_asks {env : Env} {entry : Entry} {op : RequestOp} {reply : Reply}
    {after : NpAuthRequest} (valid : globals.Valid)
    (asks : entry.op? env globals.gSignedIn = some op)
    (found : globals.request? reqId = some request) (acted : op.act request = .ok (reply, after)) :
    singleThread.step globals (.request env reqId entry) =
      .ok (.returned reply, globals.setRequest (slotOf reqId) after) := by
  show (do let result ← entry.run env globals reqId; _) = _
  rw [run_eq_perform valid asks, Globals.perform_of_act found acted]
  rfl

/-- A call on an id without a request. -/
theorem call_missing {env : Env} {entry : Entry} {op : RequestOp} (valid : globals.Valid)
    (asks : entry.op? env globals.gSignedIn = some op) (missing : globals.request? reqId = none) :
    singleThread.step globals (.request env reqId entry) =
      .ok (.returned ⟨.requestNotFound, {}⟩, globals) := by
  show (do let result ← entry.run env globals reqId; _) = _
  rw [run_eq_perform valid asks, Globals.perform_of_none missing]
  rfl

theorem call_deletes (valid : globals.Valid) (found : globals.request? reqId = some request) :
    singleThread.step globals (.request offline reqId .deleteRequest) =
      .ok (.returned ⟨.ok, {}⟩, globals.remove reqId request) := by
  show (do let result ← sceNpAuthDeleteRequest globals reqId; _) = _
  rw [sceNpAuthDeleteRequest_eq valid, found]
  rfl

/-- What an abort leaves of a request. -/
def abortedRequest (request : NpAuthRequest) : NpAuthRequest :=
  if request.state = .complete then request else { request with state := .aborted }

theorem abortedRequest_settled (request : NpAuthRequest) :
    (abortedRequest request).state ≠ .ready := by
  unfold abortedRequest
  split_ifs with complete
  · rw [complete]
    decide
  · exact nofun

@[simp] theorem abortedRequest_async (request : NpAuthRequest) :
    (abortedRequest request).async = request.async := by
  unfold abortedRequest
  split_ifs <;> rfl

@[simp] theorem abortedRequest_result (request : NpAuthRequest) :
    (abortedRequest request).result = request.result := by
  unfold abortedRequest
  split_ifs <;> rfl

theorem abortedRequest_live (live : request.live = true) :
    (abortedRequest request).live = true := by
  unfold abortedRequest
  split_ifs
  · exact live
  · rfl

theorem call_aborts (valid : globals.Valid) (found : globals.request? reqId = some request) :
    singleThread.step globals (.request offline reqId .abortRequest) =
      .ok (.returned ⟨.ok, {}⟩, globals.setRequest (slotOf reqId) (abortedRequest request)) :=
  call_asks valid rfl found rfl

/-- What Wait replies about a request that is not `Ready`. -/
theorem call_waits (valid : globals.Valid) (found : globals.request? reqId = some request)
    (settled : request.state ≠ .ready) :
    singleThread.step globals (.request offline reqId (.waitAsync (some 0))) =
      .ok (.returned (if request.async then ⟨.ok, { result := some request.result }⟩
        else ⟨.invalidId, {}⟩), globals) := by
  have acted : RequestOp.report.act request = .ok (if request.async
      then ⟨.ok, { result := some request.result }⟩ else ⟨.invalidId, {}⟩, request) := by
    cases async : request.async <;> simp [RequestOp.act, settled, async]
  rw [call_asks valid rfl found acted, Globals.setRequest_self found]

/-- A Get tells the three states of a request apart. -/
theorem get_tells (live : request.live = true) (signedIn : Bool) (writes : Writes) :
    ∃ reply after, (RequestOp.get signedIn (.ok writes)).act request = .ok (reply, after) ∧
      (reply.code = .invalidArgument ↔ request.state = .complete) ∧
      (reply.code = .aborted ↔ request.state = .aborted) := by
  obtain ⟨state, async, result⟩ := request
  cases state with
  | none => cases live
  | complete => exact ⟨_, _, rfl, by simp⟩
  | aborted => exact ⟨_, _, rfl, by simp⟩
  | ready =>
      cases signedIn with
      | true => exact ⟨_, _, rfl, by simp⟩
      | false => cases async <;> exact ⟨_, _, rfl, by simp⟩

theorem call_gets (valid : globals.Valid) (found : globals.request? reqId = some request) :
    ∃ reply next, singleThread.step globals (.request offline reqId getCode) =
        .ok (.returned reply, next) ∧
      (reply.code = .invalidArgument ↔ request.state = .complete) ∧
      (reply.code = .aborted ↔ request.state = .aborted) := by
  obtain ⟨reply, after, acted, tells⟩ := get_tells (Globals.request?_eq_some.mp found).2
    globals.gSignedIn { authCode := some ⟨[0, 0, 0, 0]⟩, issuerId := some 0 }
  exact ⟨reply, _, call_asks valid rfl found acted, tells⟩

/-- A Get with the parameters of the first version, which asks for a signed-in user. -/
def legacyGet : Entry :=
  .getAuthorizationCode
    (some ⟨sizeofGetAuthorizationCodeParameter, some ⟨[]⟩, some ⟨[]⟩, some []⟩) (some ⟨[]⟩) (some 0)

/-- That Get tells whether the user is signed in, on an id that is never given out. -/
theorem call_legacyGet (valid : globals.Valid) :
    singleThread.step globals (.request offline 0 legacyGet) =
      .ok (.returned ⟨if globals.gSignedIn then .requestNotFound else .userNotFound, {}⟩,
        globals) := by
  have missing : globals.request? 0 = none := by
    rcases found : globals.request? 0 with _ | request
    · rfl
    · exact absurd (valid.slotOf_lt found) (by decide)
  obtain ⟨signedIn, active, requests⟩ := globals
  cases signedIn with
  | false => rfl
  | true => exact call_missing valid rfl missing

end Probes

/-! ### What the probes tell -/

/-- What every state of a single thread has. -/
def Sound (globals : Globals) : Prop := globals.Valid ∧ globals.Fits

theorem Sound.next {globals next : Globals} {call : Call} {answer : Answer} (sound : Sound globals)
    (taken : singleThread.step globals call = .ok (answer, next)) : Sound next :=
  singleThread_refines.keep _ _ _ _ sound taken

section Told

variable {globals globals' : Globals}

theorem signedIn_told (alike : Indistinguishable singleThread globals globals')
    (sound : Sound globals) (sound' : Sound globals') :
    globals.gSignedIn = globals'.gSignedIn := by
  have told := (alike.both (call_legacyGet sound.1) (call_legacyGet sound'.1)).1
  cases signedIn : globals.gSignedIn <;> cases signedIn' : globals'.gSignedIn <;>
    simp [signedIn, signedIn'] at told ⊢

/-- An id has a request in both states or in neither. -/
theorem live_told (alike : Indistinguishable singleThread globals globals') (sound : Sound globals)
    (sound' : Sound globals') {reqId : Int32} (missing : globals.request? reqId = none) :
    globals'.request? reqId = none := by
  rcases found : globals'.request? reqId with _ | request
  · rfl
  · have told := (alike.both (call_missing sound.1 rfl missing) (call_aborts sound'.1 found)).1
    cases told

/-- An abort and a Wait tell how a request was created, and of an async one the `result`. -/
theorem report_told (alike : Indistinguishable singleThread globals globals')
    (sound : Sound globals) (sound' : Sound globals') {reqId : Int32}
    {request request' : NpAuthRequest} (found : globals.request? reqId = some request)
    (found' : globals'.request? reqId = some request') :
    request.async = request'.async ∧ (request.async = true → request.result = request'.result) := by
  have live := abortedRequest_live (Globals.request?_eq_some.mp found).2
  have live' := abortedRequest_live (Globals.request?_eq_some.mp found').2
  have aborted := alike.both (call_aborts sound.1 found) (call_aborts sound'.1 found')
  have told := (aborted.2.both
    (call_waits (sound.1.setRequest found live) (Globals.request?_setRequest_self found live)
      (abortedRequest_settled request))
    (call_waits (sound'.1.setRequest found' live') (Globals.request?_setRequest_self found' live')
      (abortedRequest_settled request'))).1
  rw [abortedRequest_async, abortedRequest_async, abortedRequest_result, abortedRequest_result]
    at told
  cases async : request.async <;> cases async' : request'.async <;> simp_all

/-- A Get tells the state of a request. -/
theorem state_told (alike : Indistinguishable singleThread globals globals')
    (sound : Sound globals) (sound' : Sound globals') {reqId : Int32}
    {request request' : NpAuthRequest} (found : globals.request? reqId = some request)
    (found' : globals'.request? reqId = some request') : request.state = request'.state := by
  obtain ⟨reply, next, taken, complete, aborted⟩ := call_gets sound.1 found
  obtain ⟨reply', next', taken', complete', aborted'⟩ := call_gets sound'.1 found'
  cases (alike.both taken taken').1
  have live := NpAuthRequest.live_iff.mp (Globals.request?_eq_some.mp found).2
  have live' := NpAuthRequest.live_iff.mp (Globals.request?_eq_some.mp found').2
  have completes := complete.symm.trans complete'
  have aborts := aborted.symm.trans aborted'
  cases state : request.state <;> cases state' : request'.state <;> simp_all

/-! ### Slots without a request -/

/-- Beyond the end of the vector. -/
theorem slotAt_past {index : Nat} (past : globals.gAuthRequests.length ≤ index) :
    globals.slotAt index = .free .ok := by
  rw [Globals.slotAt, List.getElem?_eq_none past]

theorem Sound.length_le (sound : Sound globals) : globals.gAuthRequests.length ≤ 16 := by
  have slots := sound.2.slots
  unfold requestLimit at slots
  omega

/-- A slot has a request in both states or in neither. -/
theorem free_told (alike : Indistinguishable singleThread globals globals') (sound : Sound globals)
    (sound' : Sound globals') {index : Nat} (free : (globals.slotAt index).request? = none) :
    (globals'.slotAt index).request? = none := by
  by_cases small : index < 16
  · have slot : slotOf (idOf index) = index := slotOf_idOf (by omega)
    rw [← slot, Globals.slotAt_slotOf] at free ⊢
    exact live_told alike sound sound' free
  · have bound := sound'.length_le
    rw [slotAt_past (by omega)]
    rfl

theorem freeSlot_told (alike : Indistinguishable singleThread globals globals')
    (sound : Sound globals) (sound' : Sound globals') : globals.freeSlot = globals'.freeSlot := by
  have free := (@Globals.isLeast_freeSlot globals).1
  have free' := (@Globals.isLeast_freeSlot globals').1
  exact Nat.le_antisymm
    ((@Globals.isLeast_freeSlot globals).2 (free_told alike.symm sound' sound free'))
    ((@Globals.isLeast_freeSlot globals').2 (free_told alike sound sound' free))

/-- With a slot free among the first sixteen a create succeeds. -/
theorem Sound.room (sound : Sound globals) {index : Nat} (small : index < 16)
    (free : (globals.slotAt index).request? = none) : limitReached globals = false := by
  by_contra full
  rw [Bool.not_eq_false, limitReached_iff sound.1] at full
  have bound := sound.length_le
  have counted : globals.liveCount ≤ globals.gAuthRequests.length := List.countP_le_length
  have all : globals.gAuthRequests.countP (·.live) = globals.gAuthRequests.length :=
    Nat.le_antisymm counted (by unfold Globals.liveCount at full; omega)
  have inside : index < globals.gAuthRequests.length := by omega
  have live := List.countP_eq_length.mp all _ (List.getElem_mem inside)
  exact (Globals.slotAt_request?_ne_none index).mpr
    (usedAt_iff.mpr ⟨_, List.getElem?_eq_getElem inside, live⟩) free

/-- A create of an async request. -/
def createAsyncCall : Call :=
  .create (.createAsyncRequest (some ⟨sizeofCreateAsyncRequestParameter⟩))

theorem call_creates (sound : Sound globals) (room : limitReached globals = false) :
    singleThread.step globals createAsyncCall =
      .ok (.created globals.newId, globals.afterCreate true) := by
  have made := createNpAuthRequest_ok sound.2 sound.1 room true
  show (do match ← (CreateEntry.createAsyncRequest _).run globals with | _ => _) = _
  rw [CreateEntry.run_eq]
  show (do match ← createNpAuthRequest globals true with | _ => _) = _
  rw [made]
  rfl

/-- After a create the next free slot is a later one. -/
theorem freeSlot_afterCreate_lt : globals.freeSlot < (globals.afterCreate true).freeSlot := by
  have free := (@Globals.isLeast_freeSlot (globals.afterCreate true)).1
  rw [Set.mem_ofPred_eq, Globals.slotAt_afterCreate] at free
  split_ifs at free with same
  · cases free
  · exact lt_of_le_of_ne ((@Globals.isLeast_freeSlot globals).2 free) (Ne.symm same)

/-- **Creates tell what is left in a slot**, once they have filled the slots before it. -/
theorem left_told {index : Nat} (alike : Indistinguishable singleThread globals globals')
    (sound : Sound globals) (sound' : Sound globals') (small : index < 16)
    (free : (globals.slotAt index).request? = none) :
    (globals.slotAt index).left = (globals'.slotAt index).left := by
  induction distance : index - globals.freeSlot using Nat.strong_induction_on
    generalizing globals globals' with
  | _ distance ih =>
      have free' := free_told alike sound sound' free
      have created := call_creates sound (sound.room small free)
      have created' := call_creates sound' (sound'.room small free')
      have same := freeSlot_told alike sound sound'
      have alikeAfter := (alike.both created created').2
      have within := (@Globals.isLeast_freeSlot globals).2 free
      by_cases here : index = globals.freeSlot
      · -- the slot is the next to be used
        have found : (globals.afterCreate true).request? globals.newId =
            some (globals.newRequest true) := by
          rw [Globals.request?_afterCreate sound.1, if_pos rfl]
        have found' : (globals'.afterCreate true).request? globals.newId =
            some (globals'.newRequest true) := by
          rw [Globals.request?_afterCreate sound'.1, Globals.newId, Globals.newId, same, if_pos rfl]
        have told := (report_told alikeAfter (sound.next created) (sound'.next created') found
          found').2 rfl
        have same' : index = globals'.freeSlot := here.trans same
        rw [here, ← Globals.leftover_eq, ← here, same', ← Globals.leftover_eq]
        exact told
      · -- an earlier slot is filled
        have here' : index ≠ globals'.freeSlot := same ▸ here
        have kept : (globals.afterCreate true).slotAt index = globals.slotAt index := by
          rw [Globals.slotAt_afterCreate, if_neg here]
        have kept' : (globals'.afterCreate true).slotAt index = globals'.slotAt index := by
          rw [Globals.slotAt_afterCreate, if_neg here']
        have later := @freeSlot_afterCreate_lt globals
        have still : ((globals.afterCreate true).slotAt index).request? = none := kept ▸ free
        have bound := (@Globals.isLeast_freeSlot (globals.afterCreate true)).2 still
        have told := ih (index - (globals.afterCreate true).freeSlot) (by omega) alikeAfter
          (sound.next created) (sound'.next created') still rfl
        rwa [kept, kept'] at told

/-- A deleted request leaves its `result` in the slot. -/
theorem slotAt_remove {reqId : Int32} {request : NpAuthRequest}
    (found : globals.request? reqId = some request) :
    (globals.remove reqId request).slotAt (slotOf reqId) = .free request.result := by
  obtain ⟨bound, _⟩ := List.getElem?_eq_some_iff.mp (Globals.request?_eq_some.mp found).1
  have written := @Globals.slotAt_setRequest
    { globals with gActiveAuthRequests := globals.gActiveAuthRequests - 1 } _ bound
    { request with state := .none } (slotOf reqId)
  rw [if_pos rfl] at written
  exact written

/-- The `result` of a request is told once the request is deleted. -/
theorem result_told (alike : Indistinguishable singleThread globals globals')
    (sound : Sound globals) (sound' : Sound globals') {reqId : Int32}
    {request request' : NpAuthRequest} (small : slotOf reqId < 16)
    (found : globals.request? reqId = some request)
    (found' : globals'.request? reqId = some request') : request.result = request'.result := by
  have deleted := call_deletes sound.1 found
  have deleted' := call_deletes sound'.1 found'
  have told := left_told (alike.both deleted deleted').2 (sound.next deleted)
    (sound'.next deleted') small (by rw [slotAt_remove found]; rfl)
  rw [slotAt_remove found, slotAt_remove found'] at told
  exact told

/-- A slot is known by its request and its `result`. -/
theorem Slot.eq_of_left {slot slot' : Slot} (request : slot.request? = slot'.request?)
    (left : slot.left = slot'.left) : slot = slot' := by
  cases slot <;> cases slot'
  · exact congrArg free left
  · cases request
  · cases request
  · exact congrArg taken (Subtype.ext (Option.some.inj request))

/-- **Every slot is told.** -/
theorem slot_told (alike : Indistinguishable singleThread globals globals') (sound : Sound globals)
    (sound' : Sound globals') (index : Nat) : globals.slotAt index = globals'.slotAt index := by
  by_cases small : index < 16
  · have slot : slotOf (idOf index) = index := slotOf_idOf (by omega)
    rcases found : globals.request? (idOf index) with _ | request
    · have free : (globals.slotAt index).request? = none := by
        rw [← slot, Globals.slotAt_slotOf, found]
      exact Slot.eq_of_left (free.trans (free_told alike sound sound' free).symm)
        (left_told alike sound sound' small free)
    · rcases found' : globals'.request? (idOf index) with _ | request'
      · cases (live_told alike.symm sound' sound found').symm.trans found
      · have state := state_told alike sound sound' found found'
        have async := (report_told alike sound sound' found found').1
        have result := result_told alike sound sound' (slot.symm ▸ small) found found'
        have same : request = request' := by
          cases request
          cases request'
          simp_all
        have inSlot := (Globals.request?_eq_some.mp found).1
        have inSlot' := (Globals.request?_eq_some.mp found').1
        rw [slot] at inSlot inSlot'
        rw [Globals.slotAt, Globals.slotAt, inSlot, inSlot', same]
  · have bound := sound.length_le
    have bound' := sound'.length_le
    rw [slotAt_past (by omega), slotAt_past (by omega)]

end Told

/-! ### Full abstraction -/

section FullAbstraction

variable {history history' : History Globals Call Answer} {globals globals' : Globals}

/-- **What the guest can tell of the request table.** No sequence of calls tells two states of a
single thread apart, if and only if they show the same table: the user is signed in in both or in
neither, and each slot has the same request, or was left with the same `result`. -/
theorem indistinguishable_iff (run : singleThread.Run history globals)
    (run' : singleThread.Run history' globals') :
    Indistinguishable singleThread globals globals' ↔ globals.table = globals'.table := by
  have sound : Sound globals := singleThread_refines.inv run
  have sound' : Sound globals' := singleThread_refines.inv run'
  constructor
  · intro alike
    exact SlotTable.ext (signedIn_told alike sound sound')
      (funext (slot_told alike sound sound'))
  · exact singleThread_refines.indistinguishable sound sound'

/-- A request that has been created and deleted leaves a slot, which nothing tells. -/
theorem indistinguishable_iff_session :
    ∃ history globals, singleThread.Run history globals ∧
      (history.map fun t => t.action).reverse =
        [.create .createRequest, .request offline 0x10000001 .deleteRequest] ∧
      globals.gAuthRequests = [⟨.none, false, .ok⟩] ∧
      Indistinguishable singleThread {} globals := by
  have run : singleThread.Run _ _ := .of_exec (show singleThread.start {} from rfl)
    [.create .createRequest, .request offline 0x10000001 .deleteRequest] rfl
  have same : ({} : Globals).table = Globals.table ⟨false, 0, [⟨.none, false, .ok⟩]⟩ := by
    refine SlotTable.ext rfl (funext fun index => ?_)
    cases index <;> rfl
  exact ⟨_, _, run, rfl, rfl, (indistinguishable_iff (.start rfl) run).mpr same⟩

end FullAbstraction

end LayraPS4.NpAuth
