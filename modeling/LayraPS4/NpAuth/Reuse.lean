/-
**What a slot that is used again gives away.**

`CreateNpAuthRequest` has two branches. A new slot gets a whole new `NpAuthRequest`; in a slot that is
used again the state and `async` are written and `result` is not (`Globals.leftover`). Of a
synchronous request `result` is never read; of an async one it is what Wait and Poll report after an
abort, or after a Get while signed in. `reuse_iff`: two reachable states that differ in anything but
`g_signed_in` cannot be told apart through a request created in each, if and only if the request is
synchronous or its slots held the same `result`.
-/

import LayraPS4.NpAuth.Threads

set_option linter.unusedSectionVars false

namespace LayraPS4.NpAuth

open Cxx Runs

/-- The calls on one request id, by a single guest thread. -/
def handleSystem (reqId : Int32) : System Globals (Env × Entry) Reply Fault where
  start _ := True
  step globals call := call.2.run call.1 globals reqId

/-- No call follows the deletion of the request. -/
def UpToDeletion (calls : List (Env × Entry)) : Prop :=
  ∀ call ∈ calls.dropLast, call.2 ≠ .deleteRequest

/-! ### Requests that cannot be told apart -/

/-- The same request, up to a `result` that nothing reads. -/
structure Alike (request request' : NpAuthRequest) : Prop where
  state : request.state = request'.state
  async : request.async = request'.async
  result : request.async = true → request.result = request'.result

theorem Alike.live {request request' : NpAuthRequest} (alike : Alike request request') :
    request.live = request'.live := by
  unfold NpAuthRequest.live
  rw [alike.state]

/-- Operations answer alike requests alike, and leave them alike. -/
theorem Alike.act {request request' : NpAuthRequest} (alike : Alike request request')
    (op : RequestOp) :
    (∃ fault, op.act request = .error fault ∧ op.act request' = .error fault) ∨
    ∃ reply after after', op.act request = .ok (reply, after) ∧
      op.act request' = .ok (reply, after') ∧ Alike after after' := by
  obtain ⟨state, async, result⟩ := request
  obtain ⟨state', async', result'⟩ := request'
  obtain ⟨rfl, rfl, same⟩ := alike
  dsimp only at same
  cases op with
  | get signedIn deliver =>
      cases state with
      | complete => exact .inr ⟨_, _, _, rfl, rfl, rfl, rfl, fun _ => rfl⟩
      | aborted => exact .inr ⟨_, _, _, rfl, rfl, rfl, rfl, fun _ => rfl⟩
      | _ =>
          cases signedIn with
          | false => exact .inr ⟨_, _, _, rfl, rfl, rfl, rfl, fun _ => rfl⟩
          | true =>
              cases deliver with
              | error fault => exact .inl ⟨fault, rfl, rfl⟩
              | ok writes => exact .inr ⟨_, _, _, rfl, rfl, rfl, rfl, same⟩
  | abort => cases state <;> exact .inr ⟨_, _, _, rfl, rfl, rfl, rfl, same⟩
  | report =>
      cases async with
      | false => exact .inr ⟨_, _, _, rfl, rfl, rfl, rfl, same⟩
      | true =>
          obtain rfl := same rfl
          exact .inr ⟨_, _, _, rfl, rfl, rfl, rfl, same⟩

/-! ### Globals that cannot be told apart through one id each -/

/-- The two ids stand for alike requests, or for none. -/
structure Agree (reqId reqId' : Int32) (globals globals' : Globals) : Prop where
  valid : globals.Valid
  valid' : globals'.Valid
  signedIn : globals.gSignedIn = globals'.gSignedIn
  requests : (globals.request? reqId = none ∧ globals'.request? reqId' = none) ∨
    ∃ request request', globals.request? reqId = some request ∧
      globals'.request? reqId' = some request' ∧ Alike request request'

section Agree

variable {reqId reqId' : Int32} {globals globals' : Globals}

theorem Agree.perform (agree : Agree reqId reqId' globals globals') (op : RequestOp) :
    (∃ fault, globals.perform reqId op = .error fault ∧
      globals'.perform reqId' op = .error fault) ∨
    ∃ reply next next', globals.perform reqId op = .ok (reply, next) ∧
      globals'.perform reqId' op = .ok (reply, next') ∧ Agree reqId reqId' next next' := by
  rcases agree.requests with ⟨missing, missing'⟩ | ⟨request, request', found, found', alike⟩
  · exact .inr ⟨_, _, _, Globals.perform_of_none missing op, Globals.perform_of_none missing' op,
      agree⟩
  · rcases alike.act op with ⟨fault, failed, failed'⟩ |
      ⟨reply, after, after', acted, acted', alike⟩
    · exact .inl ⟨fault, Globals.perform_of_fault found failed,
        Globals.perform_of_fault found' failed'⟩
    · have live : after.live = true := (RequestOp.acts
        (Globals.request?_eq_some.mp found).2 acted).live (Globals.request?_eq_some.mp found).2
      have live' : after'.live = true := alike.live ▸ live
      refine .inr ⟨reply, _, _, Globals.perform_of_act found acted,
        Globals.perform_of_act found' acted', agree.valid.setRequest found live,
        agree.valid'.setRequest found' live', agree.signedIn, ?_⟩
      exact .inr ⟨after, after', Globals.request?_setRequest_self found live,
        Globals.request?_setRequest_self found' live', alike⟩

theorem Agree.delete (agree : Agree reqId reqId' globals globals') :
    ∃ reply next next', sceNpAuthDeleteRequest globals reqId = .ok (reply, next) ∧
      sceNpAuthDeleteRequest globals' reqId' = .ok (reply, next') ∧
      Agree reqId reqId' next next' := by
  rw [sceNpAuthDeleteRequest_eq agree.valid, sceNpAuthDeleteRequest_eq agree.valid']
  rcases agree.requests with ⟨missing, missing'⟩ | ⟨request, request', found, found', _⟩
  · rw [missing, missing']
    exact ⟨_, _, _, rfl, rfl, agree⟩
  · rw [found, found']
    refine ⟨_, _, _, rfl, rfl, agree.valid.remove found, agree.valid'.remove found',
      agree.signedIn, .inl ⟨?_, ?_⟩⟩
    · rw [Globals.request?_remove found, if_pos rfl]
    · rw [Globals.request?_remove found', if_pos rfl]

/-- **Calls on the two ids answer alike**, and keep what the ids stand for alike. -/
theorem agree_unwinds (reqId reqId' : Int32) :
    Unwinds (handleSystem reqId) (handleSystem reqId') (Agree reqId reqId') := by
  rintro globals globals' ⟨env, entry⟩ agree
  show (∃ fault, entry.run env globals reqId = .error fault ∧
      entry.run env globals' reqId' = .error fault) ∨
    ∃ reply next next', entry.run env globals reqId = .ok (reply, next) ∧
      entry.run env globals' reqId' = .ok (reply, next') ∧ Agree reqId reqId' next next'
  by_cases delete : entry = .deleteRequest
  · subst delete
    exact .inr agree.delete
  · cases asks : entry.op? env globals.gSignedIn with
    | some op =>
        rw [run_eq_perform agree.valid asks, run_eq_perform agree.valid' (agree.signedIn ▸ asks)]
        exact agree.perform op
    | none =>
        rcases run_turnedDown asks delete with ⟨fault, faults⟩ | ⟨code, _, replies⟩
        · exact .inl ⟨fault, faults globals reqId rfl, faults globals' reqId' agree.signedIn.symm⟩
        · exact .inr ⟨_, _, _, replies globals reqId rfl,
            replies globals' reqId' agree.signedIn.symm, agree⟩

/-- The result a new async request was created with is reported after an abort. -/
theorem observe_abort_wait (valid : globals.Valid) {left : OrbisCode}
    (found : globals.request? reqId = some ⟨.ready, true, left⟩) (env : Env) :
    (handleSystem reqId).observe globals [(env, .abortRequest), (env, .waitAsync (some 0))] =
      [.ok ⟨.ok, {}⟩, .ok ⟨.ok, { result := some left }⟩] := by
  have aborted : (handleSystem reqId).step globals (env, .abortRequest) =
      .ok (⟨.ok, {}⟩, globals.setRequest (slotOf reqId) ⟨.aborted, true, left⟩) :=
    (sceNpAuthAbortRequest_eq valid reqId).trans (Globals.perform_of_act found rfl)
  have found' := Globals.request?_setRequest_self found
    (show NpAuthRequest.live ⟨.aborted, true, left⟩ = true from rfl)
  have reported : (handleSystem reqId).step
      (globals.setRequest (slotOf reqId) ⟨.aborted, true, left⟩) (env, .waitAsync (some 0)) =
      .ok (⟨.ok, { result := some left }⟩, _) :=
    (reportResult_eq (valid.setRequest found rfl) reqId 0).trans (Globals.perform_of_act found' rfl)
  simp only [System.observe, aborted, reported]

end Agree

/-! ### A new request in two states -/

section Reuse

variable {Thread Thread' : Type} [DecidableEq Thread] [DecidableEq Thread']
  {process : Process Thread} {process' : Process Thread'} {history : ThreadHistory Thread}
  {history' : ThreadHistory Thread'} {async : Bool} {reqId reqId' : Int32} {next next' : Globals}

/-- A create leaves the new request, in valid globals. -/
theorem createSection_present (valid : process.globals.Valid)
    (created : createSection process.globals async = .ok (reqId, next)) :
    next.Valid ∧ next.gSignedIn = process.globals.gSignedIn ∧
      next.request? reqId = some (process.globals.newRequest async) := by
  obtain ⟨rfl, rfl, room⟩ := createSection_ok created
  refine ⟨valid.afterCreate room async, rfl, ?_⟩
  rw [Globals.request?_afterCreate valid, if_pos rfl]

/-- **What the reuse of a slot gives away.** In two reachable states with the same `g_signed_in` a
create with the same `async` succeeds, its limit read there or before. No calls on the two new
requests tell the states apart, if and only if the requests are synchronous or the slots they took
held the same `result`. -/
theorem reuse_iff (run : (threads Thread).Run history process)
    (run' : (threads Thread').Run history' process')
    (signedIn : process.globals.gSignedIn = process'.globals.gSignedIn)
    (created : createSection process.globals async = .ok (reqId, next))
    (created' : createSection process'.globals async = .ok (reqId', next')) :
    (∀ calls, UpToDeletion calls → (handleSystem reqId).observe next calls =
        (handleSystem reqId').observe next' calls) ↔
      (async = true → process.globals.leftover = process'.globals.leftover) := by
  obtain ⟨valid, same, found⟩ := createSection_present (reachable_valid run) created
  obtain ⟨valid', same', found'⟩ := createSection_present (reachable_valid run') created'
  constructor
  · intro alike isAsync
    subst isAsync
    have told := alike [(offline, .abortRequest), (offline, .waitAsync (some 0))] (by
      intro call member
      cases List.mem_singleton.mp member
      decide)
    rw [observe_abort_wait valid found, observe_abort_wait valid' found'] at told
    simpa using told
  · intro leftovers calls _
    refine (agree_unwinds reqId reqId').observe_eq ⟨valid, valid', ?_, .inr ⟨_, _, found, found',
      ⟨rfl, rfl, leftovers⟩⟩⟩ calls
    rw [same, same', signedIn]

/-- A request in a new slot, and one in a slot whose last request was asked for twice: both are
completed while signed in, and Wait tells them apart. -/
theorem reused_slot_told_apart :
    ∃ history process history' process' reqId reqId' next next',
      (threads Nat).Run history process ∧ (threads Nat).Run history' process' ∧
      (history.map fun t => t.action).reverse = [.registerLib true] ∧
      (history'.map fun t => t.action).reverse = [.registerLib true] ++ createAsync 0 ++
        [.call 0 offline 0x10000001 getCode, .call 0 offline 0x10000001 getCode,
          .call 0 offline 0x10000001 .deleteRequest] ∧
      process.globals.gSignedIn = process'.globals.gSignedIn ∧
      createNpAuthRequest process.globals true = .ok (.ok reqId, next) ∧
      createNpAuthRequest process'.globals true = .ok (.ok reqId', next') ∧
      (handleSystem reqId).observe next [(offline, getCode), (offline, .waitAsync (some 0))] =
        [.ok ⟨.ok, { authCode := some ⟨[0, 0, 0, 0]⟩, issuerId := some 0 }⟩,
          .ok ⟨.ok, { result := some .ok }⟩] ∧
      (handleSystem reqId').observe next' [(offline, getCode), (offline, .waitAsync (some 0))] =
        [.ok ⟨.ok, { authCode := some ⟨[0, 0, 0, 0]⟩, issuerId := some 0 }⟩,
          .ok ⟨.ok, { result := some .invalidArgument }⟩] ∧
      ¬ ∀ calls, UpToDeletion calls →
        (handleSystem reqId).observe next calls = (handleSystem reqId').observe next' calls := by
  have run : (threads Nat).Run _ _ := .of_exec rfl [.registerLib true] rfl
  have run' : (threads Nat).Run _ _ := .of_exec rfl ([.registerLib true] ++ createAsync 0 ++
    [.call 0 offline 0x10000001 getCode, .call 0 offline 0x10000001 getCode,
      .call 0 offline 0x10000001 .deleteRequest]) rfl
  refine ⟨_, _, _, _, _, _, _, _, run, run', rfl, rfl, rfl, rfl, rfl, rfl, rfl, fun alike => ?_⟩
  have told := alike [(offline, getCode), (offline, .waitAsync (some 0))] (by
    intro call member
    cases List.mem_singleton.mp member
    decide)
  cases told

/-- A request in a new slot, and one in a slot that was freed without a Get. -/
theorem reuse_iff_session :
    ∃ history process history' process' reqId reqId' next next',
      (threads Nat).Run history process ∧ (threads Nat).Run history' process' ∧
      (history.map fun t => t.action).reverse = [.registerLib true] ∧
      (history'.map fun t => t.action).reverse = [.registerLib true] ++ createSync 0 ++
        [.call 1 offline 0x10000001 .deleteRequest] ∧
      createSection process.globals true = .ok (reqId, next) ∧
      createSection process'.globals true = .ok (reqId', next') ∧
      ((∀ calls, UpToDeletion calls → (handleSystem reqId).observe next calls =
          (handleSystem reqId').observe next' calls) ↔
        (true = true → process.globals.leftover = process'.globals.leftover)) := by
  have run : (threads Nat).Run _ _ := .of_exec rfl [.registerLib true] rfl
  have run' : (threads Nat).Run _ _ := .of_exec rfl ([.registerLib true] ++ createSync 0 ++
    [.call 1 offline 0x10000001 .deleteRequest]) rfl
  exact ⟨_, _, _, _, _, _, _, _, run, run', rfl, rfl, rfl, rfl, reuse_iff run run' rfl rfl rfl⟩

end Reuse

end LayraPS4.NpAuth
