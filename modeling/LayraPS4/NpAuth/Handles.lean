/-
**What a request id stands for.**

The six functions that look a request up get its id from the guest, any 32 bits of it. Given
arguments that pass their other checks (`CodeArguments`, `TokenArguments`), each reaches its lookup,
and `handle_exact` says what the lookup finds in every reachable state: the request the id was
returned for, as long as it has not been deleted, and nothing for any other id.
-/

import LayraPS4.NpAuth.RequestTable

set_option linter.unusedSectionVars false

namespace LayraPS4.NpAuth

open Cxx Runs

/-- The arguments `GetAuthorizationCode` accepts, pointers followed. -/
structure CodeArguments where
  userId : Int32
  clientId : OrbisNpClientId
  scope : StdString
  authCode : OrbisNpAuthorizationCode
  issuerId : Int32
  user : userId ≠ -1

/-- The arguments `GetIdToken` accepts, pointers followed. -/
structure TokenArguments where
  userId : Int32
  clientId : OrbisNpClientId
  clientSecret : OrbisNpClientSecret
  scope : StdString
  token : OrbisNpIdToken
  user : userId ≠ -1

def CodeArguments.param (arguments : CodeArguments) : OrbisNpAuthGetAuthorizationCodeParameterA :=
  ⟨sizeofGetAuthorizationCodeParameter, arguments.userId, some arguments.clientId,
    some arguments.scope⟩

def TokenArguments.param (arguments : TokenArguments) : OrbisNpAuthGetIdTokenParameterA :=
  ⟨sizeofGetIdTokenParameterA, arguments.userId, some arguments.clientId,
    some arguments.clientSecret, some arguments.scope⟩

/-- The functions that look a request up, called with valid arguments. -/
inductive HandleCall
  | getAuthorizationCode (env : Env) (arguments : CodeArguments) (flag : Int32)
  | getIdToken (env : Env) (arguments : TokenArguments) (flag : Int32)
  | abortRequest
  | waitAsync (result : Int32)
  | pollAsync (result : Int32)
  | deleteRequest

namespace HandleCall

def run (globals : Globals) (reqId : Int32) : HandleCall → Except Fault (Reply × Globals)
  | .getAuthorizationCode env arguments flag =>
      NpAuth.getAuthorizationCode env globals reqId (some arguments.param) flag
        (some arguments.authCode) (some arguments.issuerId)
  | .getIdToken env arguments flag =>
      NpAuth.getIdToken env globals reqId (some arguments.param) flag (some arguments.token)
  | .abortRequest => sceNpAuthAbortRequest globals reqId
  | .waitAsync result => sceNpAuthWaitAsync globals reqId (some result)
  | .pollAsync result => sceNpAuthPollAsync globals reqId (some result)
  | .deleteRequest => sceNpAuthDeleteRequest globals reqId

/-- What the function asks of the request it finds; `none` is its deletion. -/
def op? (signedIn : Bool) : HandleCall → Option RequestOp
  | .getAuthorizationCode env arguments _ =>
      some (.get signedIn (deliverCode env arguments.clientId arguments.authCode
        (some arguments.issuerId)))
  | .getIdToken env arguments _ =>
      some (.get signedIn (deliverToken env arguments.clientId arguments.token))
  | .abortRequest => some .abort
  | .waitAsync _ => some .report
  | .pollAsync _ => some .report
  | .deleteRequest => none

/-- What the function does to the request it finds. -/
def act (signedIn : Bool) (request : NpAuthRequest) (call : HandleCall) :
    Except Fault (Reply × NpAuthRequest) :=
  match call.op? signedIn with
  | some op => op.act request
  | none => .ok (⟨.ok, {}⟩, { request with state := .none })

/-- With valid arguments the buffers can be written, so nothing faults. -/
theorem act_total (signedIn : Bool) (request : NpAuthRequest) (call : HandleCall) :
    ∃ reply after, call.act signedIn request = .ok (reply, after) := by
  have processed : ∀ writes : Writes, ∃ reply after,
      processRequest signedIn (.ok writes) request = .ok (reply, after) := by
    intro writes
    unfold processRequest
    split
    · exact ⟨_, _, rfl⟩
    · exact ⟨_, _, rfl⟩
    · cases signedIn <;> exact ⟨_, _, rfl⟩
  cases call with
  | getAuthorizationCode env arguments flag => exact processed _
  | getIdToken env arguments flag => exact processed _
  | _ => exact ⟨_, _, rfl⟩

variable {globals : Globals} {reqId : Int32} {request : NpAuthRequest} {call : HandleCall}

/-- Valid arguments reach the lookup. -/
theorem run_eq_perform {op : RequestOp} (valid : globals.Valid)
    (asks : call.op? globals.gSignedIn = some op) :
    call.run globals reqId = globals.perform reqId op := by
  cases call with
  | getAuthorizationCode env arguments flag =>
      cases asks
      dsimp only [run]
      refine getAuthorizationCode_eq valid flag ?_
      simp [codeOp, CodeArguments.param, arguments.user]
  | getIdToken env arguments flag =>
      cases asks
      dsimp only [run]
      refine getIdToken_eq valid flag ?_
      simp [tokenOp, TokenArguments.param, arguments.user]
  | abortRequest =>
      cases asks
      exact sceNpAuthAbortRequest_eq valid reqId
  | waitAsync result =>
      cases asks
      exact reportResult_eq valid reqId result
  | pollAsync result =>
      cases asks
      exact reportResult_eq valid reqId result
  | deleteRequest => cases asks

/-- Only `sceNpAuthDeleteRequest` deletes. -/
theorem run_of_no_op (asks : call.op? globals.gSignedIn = none) :
    call.run globals reqId = sceNpAuthDeleteRequest globals reqId := by
  cases call with
  | deleteRequest => rfl
  | _ => cases asks

/-- **Without a live request** every call reports that it found none, and leaves the globals. -/
theorem run_of_missing (valid : globals.Valid) (missing : globals.request? reqId = none)
    (call : HandleCall) : call.run globals reqId = .ok (⟨.requestNotFound, {}⟩, globals) := by
  cases asks : call.op? globals.gSignedIn with
  | some op => rw [run_eq_perform valid asks, Globals.perform_of_none missing]
  | none => rw [run_of_no_op asks, sceNpAuthDeleteRequest_eq valid, missing]

/-- **On a live request** every call does what it does to that request, in its slot. -/
theorem run_of_found {reply : Reply} {after : NpAuthRequest} (valid : globals.Valid)
    (found : globals.request? reqId = some request)
    (acted : call.act globals.gSignedIn request = .ok (reply, after)) :
    reply.code ≠ .requestNotFound ∧ ∃ next, call.run globals reqId = .ok (reply, next) ∧
      next.gSignedIn = globals.gSignedIn ∧
      next.gAuthRequests = globals.gAuthRequests.set (slotOf reqId) after := by
  have live := (Globals.request?_eq_some.mp found).2
  unfold act at acted
  cases asks : call.op? globals.gSignedIn with
  | some op =>
      rw [asks] at acted
      refine ⟨(RequestOp.acts live acted).code, globals.setRequest (slotOf reqId) after, ?_, rfl, rfl⟩
      rw [run_eq_perform valid asks, Globals.perform_of_act found acted]
  | none =>
      rw [asks] at acted
      cases acted
      refine ⟨by decide, globals.remove reqId request, ?_, rfl, rfl⟩
      rw [run_of_no_op asks, sceNpAuthDeleteRequest_eq valid, found]

end HandleCall

section Exact

variable {Thread : Type} [DecidableEq Thread] {process : Process Thread}
  {history : ThreadHistory Thread}

/-- **Handle resolution is exact**, in every reachable state and for every 32-bit id: a call finds
no request exactly when the id is not live, and then does nothing; otherwise it does what it does to
the request in the slot of that id, and to no other slot. -/
theorem handle_exact (run : (threads Thread).Run history process) (reqId : Int32)
    (call : HandleCall) :
    ∃ reply next, call.run process.globals reqId = .ok (reply, next) ∧
      (reply.code = .requestNotFound ↔ reqId ∉ liveIds history) ∧
      (reqId ∉ liveIds history → reply = ⟨.requestNotFound, {}⟩ ∧ next = process.globals) ∧
      (reqId ∈ liveIds history → ∃ slot request after, reqId = idOf slot ∧
        process.globals.gAuthRequests[slot]? = some request ∧ request.live = true ∧
        call.act process.globals.gSignedIn request = .ok (reply, after) ∧
        next.gSignedIn = process.globals.gSignedIn ∧
        next.gAuthRequests = process.globals.gAuthRequests.set slot after) := by
  have valid := reachable_valid run
  rw [mem_liveIds run]
  cases found : process.globals.request? reqId with
  | none =>
      exact ⟨_, _, HandleCall.run_of_missing valid found call, by simp, fun _ => ⟨rfl, rfl⟩,
        fun live => absurd rfl live⟩
  | some request =>
      obtain ⟨reply, after, acted⟩ := call.act_total process.globals.gSignedIn request
      obtain ⟨code, next, ran, signedIn, slots⟩ := HandleCall.run_of_found valid found acted
      obtain ⟨inSlot, live⟩ := Globals.request?_eq_some.mp found
      refine ⟨reply, next, ran, by simp [code], fun missing => absurd nofun missing, fun _ => ?_⟩
      exact ⟨slotOf reqId, request, after, (idOf_slotOf (valid.slotOf_lt found)).symm, inSlot, live,
        acted, signedIn, slots⟩

/-- The id of a deleted request, with another still live. -/
theorem handle_exact_stale :
    ∃ history process, (threads Nat).Run history process ∧
      liveIds history = [0x10000001] ∧
      ∃ reply next,
        (HandleCall.waitAsync 0).run process.globals 0x10000002 = .ok (reply, next) ∧
        (reply.code = .requestNotFound ↔ (0x10000002 : Int32) ∉ liveIds history) ∧
        ((0x10000002 : Int32) ∉ liveIds history →
          reply = ⟨.requestNotFound, {}⟩ ∧ next = process.globals) ∧
        ((0x10000002 : Int32) ∈ liveIds history → ∃ slot request after,
          (0x10000002 : Int32) = idOf slot ∧
          process.globals.gAuthRequests[slot]? = some request ∧ request.live = true ∧
          (HandleCall.waitAsync 0).act process.globals.gSignedIn request = .ok (reply, after) ∧
          next.gSignedIn = process.globals.gSignedIn ∧
          next.gAuthRequests = process.globals.gAuthRequests.set slot after) := by
  have run : (threads Nat).Run _ _ := .of_exec rfl (createSync 0 ++ createSync 0 ++
    [.call 1 offline 0x10000002 .deleteRequest]) rfl
  exact ⟨_, _, run, rfl, handle_exact run 0x10000002 (.waitAsync 0)⟩

end Exact

end LayraPS4.NpAuth
