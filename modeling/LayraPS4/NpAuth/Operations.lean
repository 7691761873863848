/-
**What the entry points do to a request.**

With the lookup out of the way, a call that is given a request id is one of

* an operation on the live request with that id (`Entry.op?`, `Globals.perform`), which depends on
  that request alone and changes its slot alone (`run_eq_perform`). `RequestOp.Acts` lists what an
  operation can do to a request;
* `sceNpAuthDeleteRequest` (`sceNpAuthDeleteRequest_eq`);
* a call that its argument checks turn down, or the stub, which never gets to the table
  (`run_turnedDown`).
-/

import LayraPS4.NpAuth.Requests

namespace LayraPS4.NpAuth

open Cxx SlotVector

/-! ### Operations on a request -/

/-- What an entry point asks of the request it is given. -/
inductive RequestOp
  | get (signedIn : Bool) (deliver : Except Fault Writes)
  | abort
  | report

/-- What the operation does to the request. -/
def RequestOp.act : RequestOp → NpAuthRequest → Except Fault (Reply × NpAuthRequest)
  | .get signedIn deliver, request => processRequest signedIn deliver request
  | .abort, request =>
      .ok (⟨.ok, {}⟩,
        if request.state = .complete then request else { request with state := .aborted })
  | .report, request =>
      .ok (if request.async = false ∨ request.state = .ready then ⟨.invalidId, {}⟩
        else ⟨.ok, { result := some request.result }⟩, request)

/-- The operation on the live request with this id. -/
def Globals.perform (globals : Globals) (reqId : Int32) (op : RequestOp) :
    Except Fault (Reply × Globals) :=
  match globals.request? reqId with
  | none => .ok (⟨.requestNotFound, {}⟩, globals)
  | some request => do
      let (reply, next) ← op.act request
      return (reply, globals.setRequest (slotOf reqId) next)

/-- The globals without the live request with this id. -/
def Globals.remove (globals : Globals) (reqId : Int32) (request : NpAuthRequest) : Globals :=
  { globals with gActiveAuthRequests := globals.gActiveAuthRequests - 1 }.setRequest (slotOf reqId)
    { request with state := .none }

/-- What an operation can do to a live request. -/
inductive RequestOp.Acts : RequestOp → NpAuthRequest → Reply → NpAuthRequest → Prop
  | getCompleted {signedIn async : Bool} {deliver : Except Fault Writes} {result : OrbisCode} :
      Acts (.get signedIn deliver) ⟨.complete, async, result⟩ ⟨.invalidArgument, {}⟩
        ⟨.complete, async, .invalidArgument⟩
  | getAborted {signedIn async : Bool} {deliver : Except Fault Writes} {result : OrbisCode} :
      Acts (.get signedIn deliver) ⟨.aborted, async, result⟩ ⟨.aborted, {}⟩
        ⟨.aborted, async, .aborted⟩
  | getSignedOut {async : Bool} {deliver : Except Fault Writes} {result : OrbisCode} :
      Acts (.get false deliver) ⟨.ready, async, result⟩ ⟨if async then .ok else .signedOut, {}⟩
        ⟨.complete, async, .signedOut⟩
  | getDelivered {async : Bool} {writes : Writes} {result : OrbisCode} :
      Acts (.get true (.ok writes)) ⟨.ready, async, result⟩ ⟨.ok, writes⟩
        ⟨.complete, async, result⟩
  | abortCompleted {async : Bool} {result : OrbisCode} :
      Acts .abort ⟨.complete, async, result⟩ ⟨.ok, {}⟩ ⟨.complete, async, result⟩
  | abortPending {state : NpAuthRequestState} {async : Bool} {result : OrbisCode} :
      state = .ready ∨ state = .aborted →
      Acts .abort ⟨state, async, result⟩ ⟨.ok, {}⟩ ⟨.aborted, async, result⟩
  | reportRefused {request : NpAuthRequest} : request.async = false ∨ request.state = .ready →
      Acts .report request ⟨.invalidId, {}⟩ request
  | reported {request : NpAuthRequest} : request.async = true → request.state ≠ .ready →
      Acts .report request ⟨.ok, { result := some request.result }⟩ request

theorem processRequest_acts {signedIn : Bool} {deliver : Except Fault Writes}
    {request next : NpAuthRequest} {reply : Reply} (live : request.live = true)
    (ran : processRequest signedIn deliver request = .ok (reply, next)) :
    (RequestOp.get signedIn deliver).Acts request reply next := by
  obtain ⟨state, async, result⟩ := request
  cases state with
  | none => cases live
  | complete =>
      cases ran
      exact .getCompleted
  | aborted =>
      cases ran
      exact .getAborted
  | ready =>
      cases signedIn with
      | false =>
          cases ran
          exact .getSignedOut
      | true =>
          cases deliver with
          | error fault => cases ran
          | ok writes =>
              cases ran
              exact .getDelivered

/-- An operation on a live request does one of these things. -/
theorem RequestOp.acts {op : RequestOp} {request next : NpAuthRequest} {reply : Reply}
    (live : request.live = true) (ran : op.act request = .ok (reply, next)) :
    op.Acts request reply next := by
  cases op with
  | get signedIn deliver => exact processRequest_acts live ran
  | abort =>
      obtain ⟨state, async, result⟩ := request
      cases state with
      | none => cases live
      | ready =>
          cases ran
          exact .abortPending (.inl rfl)
      | aborted =>
          cases ran
          exact .abortPending (.inr rfl)
      | complete =>
          cases ran
          exact .abortCompleted
  | report =>
      dsimp only [act] at ran
      by_cases early : request.async = false ∨ request.state = .ready
      · rw [if_pos early] at ran
        cases ran
        exact .reportRefused early
      · rw [if_neg early] at ran
        cases ran
        rw [not_or, Bool.not_eq_false] at early
        exact .reported early.1 early.2

section Acts

variable {op : RequestOp} {request next : NpAuthRequest} {reply : Reply}

theorem RequestOp.Acts.live (acts : op.Acts request reply next) (live : request.live = true) :
    next.live = true := by
  cases acts with
  | reportRefused _ => exact live
  | reported _ _ => exact live
  | _ => rfl

/-- No operation changes how the request was created. -/
theorem RequestOp.Acts.async (acts : op.Acts request reply next) :
    next.async = request.async := by
  cases acts <;> rfl

theorem RequestOp.Acts.code (acts : op.Acts request reply next) :
    reply.code ≠ .requestNotFound := by
  cases acts with
  | @getSignedOut async _ _ => cases async <;> decide
  | _ => exact fun same => nomatch same

end Acts

namespace Globals

variable {globals : Globals} {reqId : Int32} {request : NpAuthRequest}

/-- **Removing a request** frees its id and leaves the others. -/
theorem request?_remove (found : globals.request? reqId = some request) (other : Int32) :
    (globals.remove reqId request).request? other =
      if other = reqId then none else globals.request? other := by
  obtain ⟨bound, _⟩ := List.getElem?_eq_some_iff.mp (request?_eq_some.mp found).1
  exact @request?_setRequest { globals with gActiveAuthRequests := _ } reqId bound _ other

theorem Valid.remove (valid : globals.Valid) (found : globals.request? reqId = some request) :
    (globals.remove reqId request).Valid := by
  obtain ⟨inSlot, used⟩ := request?_eq_some.mp found
  have count := countP_set_used (·.live) inSlot used { request with state := .none }
  refine ⟨?_, by simpa [Globals.remove] using valid.indexed⟩
  have := valid.counted
  show globals.gActiveAuthRequests - 1 = ((globals.gAuthRequests.set _ _).countP _ : Nat)
  unfold liveCount at this
  simp only [NpAuthRequest.live, bne_self_eq_false, Bool.false_eq_true, if_false] at count
  simp only [NpAuthRequest.live] at this ⊢
  omega

section Perform

variable {op : RequestOp} {reply : Reply}

theorem perform_of_none (missing : globals.request? reqId = none) (op : RequestOp) :
    globals.perform reqId op = .ok (⟨.requestNotFound, {}⟩, globals) := by
  rw [perform, missing]

theorem perform_of_fault {fault : Fault} (found : globals.request? reqId = some request)
    (failed : op.act request = .error fault) : globals.perform reqId op = .error fault := by
  rw [perform, found]
  dsimp only
  rw [failed]
  rfl

/-- **An operation** changes the request it is on. -/
theorem perform_of_act {after : NpAuthRequest} (found : globals.request? reqId = some request)
    (acted : op.act request = .ok (reply, after)) :
    globals.perform reqId op = .ok (reply, globals.setRequest (slotOf reqId) after) := by
  rw [perform, found]
  dsimp only
  rw [acted]
  rfl

end Perform

end Globals

/-- What arguments that pass the checks of `GetAuthorizationCode` ask for. -/
def codeOp (env : Env) (signedIn : Bool) (param : Ptr OrbisNpAuthGetAuthorizationCodeParameterA)
    (authCode : Ptr OrbisNpAuthorizationCode) (issuerId : Ptr Int32) : Option RequestOp :=
  match param, authCode with
  | some param, some authCode =>
      if param.size = sizeofGetAuthorizationCodeParameter ∧ param.userId ≠ -1 ∧
          param.scope ≠ none then
        param.clientId.map fun clientId =>
          .get signedIn (deliverCode env clientId authCode issuerId)
      else none
  | _, _ => none

/-- What arguments that pass the checks of `GetIdToken` ask for. -/
def tokenOp (env : Env) (signedIn : Bool) (param : Ptr OrbisNpAuthGetIdTokenParameterA)
    (token : Ptr OrbisNpIdToken) : Option RequestOp :=
  match param, token with
  | some param, some token =>
      if param.size = sizeofGetIdTokenParameterA ∧ param.userId ≠ -1 ∧
          param.clientSecret ≠ none ∧ param.scope ≠ none then
        param.clientId.map fun clientId => .get signedIn (deliverToken env clientId token)
      else none
  | _, _ => none

/-- The same for `sceNpAuthGetAuthorizationCode`, which works out the user id itself. -/
def legacyCodeOp (env : Env) (signedIn : Bool)
    (param : Ptr OrbisNpAuthGetAuthorizationCodeParameter)
    (authCode : Ptr OrbisNpAuthorizationCode) (issuerId : Ptr Int32) : Option RequestOp :=
  match param, env.getInitialUser with
  | some param, .ok userId =>
      if signedIn = true ∧ param.size = sizeofGetAuthorizationCodeParameter ∧
          param.onlineId ≠ none then
        codeOp env signedIn
          (some ⟨sizeofGetAuthorizationCodeParameterA, userId, param.clientId, param.scope⟩)
          authCode issuerId
      else none
  | _, _ => none

/-- The same for `sceNpAuthGetIdToken`, which works out the user id itself. -/
def legacyTokenOp (env : Env) (signedIn : Bool) (param : Ptr OrbisNpAuthGetIdTokenParameter)
    (token : Ptr OrbisNpIdToken) : Option RequestOp :=
  match param, env.getInitialUser with
  | some param, .ok userId =>
      if signedIn = true ∧ param.size = sizeofGetIdTokenParameter ∧ param.onlineId ≠ none then
        tokenOp env signedIn
          (some ⟨sizeofGetIdTokenParameterA, userId, param.clientId, param.clientSecret,
            param.scope⟩) token
      else none
  | _, _ => none

/-- What a call asks of the request it is given, once its argument checks have passed. -/
def Entry.op? (env : Env) (signedIn : Bool) : Entry → Option RequestOp
  | .getAuthorizationCode param authCode issuerId =>
      legacyCodeOp env signedIn param authCode issuerId
  | .getAuthorizationCodeA param authCode issuerId => codeOp env signedIn param authCode issuerId
  | .getAuthorizationCodeV3 param authCode issuerId => codeOp env signedIn param authCode issuerId
  | .getIdToken param token => legacyTokenOp env signedIn param token
  | .getIdTokenA param token => tokenOp env signedIn param token
  | .getIdTokenV3 param token => tokenOp env signedIn param token
  | .setTimeout _ _ _ _ _ => none
  | .abortRequest => some .abort
  | .waitAsync result => result.map fun _ => .report
  | .pollAsync result => result.map fun _ => .report
  | .deleteRequest => none

section Gets

variable {env : Env} {signedIn signedIn' : Bool} {deliver : Except Fault Writes}

/-- The Get of a client that is there keeps whether the user is signed in. -/
theorem signedIn_of_map {α : Type} {client : Option α} {delivers : α → Except Fault Writes}
    (asks : (client.map fun value => RequestOp.get signedIn (delivers value)) =
      some (.get signedIn' deliver)) : signedIn' = signedIn := by
  obtain ⟨_, _, same⟩ := Option.map_eq_some_iff.mp asks
  exact (RequestOp.get.inj same).1.symm

theorem codeOp_get {param : Ptr OrbisNpAuthGetAuthorizationCodeParameterA}
    {authCode : Ptr OrbisNpAuthorizationCode} {issuerId : Ptr Int32}
    (asks : codeOp env signedIn param authCode issuerId = some (.get signedIn' deliver)) :
    signedIn' = signedIn := by
  unfold codeOp at asks
  split at asks
  · split_ifs at asks
    exact signedIn_of_map asks
  · cases asks

theorem tokenOp_get {param : Ptr OrbisNpAuthGetIdTokenParameterA} {token : Ptr OrbisNpIdToken}
    (asks : tokenOp env signedIn param token = some (.get signedIn' deliver)) :
    signedIn' = signedIn := by
  unfold tokenOp at asks
  split at asks
  · split_ifs at asks
    exact signedIn_of_map asks
  · cases asks

/-- A Get is processed by whether the user is signed in at that moment. -/
theorem Entry.op?_get {entry : Entry}
    (asks : entry.op? env signedIn = some (.get signedIn' deliver)) : signedIn' = signedIn := by
  cases entry with
  | getAuthorizationCode param authCode issuerId =>
      dsimp only [op?, legacyCodeOp] at asks
      split at asks
      · split_ifs at asks
        exact codeOp_get asks
      · cases asks
  | getAuthorizationCodeA param authCode issuerId => exact codeOp_get asks
  | getAuthorizationCodeV3 param authCode issuerId => exact codeOp_get asks
  | getIdToken param token =>
      dsimp only [op?, legacyTokenOp] at asks
      split at asks
      · split_ifs at asks
        exact tokenOp_get asks
      · cases asks
  | getIdTokenA param token => exact tokenOp_get asks
  | getIdTokenV3 param token => exact tokenOp_get asks
  | setTimeout _ _ _ _ _ => cases asks
  | abortRequest => cases asks
  | waitAsync result =>
      obtain ⟨_, _, same⟩ := Option.map_eq_some_iff.mp asks
      cases same
  | pollAsync result =>
      obtain ⟨_, _, same⟩ := Option.map_eq_some_iff.mp asks
      cases same
  | deleteRequest => cases asks

end Gets

section Specs

variable {env : Env} {globals : Globals} {reqId : Int32} {op : RequestOp}

theorem getSection_eq (valid : globals.Valid) (reqId : Int32) (deliver : Except Fault Writes) :
    getSection globals reqId deliver = globals.perform reqId (.get globals.gSignedIn deliver) := by
  unfold getSection Globals.perform
  rw [Globals.findRequest_eq valid]
  cases globals.request? reqId <;> rfl

theorem getAuthorizationCode_eq (valid : globals.Valid)
    {param : Ptr OrbisNpAuthGetAuthorizationCodeParameterA} (flag : Int32)
    {authCode : Ptr OrbisNpAuthorizationCode} {issuerId : Ptr Int32}
    (asks : codeOp env globals.gSignedIn param authCode issuerId = some op) :
    getAuthorizationCode env globals reqId param flag authCode issuerId =
      globals.perform reqId op := by
  unfold codeOp at asks
  unfold getAuthorizationCode
  split at asks
  · rename_i param authCode
    obtain ⟨size, userId, clientId, scope⟩ := param
    split_ifs at asks with checks
    obtain ⟨sized, user, hasScope⟩ := checks
    obtain ⟨scope, rfl⟩ := Option.ne_none_iff_exists'.mp hasScope
    obtain ⟨clientId, rfl, rfl⟩ := Option.map_eq_some_iff.mp asks
    dsimp only at sized user ⊢
    rw [if_neg (not_not.mpr sized), decide_eq_false user]
    exact getSection_eq valid _ _
  · cases asks

theorem getIdToken_eq (valid : globals.Valid) {param : Ptr OrbisNpAuthGetIdTokenParameterA}
    (flag : Int32) {token : Ptr OrbisNpIdToken}
    (asks : tokenOp env globals.gSignedIn param token = some op) :
    getIdToken env globals reqId param flag token = globals.perform reqId op := by
  unfold tokenOp at asks
  unfold getIdToken
  split at asks
  · rename_i param token
    obtain ⟨size, userId, clientId, clientSecret, scope⟩ := param
    split_ifs at asks with checks
    obtain ⟨sized, user, secret, hasScope⟩ := checks
    obtain ⟨scope, rfl⟩ := Option.ne_none_iff_exists'.mp hasScope
    obtain ⟨clientSecret, rfl⟩ := Option.ne_none_iff_exists'.mp secret
    obtain ⟨clientId, rfl, rfl⟩ := Option.map_eq_some_iff.mp asks
    dsimp only at sized user ⊢
    rw [if_neg (not_not.mpr sized), decide_eq_false user]
    exact getSection_eq valid _ _
  · cases asks

theorem sceNpAuthGetAuthorizationCode_eq (valid : globals.Valid)
    {param : Ptr OrbisNpAuthGetAuthorizationCodeParameter}
    {authCode : Ptr OrbisNpAuthorizationCode} {issuerId : Ptr Int32}
    (asks : legacyCodeOp env globals.gSignedIn param authCode issuerId = some op) :
    sceNpAuthGetAuthorizationCode env globals reqId param authCode issuerId =
      globals.perform reqId op := by
  unfold legacyCodeOp at asks
  split at asks
  · rename_i param userId user
    split_ifs at asks with checks
    obtain ⟨signedIn, sized, online⟩ := checks
    cases authCode with
    | none => simp [codeOp] at asks
    | some authCode =>
        have pointers : ¬ (param.onlineId = none ∨ param.clientId = none ∨ param.scope = none) := by
          rintro (missing | missing | missing)
          · exact online missing
          · simp [codeOp, missing] at asks
          · simp [codeOp, missing] at asks
        unfold sceNpAuthGetAuthorizationCode
        dsimp only
        rw [if_neg (not_not.mpr sized), if_neg pointers, signedIn, user]
        exact getAuthorizationCode_eq valid 0 asks
  · cases asks

theorem sceNpAuthGetIdToken_eq (valid : globals.Valid)
    {param : Ptr OrbisNpAuthGetIdTokenParameter} {token : Ptr OrbisNpIdToken}
    (asks : legacyTokenOp env globals.gSignedIn param token = some op) :
    sceNpAuthGetIdToken env globals reqId param token = globals.perform reqId op := by
  unfold legacyTokenOp at asks
  split at asks
  · rename_i param userId user
    split_ifs at asks with checks
    obtain ⟨signedIn, sized, online⟩ := checks
    cases token with
    | none => simp [tokenOp] at asks
    | some token =>
        have pointers : ¬ (param.onlineId = none ∨ param.clientId = none ∨
            param.clientSecret = none ∨ param.scope = none) := by
          rintro (missing | missing | missing | missing)
          · exact online missing
          · simp [tokenOp, missing] at asks
          · simp [tokenOp, missing] at asks
          · simp [tokenOp, missing] at asks
        unfold sceNpAuthGetIdToken
        dsimp only
        rw [if_neg (not_not.mpr sized), if_neg pointers, signedIn, user]
        exact getIdToken_eq valid 0 asks
  · cases asks

theorem sceNpAuthAbortRequest_eq (valid : globals.Valid) (reqId : Int32) :
    sceNpAuthAbortRequest globals reqId = globals.perform reqId .abort := by
  unfold sceNpAuthAbortRequest Globals.perform
  rw [Globals.findRequest_eq valid]
  cases found : globals.request? reqId with
  | none => rfl
  | some request =>
      by_cases complete : request.state = .complete
      · simp [RequestOp.act, complete, Globals.setRequest_self found, bind, Except.bind, pure,
          Except.pure]
      · simp [RequestOp.act, complete, bind, Except.bind, pure, Except.pure]

theorem reportResult_eq (valid : globals.Valid) (reqId result : Int32) :
    reportResult globals reqId (some result) = globals.perform reqId .report := by
  unfold reportResult Globals.perform
  simp only [Globals.findRequest_eq valid]
  cases found : globals.request? reqId with
  | none => rfl
  | some request =>
      by_cases early : request.async = false ∨ request.state = .ready <;>
        simp [RequestOp.act, early, Globals.setRequest_self found, bind, Except.bind, pure,
          Except.pure]

theorem sceNpAuthDeleteRequest_eq (valid : globals.Valid) (reqId : Int32) :
    sceNpAuthDeleteRequest globals reqId =
      .ok (match globals.request? reqId with
        | none => (⟨.requestNotFound, {}⟩, globals)
        | some request => (⟨.ok, {}⟩, globals.remove reqId request)) := by
  unfold sceNpAuthDeleteRequest
  rw [Globals.findRequest_eq valid]
  cases found : globals.request? reqId with
  | none => rfl
  | some request =>
      have positive := valid.active_pos found
      have small := valid.active_le
      unfold maxSlots at small
      have counted : checkedS32 (globals.gActiveAuthRequests - 1) =
          .ok (globals.gActiveAuthRequests - 1) :=
        checkedS32_ok (by unfold s32Min; omega) (by unfold s32Max; omega)
      simp [counted, Globals.remove, bind, Except.bind, pure, Except.pure]

/-- **A call that passes its argument checks** is its operation on the request. -/
theorem run_eq_perform (valid : globals.Valid) {entry : Entry}
    (asks : entry.op? env globals.gSignedIn = some op) :
    entry.run env globals reqId = globals.perform reqId op := by
  cases entry with
  | getAuthorizationCode param authCode issuerId => exact sceNpAuthGetAuthorizationCode_eq valid asks
  | getAuthorizationCodeA param authCode issuerId => exact getAuthorizationCode_eq valid 0 asks
  | getAuthorizationCodeV3 param authCode issuerId => exact getAuthorizationCode_eq valid 1 asks
  | getIdToken param token => exact sceNpAuthGetIdToken_eq valid asks
  | getIdTokenA param token => exact getIdToken_eq valid 0 asks
  | getIdTokenV3 param token => exact getIdToken_eq valid 1 asks
  | setTimeout _ _ _ _ _ => cases asks
  | abortRequest =>
      cases asks
      exact sceNpAuthAbortRequest_eq valid reqId
  | waitAsync result =>
      obtain ⟨result, rfl, rfl⟩ := Option.map_eq_some_iff.mp asks
      exact reportResult_eq valid reqId result
  | pollAsync result =>
      obtain ⟨result, rfl, rfl⟩ := Option.map_eq_some_iff.mp asks
      exact reportResult_eq valid reqId result
  | deleteRequest => cases asks

/-- A call that never gets to the lookup: whatever the table and the id, it replies with the same
code and leaves everything as it was, unless an assertion ends it. -/
def TurnedDown (signedIn : Bool)
    (call : Globals → Int32 → Except Fault (Reply × Globals)) : Prop :=
  (∃ fault, ∀ globals reqId, globals.gSignedIn = signedIn → call globals reqId = .error fault) ∨
  ∃ code, code ≠ .requestNotFound ∧ ∀ globals reqId, globals.gSignedIn = signedIn →
    call globals reqId = .ok (⟨code, {}⟩, globals)

theorem TurnedDown.of_code {signedIn : Bool}
    {call : Globals → Int32 → Except Fault (Reply × Globals)} (code : OrbisCode)
    (other : code ≠ .requestNotFound) (replies : ∀ globals reqId, globals.gSignedIn = signedIn →
      call globals reqId = .ok (⟨code, {}⟩, globals)) : TurnedDown signedIn call :=
  .inr ⟨code, other, replies⟩

theorem TurnedDown.congr {signedIn : Bool}
    {call call' : Globals → Int32 → Except Fault (Reply × Globals)}
    (same : ∀ globals reqId, globals.gSignedIn = signedIn →
      call' globals reqId = call globals reqId) (down : TurnedDown signedIn call) :
    TurnedDown signedIn call' := by
  rcases down with ⟨fault, faults⟩ | ⟨code, other, replies⟩
  · exact .inl ⟨fault, fun globals reqId signed =>
      (same globals reqId signed).trans (faults globals reqId signed)⟩
  · exact .of_code code other fun globals reqId signed =>
      (same globals reqId signed).trans (replies globals reqId signed)

/-- The two entry points that work out the user id themselves: signed out there is no user, and
signed in the call goes on with the initial user's id. -/
theorem TurnedDown.of_initialUser {signedIn : Bool} (env : Env)
    {call : Globals → Int32 → Except Fault (Reply × Globals)}
    (goOn : Int32 → Globals → Int32 → Except Fault (Reply × Globals))
    (isOut : ∀ globals reqId, globals.gSignedIn = false →
      call globals reqId = .ok (⟨.userNotFound, {}⟩, globals))
    (isIn : ∀ globals reqId, globals.gSignedIn = true →
      call globals reqId = env.getInitialUser >>= fun userId => goOn userId globals reqId)
    (down : ∀ userId, signedIn = true → env.getInitialUser = .ok userId →
      TurnedDown true (goOn userId)) : TurnedDown signedIn call := by
  cases signedIn with
  | false => exact .of_code .userNotFound (by decide) isOut
  | true =>
      cases user : env.getInitialUser with
      | error fault =>
          refine .inl ⟨fault, fun globals reqId signed => ?_⟩
          rw [isIn globals reqId signed, user]
          rfl
      | ok userId =>
          refine (down userId rfl user).congr fun globals reqId signed => ?_
          rw [isIn globals reqId signed, user]
          rfl

section TurnedDown

variable {signedIn : Bool}

theorem getAuthorizationCode_turnedDown {env : Env}
    {param : Ptr OrbisNpAuthGetAuthorizationCodeParameterA} (flag : Int32)
    {authCode : Ptr OrbisNpAuthorizationCode} {issuerId : Ptr Int32}
    (asks : codeOp env signedIn param authCode issuerId = none) :
    TurnedDown signedIn fun globals reqId =>
      getAuthorizationCode env globals reqId param flag authCode issuerId := by
  unfold getAuthorizationCode
  split
  · rename_i param authCode
    split_ifs with sized
    · exact .of_code .invalidSize (by decide) fun _ _ _ => rfl
    · split
      · rename_i clientId scope user hasClient hasScope
        rw [decide_eq_false_iff_not] at user
        simp [codeOp, not_not.mp sized, user, hasClient, hasScope] at asks
      · exact .of_code .invalidArgument (by decide) fun _ _ _ => rfl
  · exact .of_code .invalidArgument (by decide) fun _ _ _ => rfl

theorem getIdToken_turnedDown {env : Env} {param : Ptr OrbisNpAuthGetIdTokenParameterA}
    (flag : Int32) {token : Ptr OrbisNpIdToken}
    (asks : tokenOp env signedIn param token = none) :
    TurnedDown signedIn fun globals reqId => getIdToken env globals reqId param flag token := by
  unfold getIdToken
  split
  · rename_i param token
    split_ifs with sized
    · exact .of_code .invalidSize (by decide) fun _ _ _ => rfl
    · split
      · rename_i clientId secret scope user hasClient hasSecret hasScope
        rw [decide_eq_false_iff_not] at user
        simp [tokenOp, not_not.mp sized, user, hasClient, hasSecret, hasScope] at asks
      · exact .of_code .invalidArgument (by decide) fun _ _ _ => rfl
  · exact .of_code .invalidArgument (by decide) fun _ _ _ => rfl

theorem sceNpAuthGetAuthorizationCode_turnedDown {env : Env}
    {param : Ptr OrbisNpAuthGetAuthorizationCodeParameter}
    {authCode : Ptr OrbisNpAuthorizationCode} {issuerId : Ptr Int32}
    (asks : legacyCodeOp env signedIn param authCode issuerId = none) :
    TurnedDown signedIn fun globals reqId =>
      sceNpAuthGetAuthorizationCode env globals reqId param authCode issuerId := by
  unfold sceNpAuthGetAuthorizationCode
  split
  · rename_i param authCode
    split_ifs with sized pointers
    · exact .of_code .invalidSize (by decide) fun _ _ _ => rfl
    · exact .of_code .invalidArgument (by decide) fun _ _ _ => rfl
    · have online : param.onlineId ≠ none := fun missing => pointers (.inl missing)
      refine .of_initialUser env (fun userId globals reqId => getAuthorizationCode env globals reqId
        (some ⟨sizeofGetAuthorizationCodeParameterA, userId, param.clientId, param.scope⟩) 0
        (some authCode) issuerId) (fun _ _ out => ?_) (fun _ _ isSignedIn => ?_)
        fun userId signed user => getAuthorizationCode_turnedDown 0 ?_
      · rw [out]
        rfl
      · rw [isSignedIn]
        rfl
      · simpa [legacyCodeOp, user, not_not.mp sized, online, signed] using asks
  · exact .of_code .invalidArgument (by decide) fun _ _ _ => rfl

theorem sceNpAuthGetIdToken_turnedDown {env : Env} {param : Ptr OrbisNpAuthGetIdTokenParameter}
    {token : Ptr OrbisNpIdToken} (asks : legacyTokenOp env signedIn param token = none) :
    TurnedDown signedIn fun globals reqId =>
      sceNpAuthGetIdToken env globals reqId param token := by
  unfold sceNpAuthGetIdToken
  split
  · rename_i param token
    split_ifs with sized pointers
    · exact .of_code .invalidSize (by decide) fun _ _ _ => rfl
    · exact .of_code .invalidArgument (by decide) fun _ _ _ => rfl
    · have online : param.onlineId ≠ none := fun missing => pointers (.inl missing)
      refine .of_initialUser env (fun userId globals reqId => getIdToken env globals reqId
        (some ⟨sizeofGetIdTokenParameterA, userId, param.clientId, param.clientSecret,
          param.scope⟩) 0 (some token)) (fun _ _ out => ?_) (fun _ _ isSignedIn => ?_)
        fun userId signed user => getIdToken_turnedDown 0 ?_
      · rw [out]
        rfl
      · rw [isSignedIn]
        rfl
      · simpa [legacyTokenOp, user, not_not.mp sized, online, signed] using asks
  · exact .of_code .invalidArgument (by decide) fun _ _ _ => rfl

/-- **A call that its argument checks turn down**, or the stub, never gets to the table. -/
theorem run_turnedDown {env : Env} {entry : Entry} (asks : entry.op? env signedIn = none)
    (kept : entry ≠ .deleteRequest) :
    TurnedDown signedIn fun globals reqId => entry.run env globals reqId := by
  cases entry with
  | getAuthorizationCode param authCode issuerId =>
      exact sceNpAuthGetAuthorizationCode_turnedDown asks
  | getAuthorizationCodeA param authCode issuerId => exact getAuthorizationCode_turnedDown 0 asks
  | getAuthorizationCodeV3 param authCode issuerId => exact getAuthorizationCode_turnedDown 1 asks
  | getIdToken param token => exact sceNpAuthGetIdToken_turnedDown asks
  | getIdTokenA param token => exact getIdToken_turnedDown 0 asks
  | getIdTokenV3 param token => exact getIdToken_turnedDown 1 asks
  | setTimeout _ _ _ _ _ => exact .of_code .ok (by decide) fun _ _ _ => rfl
  | abortRequest => cases asks
  | waitAsync result =>
      cases result with
      | none => exact .of_code .invalidArgument (by decide) fun _ _ _ => rfl
      | some _ => cases asks
  | pollAsync result =>
      cases result with
      | none => exact .of_code .invalidArgument (by decide) fun _ _ _ => rfl
      | some _ => cases asks
  | deleteRequest => exact absurd rfl kept

end TurnedDown

/-- Such a call touches nothing. -/
theorem run_of_no_op {entry : Entry} {reply : Reply} {next : Globals}
    (asks : entry.op? env globals.gSignedIn = none) (kept : entry ≠ .deleteRequest)
    (ran : entry.run env globals reqId = .ok (reply, next)) :
    next = globals ∧ reply.writes = {} ∧ reply.code ≠ .requestNotFound := by
  rcases run_turnedDown asks kept with ⟨fault, faults⟩ | ⟨code, other, replies⟩
  · cases (faults globals reqId rfl).symm.trans ran
  · cases (replies globals reqId rfl).symm.trans ran
    exact ⟨rfl, rfl, other⟩

end Specs

/-! ### Calls without a request -/

/-- A reply with none of the codes that take a request. -/
def RepliesWithoutRequest (result : Except Fault (Reply × Globals)) : Prop :=
  ∃ reply next, result = .ok (reply, next) ∧ reply.code ≠ .aborted ∧ reply.code ≠ .signedOut

section Empty

variable {env : Env} {signedIn : Bool} {reqId : Int32}

theorem RepliesWithoutRequest.of_code {code : OrbisCode} {next : Globals}
    (other : code ≠ .aborted ∧ code ≠ .signedOut) :
    RepliesWithoutRequest (.ok (⟨code, {}⟩, next)) :=
  ⟨_, _, rfl, other⟩

theorem getSection_empty (deliver : Except Fault Writes) :
    RepliesWithoutRequest (getSection { gSignedIn := signedIn } reqId deliver) := by
  have missing : getSection { gSignedIn := signedIn } reqId deliver =
      .ok (⟨.requestNotFound, {}⟩, { gSignedIn := signedIn }) := by
    simp only [getSection, findRequest, true_or, if_true]
    rfl
  rw [missing]
  exact .of_code (by decide)

theorem getAuthorizationCode_empty (param : Ptr OrbisNpAuthGetAuthorizationCodeParameterA)
    (flag : Int32) (authCode : Ptr OrbisNpAuthorizationCode) (issuerId : Ptr Int32) :
    RepliesWithoutRequest
      (getAuthorizationCode env { gSignedIn := signedIn } reqId param flag authCode issuerId) := by
  unfold getAuthorizationCode
  split
  · split_ifs
    · exact .of_code (by decide)
    · split
      · exact getSection_empty _
      · exact .of_code (by decide)
  · exact .of_code (by decide)

theorem getIdToken_empty (param : Ptr OrbisNpAuthGetIdTokenParameterA) (flag : Int32)
    (token : Ptr OrbisNpIdToken) :
    RepliesWithoutRequest
      (getIdToken env { gSignedIn := signedIn } reqId param flag token) := by
  unfold getIdToken
  split
  · split_ifs
    · exact .of_code (by decide)
    · split
      · exact getSection_empty _
      · exact .of_code (by decide)
  · exact .of_code (by decide)

/-- **Without requests** every call replies, if the user service does when it is asked. -/
theorem run_empty (entry : Entry) :
    (env.initialUser.1 ≠ 0 ∧
      ∃ fault, entry.run env { gSignedIn := signedIn } reqId = .error fault) ∨
    RepliesWithoutRequest (entry.run env { gSignedIn := signedIn } reqId) := by
  match entry with
  | .getAuthorizationCode param authCode issuerId =>
      dsimp only [Entry.run, sceNpAuthGetAuthorizationCode]
      split
      · split_ifs
        · exact .inr (.of_code (by decide))
        · exact .inr (.of_code (by decide))
        · exact .inr (.of_code (by decide))
        · rw [Env.getInitialUser]
          split_ifs with status
          · simp only [bind, Except.bind]
            exact .inr (getAuthorizationCode_empty _ 0 _ _)
          · exact .inl ⟨status, _, rfl⟩
      · exact .inr (.of_code (by decide))
  | .getIdToken param token =>
      dsimp only [Entry.run, sceNpAuthGetIdToken]
      split
      · split_ifs
        · exact .inr (.of_code (by decide))
        · exact .inr (.of_code (by decide))
        · exact .inr (.of_code (by decide))
        · rw [Env.getInitialUser]
          split_ifs with status
          · simp only [bind, Except.bind]
            exact .inr (getIdToken_empty _ 0 _)
          · exact .inl ⟨status, _, rfl⟩
      · exact .inr (.of_code (by decide))
  | .getAuthorizationCodeA _ _ _ => exact .inr (getAuthorizationCode_empty _ 0 _ _)
  | .getAuthorizationCodeV3 _ _ _ => exact .inr (getAuthorizationCode_empty _ 1 _ _)
  | .getIdTokenA _ _ => exact .inr (getIdToken_empty _ 0 _)
  | .getIdTokenV3 _ _ => exact .inr (getIdToken_empty _ 1 _)
  | .setTimeout _ _ _ _ _ => exact .inr (.of_code (by decide))
  | .abortRequest => exact .inr (.of_code (by decide))
  | .waitAsync none => exact .inr (.of_code (by decide))
  | .waitAsync (some _) => exact .inr (.of_code (by decide))
  | .pollAsync none => exact .inr (.of_code (by decide))
  | .pollAsync (some _) => exact .inr (.of_code (by decide))
  | .deleteRequest => exact .inr (.of_code (by decide))

end Empty

section TurnedDown

variable {env : Env} {globals : Globals} {reqId : Int32} {entry : Entry}

/-- A call that is turned down is answered without a request. -/
theorem run_of_turnedDown (asks : entry.op? env globals.gSignedIn = none)
    (kept : entry ≠ .deleteRequest) :
    (env.initialUser.1 ≠ 0 ∧ ∃ fault, entry.run env globals reqId = .error fault) ∨
      RepliesWithoutRequest (entry.run env globals reqId) := by
  have onEmpty := @run_empty env globals.gSignedIn reqId entry
  rcases run_turnedDown asks kept with ⟨fault, faults⟩ | ⟨code, _, replies⟩
  · dsimp only at faults
    rw [faults { gSignedIn := globals.gSignedIn } reqId rfl] at onEmpty
    rwa [faults globals reqId rfl]
  · dsimp only at replies
    rw [replies globals reqId rfl]
    rw [replies { gSignedIn := globals.gSignedIn } reqId rfl] at onEmpty
    rcases onEmpty with ⟨_, fault, faults⟩ | ⟨reply, next, replied, other⟩
    · cases faults
    · cases replied
      exact .inr (.of_code other)

end TurnedDown

end LayraPS4.NpAuth
