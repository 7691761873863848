/-
**The entry points with every access checked.**

The same functions once more, with the checks that C++ leaves to the program spelled out: every
pointer is followed by `deref`, the vector is read by `subscript`, and the index of a request is
computed in signed arithmetic that may overflow, as the id of a new request already is. `create_eq` and
`run_eq`: they do what the entry points do, except that the subtraction overflows for ids below
`-0x6fffffff`, before any test of the id.
-/

import LayraPS4.NpAuth.Calls

set_option linter.unusedSectionVars false

namespace LayraPS4.NpAuth

open Cxx Runs

namespace Checked

/-! ### Creating a request -/

/-- The `while` loop of `CreateNpAuthRequest`, from this index on. -/
def createLoop (async : Bool) (reqIndex : Nat) (requests : List NpAuthRequest) :
    Except Fault (Nat × List NpAuthRequest) :=
  if reqIndex < requests.length then do
    let request ← subscript requests reqIndex
    if request.state = .none then
      return (reqIndex, requests.set reqIndex { request with state := .ready, async })
    else createLoop async (reqIndex + 1) requests
  else return (reqIndex, requests)
termination_by requests.length - reqIndex

def createNpAuthRequest (globals : Globals) (async : Bool) :
    Except Fault (Except OrbisCode Int32 × Globals) :=
  if limitReached globals then return (.error .requestMax, globals)
  else do
    let (reqIndex, requests) ← createLoop async 0 globals.gAuthRequests
    let requests :=
      if reqIndex = requests.length then requests ++ [⟨.ready, async, .ok⟩] else requests
    let active ← checkedS32 (globals.gActiveAuthRequests + 1)
    let reqId ← requestId reqIndex
    return (.ok reqId, { globals with gActiveAuthRequests := active, gAuthRequests := requests })

def sceNpAuthCreateRequest (globals : Globals) :
    Except Fault (Except OrbisCode Int32 × Globals) :=
  createNpAuthRequest globals false

def sceNpAuthCreateAsyncRequest (globals : Globals)
    (param : Ptr OrbisNpAuthCreateAsyncRequestParameter) :
    Except Fault (Except OrbisCode Int32 × Globals) :=
  if param = none then return (.error .invalidArgument, globals)
  else do
    let fields ← deref param
    if fields.size ≠ sizeofCreateAsyncRequestParameter then
      return (.error .invalidSize, globals)
    else createNpAuthRequest globals true

/-! ### Finding a request -/

/-- `req_id - ORBIS_NP_AUTH_REQUEST_ID_OFFSET - 1`, as a `size_t`. -/
def requestIndex (reqId : Int32) : Except Fault Nat := do
  let difference ← checkedS32 (reqId.toInt - requestIdOffset.toInt)
  let reqIndex ← checkedS32 (difference - 1)
  return asSize (Int32.ofInt reqIndex)

/-- The index of the request, unless it is not found. -/
def findRequest (globals : Globals) (reqId : Int32) : Except Fault (Option Nat) := do
  let reqIndex ← requestIndex reqId
  if globals.gActiveAuthRequests = 0 ∨ globals.gAuthRequests.length ≤ reqIndex then return none
  else
    let request ← subscript globals.gAuthRequests reqIndex
    return if request.state = .none then none else some reqIndex

/-! ### Getting a token -/

def getSection (globals : Globals) (reqId : Int32) (deliver : Except Fault Writes) :
    Except Fault (Reply × Globals) := do
  match ← findRequest globals reqId with
  | none => return (⟨.requestNotFound, {}⟩, globals)
  | some reqIndex =>
      let request ← subscript globals.gAuthRequests reqIndex
      let (reply, request) ← processRequest globals.gSignedIn deliver request
      return (reply, globals.setRequest reqIndex request)

/-- What the token array holds, for the `client_id` of the parameters. -/
def fillToken (env : Env) (clientId : Except Fault (Ptr OrbisNpClientId)) (data : StdString) :
    Except Fault StdString :=
  if env.networkingMode = .unofficialServer then do
    let clientId ← clientId
    if clientId ≠ none then
      let client ← deref clientId
      return NpAuth.fillToken env client data
    else return zeroed data
  else return zeroed data

def deliverCode (env : Env) (param : Ptr OrbisNpAuthGetAuthorizationCodeParameterA)
    (authCode : Ptr OrbisNpAuthorizationCode) (issuerId : Ptr Int32) : Except Fault Writes := do
  let array ← deref authCode
  let _ ← deref issuerId
  let data ← fillToken env ((deref param).map (·.clientId)) array.data
  return { authCode := some ⟨data⟩, issuerId := some 0 }

def deliverToken (env : Env) (param : Ptr OrbisNpAuthGetIdTokenParameterA)
    (token : Ptr OrbisNpIdToken) : Except Fault Writes := do
  let array ← deref token
  let data ← fillToken env ((deref param).map (·.clientId)) array.data
  return { token := some ⟨data⟩ }

def getAuthorizationCode (env : Env) (globals : Globals) (reqId : Int32)
    (param : Ptr OrbisNpAuthGetAuthorizationCodeParameterA) (_flag : Int32)
    (authCode : Ptr OrbisNpAuthorizationCode) (issuerId : Ptr Int32) :
    Except Fault (Reply × Globals) :=
  if param = none ∨ authCode = none then return (⟨.invalidArgument, {}⟩, globals)
  else do
    let fields ← deref param
    if fields.size ≠ sizeofGetAuthorizationCodeParameter then
      return (⟨.invalidSize, {}⟩, globals)
    else if fields.userId = -1 ∨ fields.clientId = none ∨ fields.scope = none then
      return (⟨.invalidArgument, {}⟩, globals)
    else getSection globals reqId (deliverCode env param authCode issuerId)

def getIdToken (env : Env) (globals : Globals) (reqId : Int32)
    (param : Ptr OrbisNpAuthGetIdTokenParameterA) (_flag : Int32) (token : Ptr OrbisNpIdToken) :
    Except Fault (Reply × Globals) :=
  if param = none ∨ token = none then return (⟨.invalidArgument, {}⟩, globals)
  else do
    let fields ← deref param
    if fields.size ≠ sizeofGetIdTokenParameterA then return (⟨.invalidSize, {}⟩, globals)
    else if fields.userId = -1 ∨ fields.clientId = none ∨ fields.clientSecret = none ∨
        fields.scope = none then
      return (⟨.invalidArgument, {}⟩, globals)
    else getSection globals reqId (deliverToken env param token)

def sceNpAuthGetAuthorizationCode (env : Env) (globals : Globals) (reqId : Int32)
    (param : Ptr OrbisNpAuthGetAuthorizationCodeParameter)
    (authCode : Ptr OrbisNpAuthorizationCode) (issuerId : Ptr Int32) :
    Except Fault (Reply × Globals) :=
  if param = none ∨ authCode = none then return (⟨.invalidArgument, {}⟩, globals)
  else do
    let fields ← deref param
    if fields.size ≠ sizeofGetAuthorizationCodeParameter then
      return (⟨.invalidSize, {}⟩, globals)
    else if fields.onlineId = none ∨ fields.clientId = none ∨ fields.scope = none then
      return (⟨.invalidArgument, {}⟩, globals)
    else if !globals.gSignedIn then return (⟨.userNotFound, {}⟩, globals)
    else
      let userId ← env.getInitialUser
      getAuthorizationCode env globals reqId
        (some ⟨sizeofGetAuthorizationCodeParameterA, userId, fields.clientId, fields.scope⟩) 0
        authCode issuerId

def sceNpAuthGetAuthorizationCodeA (env : Env) (globals : Globals) (reqId : Int32)
    (param : Ptr OrbisNpAuthGetAuthorizationCodeParameterA)
    (authCode : Ptr OrbisNpAuthorizationCode) (issuerId : Ptr Int32) :
    Except Fault (Reply × Globals) :=
  getAuthorizationCode env globals reqId param 0 authCode issuerId

def sceNpAuthGetAuthorizationCodeV3 (env : Env) (globals : Globals) (reqId : Int32)
    (param : Ptr OrbisNpAuthGetAuthorizationCodeParameterA)
    (authCode : Ptr OrbisNpAuthorizationCode) (issuerId : Ptr Int32) :
    Except Fault (Reply × Globals) :=
  getAuthorizationCode env globals reqId param 1 authCode issuerId

def sceNpAuthGetIdToken (env : Env) (globals : Globals) (reqId : Int32)
    (param : Ptr OrbisNpAuthGetIdTokenParameter) (token : Ptr OrbisNpIdToken) :
    Except Fault (Reply × Globals) :=
  if param = none ∨ token = none then return (⟨.invalidArgument, {}⟩, globals)
  else do
    let fields ← deref param
    if fields.size ≠ sizeofGetIdTokenParameter then return (⟨.invalidSize, {}⟩, globals)
    else if fields.onlineId = none ∨ fields.clientId = none ∨ fields.clientSecret = none ∨
        fields.scope = none then
      return (⟨.invalidArgument, {}⟩, globals)
    else if !globals.gSignedIn then return (⟨.userNotFound, {}⟩, globals)
    else
      let userId ← env.getInitialUser
      getIdToken env globals reqId
        (some ⟨sizeofGetIdTokenParameterA, userId, fields.clientId, fields.clientSecret,
          fields.scope⟩) 0 token

def sceNpAuthGetIdTokenA (env : Env) (globals : Globals) (reqId : Int32)
    (param : Ptr OrbisNpAuthGetIdTokenParameterA) (token : Ptr OrbisNpIdToken) :
    Except Fault (Reply × Globals) :=
  getIdToken env globals reqId param 0 token

def sceNpAuthGetIdTokenV3 (env : Env) (globals : Globals) (reqId : Int32)
    (param : Ptr OrbisNpAuthGetIdTokenParameterA) (token : Ptr OrbisNpIdToken) :
    Except Fault (Reply × Globals) :=
  getIdToken env globals reqId param 1 token

/-! ### The other operations on a request -/

def sceNpAuthAbortRequest (globals : Globals) (reqId : Int32) : Except Fault (Reply × Globals) := do
  match ← findRequest globals reqId with
  | none => return (⟨.requestNotFound, {}⟩, globals)
  | some reqIndex =>
      let request ← subscript globals.gAuthRequests reqIndex
      if request.state = .complete then return (⟨.ok, {}⟩, globals)
      else return (⟨.ok, {}⟩, globals.setRequest reqIndex { request with state := .aborted })

/-- The body of `sceNpAuthWaitAsync` and of `sceNpAuthPollAsync`. -/
def reportResult (globals : Globals) (reqId : Int32) (result : Ptr Int32) :
    Except Fault (Reply × Globals) :=
  if result = none then return (⟨.invalidArgument, {}⟩, globals)
  else do
    match ← findRequest globals reqId with
    | none => return (⟨.requestNotFound, {}⟩, globals)
    | some reqIndex =>
        let request ← subscript globals.gAuthRequests reqIndex
        if request.async = false ∨ request.state = .ready then return (⟨.invalidId, {}⟩, globals)
        else
          let _ ← deref result
          return (⟨.ok, { result := some request.result }⟩, globals)

def sceNpAuthWaitAsync (globals : Globals) (reqId : Int32) (result : Ptr Int32) :
    Except Fault (Reply × Globals) :=
  reportResult globals reqId result

def sceNpAuthPollAsync (globals : Globals) (reqId : Int32) (result : Ptr Int32) :
    Except Fault (Reply × Globals) :=
  reportResult globals reqId result

def sceNpAuthDeleteRequest (globals : Globals) (reqId : Int32) :
    Except Fault (Reply × Globals) := do
  match ← findRequest globals reqId with
  | none => return (⟨.requestNotFound, {}⟩, globals)
  | some reqIndex =>
      let active ← checkedS32 (globals.gActiveAuthRequests - 1)
      let request ← subscript globals.gAuthRequests reqIndex
      return (⟨.ok, {}⟩, { globals with gActiveAuthRequests := active }.setRequest reqIndex
        { request with state := .none })

/-! ### Calls -/

def create (globals : Globals) :
    CreateEntry → Except Fault (Except OrbisCode Int32 × Globals)
  | .createRequest => sceNpAuthCreateRequest globals
  | .createAsyncRequest param => sceNpAuthCreateAsyncRequest globals param

def run (env : Env) (globals : Globals) (reqId : Int32) :
    Entry → Except Fault (Reply × Globals)
  | .getAuthorizationCode param authCode issuerId =>
      sceNpAuthGetAuthorizationCode env globals reqId param authCode issuerId
  | .getAuthorizationCodeA param authCode issuerId =>
      sceNpAuthGetAuthorizationCodeA env globals reqId param authCode issuerId
  | .getAuthorizationCodeV3 param authCode issuerId =>
      sceNpAuthGetAuthorizationCodeV3 env globals reqId param authCode issuerId
  | .getIdToken param token => sceNpAuthGetIdToken env globals reqId param token
  | .getIdTokenA param token => sceNpAuthGetIdTokenA env globals reqId param token
  | .getIdTokenV3 param token => sceNpAuthGetIdTokenV3 env globals reqId param token
  | .setTimeout resolveRetry resolveTimeout connTimeout sendTimeout recvTimeout =>
      -- a stub, which follows nothing
      sceNpAuthSetTimeout globals reqId resolveRetry resolveTimeout connTimeout sendTimeout
        recvTimeout
  | .abortRequest => sceNpAuthAbortRequest globals reqId
  | .waitAsync result => sceNpAuthWaitAsync globals reqId result
  | .pollAsync result => sceNpAuthPollAsync globals reqId result
  | .deleteRequest => sceNpAuthDeleteRequest globals reqId

/-! ### The loop stays inside the vector -/

section Create

theorem createLoop_append (async : Bool) (before rest : List NpAuthRequest) :
    createLoop async before.length (before ++ rest) =
      .ok (before.length + (NpAuth.createLoop async rest).1,
        before ++ (NpAuth.createLoop async rest).2) := by
  induction rest generalizing before with
  | nil =>
      rw [createLoop, List.append_nil, if_neg (lt_irrefl _)]
      simp [NpAuth.createLoop, pure, Except.pure]
  | cons request rest ih =>
      have found : (before ++ request :: rest)[before.length]? = some request := by simp
      rw [createLoop, if_pos (by simp), subscript_ok found, NpAuth.createLoop]
      by_cases free : request.state = .none
      · simp [free, bind, Except.bind, pure, Except.pure]
      · have next := ih (before ++ [request])
        rw [List.length_append, List.length_singleton, List.append_assoc] at next
        simp only [free, if_false, bind, Except.bind]
        rw [show before ++ request :: rest = before ++ ([request] ++ rest) from rfl, next]
        simp only [List.append_assoc]
        refine congrArg Except.ok (Prod.ext ?_ rfl)
        show before.length + 1 + _ = before.length + (_ + 1)
        omega

theorem createLoop_eq (async : Bool) (requests : List NpAuthRequest) :
    createLoop async 0 requests = .ok (NpAuth.createLoop async requests) := by
  have whole := createLoop_append async [] requests
  simpa using whole

theorem createNpAuthRequest_eq (globals : Globals) (async : Bool) :
    createNpAuthRequest globals async = NpAuth.createNpAuthRequest globals async := by
  unfold createNpAuthRequest NpAuth.createNpAuthRequest createSection
  split_ifs
  · rfl
  · rw [createLoop_eq]
    obtain ⟨reqIndex, requests⟩ := NpAuth.createLoop async globals.gAuthRequests
    simp only [bind_assoc, pure_bind]
    rfl

/-- **A create** has the behaviour it has without the checks. -/
theorem create_eq (globals : Globals) (entry : CreateEntry) :
    create globals entry = entry.run globals := by
  match entry with
  | .createRequest => exact createNpAuthRequest_eq globals false
  | .createAsyncRequest none => rfl
  | .createAsyncRequest (some param) =>
      rw [CreateEntry.run_eq]
      show (if param.size ≠ sizeofCreateAsyncRequestParameter then _
        else createNpAuthRequest globals true) = _
      rw [createNpAuthRequest_eq, CreateEntry.check]
      split_ifs <;> rfl

end Create

/-! ### The subtraction -/

/-- The ids whose index does not overflow. -/
def InRange (reqId : Int32) : Prop := -0x6fffffff ≤ reqId.toInt

instance (reqId : Int32) : Decidable (InRange reqId) := inferInstanceAs (Decidable (_ ≤ _))

/-- What a call does that computes the index of its id if its argument checks pass. -/
def decoding {α : Type} (passes : Bool) (reqId : Int32) (result : Except Fault α) :
    Except Fault α :=
  if passes = true ∧ ¬ InRange reqId then .error .signedOverflow else result

section Decoding

variable {globals : Globals} {reqId : Int32}

theorem requestIndex_eq (reqId : Int32) :
    requestIndex reqId = decoding true reqId (.ok (slotOf reqId)) := by
  have low := reqId.le_toInt
  have high := reqId.toInt_lt
  have offset : requestIdOffset.toInt = 0x10000000 := rfl
  have index : Int32.ofInt (reqId.toInt - requestIdOffset.toInt - 1) =
      reqId - requestIdOffset - 1 := by
    rw [Int32.ofInt_sub, Int32.ofInt_sub, Int32.ofInt_toInt, Int32.ofInt_toInt]
    rfl
  rw [requestIndex, checkedS32_bind, checkedS32_bind, index]
  unfold decoding InRange s32Min s32Max
  by_cases inRange : -0x6fffffff ≤ reqId.toInt
  · rw [if_pos (by omega), if_pos (by omega), if_neg (by simp [inRange])]
    rfl
  · refine Eq.trans ?_ (if_pos ⟨rfl, inRange⟩).symm
    split_ifs
    · omega
    all_goals rfl

theorem findRequest_decoding (globals : Globals) (reqId : Int32) :
    findRequest globals reqId =
      decoding true reqId ((NpAuth.findRequest globals reqId).map (Option.map Prod.fst)) := by
  unfold findRequest NpAuth.findRequest
  rw [requestIndex_eq, show asSize (NpAuth.requestIndex reqId) = slotOf reqId from rfl]
  unfold decoding
  split_ifs
  · rfl
  · simp only [bind, Except.bind]
    by_cases missing : globals.gActiveAuthRequests = 0 ∨
      globals.gAuthRequests.length ≤ slotOf reqId
    · rw [if_pos missing, if_pos missing]
      rfl
    · rw [if_neg missing, if_neg missing, subscript]
      rcases globals.gAuthRequests[slotOf reqId]? with _ | request
      · rfl
      · by_cases free : request.state = .none <;> simp [free, Except.map, pure, Except.pure]

/-- The lookup stays inside the vector. -/
theorem findRequest_eq (valid : globals.Valid) (reqId : Int32) :
    findRequest globals reqId =
      decoding true reqId (.ok ((globals.request? reqId).map fun _ => slotOf reqId)) := by
  rw [findRequest_decoding, Globals.findRequest_eq valid]
  rcases globals.request? reqId with _ | request <;> rfl

theorem decoding_bind {α β : Type} (reqId : Int32) (value : α) (next : α → Except Fault β) :
    (decoding true reqId (.ok value) >>= next) = decoding true reqId (next value) := by
  unfold decoding
  split_ifs <;> rfl

/-- What a checked entry point does with the slot it looked up. -/
theorem findRequest_bind {β : Type} (valid : globals.Valid) (reqId : Int32)
    (next : Option Nat → Except Fault β) :
    (findRequest globals reqId >>= next) =
      decoding true reqId (next ((globals.request? reqId).map fun _ => slotOf reqId)) := by
  rw [findRequest_eq valid, decoding_bind]

theorem subscript_request {request : NpAuthRequest}
    (found : globals.request? reqId = some request) :
    subscript globals.gAuthRequests (slotOf reqId) = .ok request :=
  subscript_ok (Globals.request?_eq_some.mp found).1

theorem getSection_eq (valid : globals.Valid) (deliver : Except Fault Writes) :
    getSection globals reqId deliver =
      decoding true reqId (NpAuth.getSection globals reqId deliver) := by
  unfold getSection NpAuth.getSection
  rw [findRequest_bind valid, Globals.findRequest_eq valid]
  rcases found : globals.request? reqId with _ | request
  · rfl
  · simp only [Option.map_some, subscript_request found, bind, Except.bind]

theorem sceNpAuthAbortRequest_eq (valid : globals.Valid) :
    sceNpAuthAbortRequest globals reqId =
      decoding true reqId (NpAuth.sceNpAuthAbortRequest globals reqId) := by
  unfold sceNpAuthAbortRequest NpAuth.sceNpAuthAbortRequest
  rw [findRequest_bind valid, Globals.findRequest_eq valid]
  rcases found : globals.request? reqId with _ | request
  · rfl
  · simp only [Option.map_some, subscript_request found, bind, Except.bind]

theorem reportResult_eq (valid : globals.Valid) (result : Ptr Int32) :
    reportResult globals reqId result =
      decoding result.isSome reqId (NpAuth.reportResult globals reqId result) := by
  rcases result with _ | result
  · rfl
  unfold reportResult NpAuth.reportResult
  rw [if_neg (Option.some_ne_none result), findRequest_bind valid]
  simp only [Globals.findRequest_eq valid]
  rcases found : globals.request? reqId with _ | request
  · rfl
  · simp only [Option.map_some, Option.isSome_some, subscript_request found, deref, bind,
      Except.bind]

theorem sceNpAuthDeleteRequest_eq (valid : globals.Valid) :
    sceNpAuthDeleteRequest globals reqId =
      decoding true reqId (NpAuth.sceNpAuthDeleteRequest globals reqId) := by
  unfold sceNpAuthDeleteRequest NpAuth.sceNpAuthDeleteRequest
  rw [findRequest_bind valid, Globals.findRequest_eq valid]
  rcases found : globals.request? reqId with _ | request
  · rfl
  · simp only [Option.map_some, subscript_request found, bind, Except.bind]

end Decoding

/-! ### The pointers -/

section Pointers

variable {env : Env} {globals : Globals} {reqId : Int32}

theorem fillToken_eq (env : Env) (client : OrbisNpClientId) (data : StdString) :
    fillToken env (.ok (some client)) data = .ok (NpAuth.fillToken env client data) := by
  unfold fillToken
  by_cases unofficial : env.networkingMode = .unofficialServer
  · rw [if_pos unofficial]
    rfl
  · rw [if_neg unofficial, NpAuth.fillToken, spoofedToken, if_neg fun both => unofficial both.1]
    rfl

theorem deliverCode_eq {param : OrbisNpAuthGetAuthorizationCodeParameterA}
    {client : OrbisNpClientId} (given : param.clientId = some client)
    (authCode : OrbisNpAuthorizationCode) (issuerId : Ptr Int32) :
    deliverCode env (some param) (some authCode) issuerId =
      NpAuth.deliverCode env client authCode issuerId := by
  unfold deliverCode NpAuth.deliverCode
  rcases issuerId with _ | issuerId
  · rfl
  · simp only [deref, Except.map, given, fillToken_eq, bind, Except.bind]
    rfl

theorem deliverToken_eq {param : OrbisNpAuthGetIdTokenParameterA}
    {client : OrbisNpClientId} (given : param.clientId = some client) (token : OrbisNpIdToken) :
    deliverToken env (some param) (some token) = NpAuth.deliverToken env client token := by
  unfold deliverToken NpAuth.deliverToken
  simp only [deref, Except.map, given, fillToken_eq, bind, Except.bind]
  rfl

theorem getAuthorizationCode_eq (valid : globals.Valid)
    (param : Ptr OrbisNpAuthGetAuthorizationCodeParameterA) (flag : Int32)
    (authCode : Ptr OrbisNpAuthorizationCode) (issuerId : Ptr Int32) :
    getAuthorizationCode env globals reqId param flag authCode issuerId =
      decoding (codeOp env globals.gSignedIn param authCode issuerId).isSome reqId
        (NpAuth.getAuthorizationCode env globals reqId param flag authCode issuerId) := by
  rcases param with _ | ⟨size, userId, clientId, scope⟩
  · rfl
  rcases authCode with _ | authCode
  · rfl
  unfold getAuthorizationCode NpAuth.getAuthorizationCode codeOp
  simp only [deref, bind, Except.bind, pure, Except.pure, reduceCtorEq, or_self, if_false]
  by_cases sized : size = sizeofGetAuthorizationCodeParameter
  · by_cases user : userId = -1
    · simp [decoding, sized, user]
    rcases clientId with _ | client
    · simp [decoding, sized, user]
    rcases scope with _ | scope
    · simp [decoding, sized, user]
    · simp [sized, user, getSection_eq valid, deliverCode_eq]
  · simp [decoding, sized]

theorem getIdToken_eq (valid : globals.Valid) (param : Ptr OrbisNpAuthGetIdTokenParameterA)
    (flag : Int32) (token : Ptr OrbisNpIdToken) :
    getIdToken env globals reqId param flag token =
      decoding (tokenOp env globals.gSignedIn param token).isSome reqId
        (NpAuth.getIdToken env globals reqId param flag token) := by
  rcases param with _ | ⟨size, userId, clientId, clientSecret, scope⟩
  · rfl
  rcases token with _ | token
  · rfl
  unfold getIdToken NpAuth.getIdToken tokenOp
  simp only [deref, bind, Except.bind, pure, Except.pure, reduceCtorEq, or_self, if_false]
  by_cases sized : size = sizeofGetIdTokenParameterA
  · by_cases user : userId = -1
    · simp [decoding, sized, user]
    rcases clientId with _ | client
    · simp [decoding, sized, user]
    rcases clientSecret with _ | secret
    · simp [decoding, sized, user]
    rcases scope with _ | scope
    · simp [decoding, sized, user]
    · simp [sized, user, getSection_eq valid, deliverToken_eq]
  · simp [decoding, sized]

theorem sceNpAuthGetAuthorizationCode_eq (valid : globals.Valid)
    (param : Ptr OrbisNpAuthGetAuthorizationCodeParameter)
    (authCode : Ptr OrbisNpAuthorizationCode) (issuerId : Ptr Int32) :
    sceNpAuthGetAuthorizationCode env globals reqId param authCode issuerId =
      decoding (legacyCodeOp env globals.gSignedIn param authCode issuerId).isSome reqId
        (NpAuth.sceNpAuthGetAuthorizationCode env globals reqId param authCode issuerId) := by
  rcases param with _ | ⟨size, onlineId, clientId, scope⟩
  · rfl
  unfold sceNpAuthGetAuthorizationCode NpAuth.sceNpAuthGetAuthorizationCode legacyCodeOp
  rcases env.getInitialUser with fault | userId
  · rcases authCode with _ | authCode <;> simp [decoding, deref, bind, Except.bind, pure, Except.pure]
  rcases authCode with _ | authCode
  · simp [decoding, codeOp, pure, Except.pure]
  simp only [deref, bind, Except.bind, pure, Except.pure, reduceCtorEq, or_self, if_false]
  by_cases sized : size = sizeofGetAuthorizationCodeParameter
  · rcases onlineId with _ | onlineId
    · simp [decoding, sized]
    rcases clientId with _ | clientId
    · simp [decoding, codeOp, sized]
    rcases scope with _ | scope
    · simp [decoding, codeOp, sized]
    rcases signedIn : globals.gSignedIn with _ | _
    · simp [decoding, sized]
    · have goesOn := @getAuthorizationCode_eq env globals reqId valid
      simp [sized, goesOn, signedIn]
  · simp [decoding, sized]

theorem sceNpAuthGetIdToken_eq (valid : globals.Valid)
    (param : Ptr OrbisNpAuthGetIdTokenParameter) (token : Ptr OrbisNpIdToken) :
    sceNpAuthGetIdToken env globals reqId param token =
      decoding (legacyTokenOp env globals.gSignedIn param token).isSome reqId
        (NpAuth.sceNpAuthGetIdToken env globals reqId param token) := by
  rcases param with _ | ⟨size, onlineId, clientId, clientSecret, scope⟩
  · rfl
  unfold sceNpAuthGetIdToken NpAuth.sceNpAuthGetIdToken legacyTokenOp
  rcases env.getInitialUser with fault | userId
  · rcases token with _ | token <;> simp [decoding, deref, bind, Except.bind, pure, Except.pure]
  rcases token with _ | token
  · simp [decoding, tokenOp, pure, Except.pure]
  simp only [deref, bind, Except.bind, pure, Except.pure, reduceCtorEq, or_self, if_false]
  by_cases sized : size = sizeofGetIdTokenParameter
  · rcases onlineId with _ | onlineId
    · simp [decoding, sized]
    rcases clientId with _ | clientId
    · simp [decoding, tokenOp, sized]
    rcases clientSecret with _ | clientSecret
    · simp [decoding, tokenOp, sized]
    rcases scope with _ | scope
    · simp [decoding, tokenOp, sized]
    rcases signedIn : globals.gSignedIn with _ | _
    · simp [decoding, sized]
    · have goesOn := @getIdToken_eq env globals reqId valid
      simp [sized, goesOn, signedIn]
  · simp [decoding, sized]

theorem passesChecks_of_op? {entry : Entry} (kept : entry ≠ .deleteRequest) :
    (Call.request env reqId entry).passesChecks globals =
      (entry.op? env globals.gSignedIn).isSome := by
  rw [Call.passesChecks, decide_eq_false kept, Bool.or_false]

/-- **A call** has the behaviour it has without the checks, unless its argument checks pass and the
index of its id overflows. -/
theorem run_eq (valid : globals.Valid) (entry : Entry) :
    run env globals reqId entry =
      decoding ((Call.request env reqId entry).passesChecks globals) reqId
        (entry.run env globals reqId) := by
  by_cases delete : entry = .deleteRequest
  · subst delete
    exact sceNpAuthDeleteRequest_eq valid
  rw [passesChecks_of_op? delete]
  match entry with
  | .getAuthorizationCode param authCode issuerId =>
      exact sceNpAuthGetAuthorizationCode_eq valid param authCode issuerId
  | .getAuthorizationCodeA param authCode issuerId =>
      exact getAuthorizationCode_eq valid param 0 authCode issuerId
  | .getAuthorizationCodeV3 param authCode issuerId =>
      exact getAuthorizationCode_eq valid param 1 authCode issuerId
  | .getIdToken param token => exact sceNpAuthGetIdToken_eq valid param token
  | .getIdTokenA param token => exact getIdToken_eq valid param 0 token
  | .getIdTokenV3 param token => exact getIdToken_eq valid param 1 token
  | .setTimeout _ _ _ _ _ => rfl
  | .abortRequest => exact sceNpAuthAbortRequest_eq valid
  | .waitAsync none => exact reportResult_eq valid none
  | .waitAsync (some result) => exact reportResult_eq valid (some result)
  | .pollAsync none => exact reportResult_eq valid none
  | .pollAsync (some result) => exact reportResult_eq valid (some result)

end Pointers

end Checked

end LayraPS4.NpAuth
