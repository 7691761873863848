/-
**The NpAuth entry points** (`core/libraries/np/np_auth.cpp`).

Each function takes the process globals and returns them with its reply: the code it returns and
what it wrote through its output pointers. `Fault` is where C++ gives the execution no meaning.

The error codes are those of `np_auth_error.h` and `np_error.h`, which the repository does not hold:
only that they differ, and that `ORBIS_OK` is the `0` a new request's `result` starts with, is used.
What comes from outside the file (the networking mode, the token file, the user service) is the
`Env` of a call.
The members of the parameter structures are the pointers that `np_auth.cpp` compares with `nullptr`;
`np_auth.h` declares them without their stars.

The six Get functions share two bodies that differ in what they write (`processRequest`), and
`sceNpAuthWaitAsync` and `sceNpAuthPollAsync` share one (`reportResult`). `CreateNpAuthRequest`
reads the counter before it takes the mutex: `limitReached` is that read, `createSection` what the
mutex protects.

The id of a new request is computed in signed arithmetic that may overflow (`requestId`). The index of
an id that a guest passes is computed wrapping here (`requestIndex`), for every id; for which of them
the subtraction overflows is said over the entry points of `NpAuth.Checked`.
-/

import LayraPS4.Networking.NetworkingCore

namespace LayraPS4.NpAuth

open Cxx

/-! ### Types -/

/-- The values the entry points return and store as a request's `result`. -/
inductive OrbisCode
  | ok
  | invalidArgument
  | invalidSize
  | invalidId
  | requestMax
  | requestNotFound
  | aborted
  | signedOut
  | userNotFound
  deriving DecidableEq, Repr

inductive NpAuthRequestState
  | none
  | ready
  | aborted
  | complete
  deriving DecidableEq, Repr

structure NpAuthRequest where
  state : NpAuthRequestState
  async : Bool
  result : OrbisCode
  deriving DecidableEq, Repr

/-- The static variables of the file. -/
structure Globals where
  gSignedIn : Bool := false
  gActiveAuthRequests : Int := 0
  gAuthRequests : List NpAuthRequest := []
  deriving DecidableEq, Repr

structure OrbisNpOnlineId where
  data : StdString
  deriving DecidableEq

structure OrbisNpClientId where
  data : StdString
  deriving DecidableEq

structure OrbisNpClientSecret where
  data : StdString
  deriving DecidableEq

/-- `data` is the whole array: its length is the capacity. -/
structure OrbisNpAuthorizationCode where
  data : StdString
  deriving DecidableEq

/-- `data` is the whole array: its length is the capacity. -/
structure OrbisNpIdToken where
  data : StdString
  deriving DecidableEq

structure OrbisNpAuthCreateAsyncRequestParameter where
  size : UInt64
  deriving DecidableEq

structure OrbisNpAuthGetAuthorizationCodeParameter where
  size : UInt64
  onlineId : Ptr OrbisNpOnlineId
  clientId : Ptr OrbisNpClientId
  scope : Ptr StdString
  deriving DecidableEq

structure OrbisNpAuthGetAuthorizationCodeParameterA where
  size : UInt64
  userId : Int32
  clientId : Ptr OrbisNpClientId
  scope : Ptr StdString
  deriving DecidableEq

structure OrbisNpAuthGetIdTokenParameter where
  size : UInt64
  onlineId : Ptr OrbisNpOnlineId
  clientId : Ptr OrbisNpClientId
  clientSecret : Ptr OrbisNpClientSecret
  scope : Ptr StdString
  deriving DecidableEq

structure OrbisNpAuthGetIdTokenParameterA where
  size : UInt64
  userId : Int32
  clientId : Ptr OrbisNpClientId
  clientSecret : Ptr OrbisNpClientSecret
  scope : Ptr StdString
  deriving DecidableEq

def sizeofPtr : UInt64 := 8

def sizeofCreateAsyncRequestParameter : UInt64 := 8 + 8 + 4 + 4

def sizeofGetAuthorizationCodeParameter : UInt64 := 8 + 3 * sizeofPtr

def sizeofGetAuthorizationCodeParameterA : UInt64 := 8 + 4 + 4 + 2 * sizeofPtr

def sizeofGetIdTokenParameter : UInt64 := 8 + 4 * sizeofPtr

def sizeofGetIdTokenParameterA : UInt64 := 8 + 4 + 4 + 3 * sizeofPtr

/-- `ORBIS_NP_AUTH_REQUEST_LIMIT`. -/
def requestLimit : Int := 0x10

/-- `ORBIS_NP_AUTH_REQUEST_ID_OFFSET`. -/
def requestIdOffset : Int32 := 0x10000000

/-- What a call reads outside the file. -/
structure Env where
  /-- `Config::getNetworkingConfig().mode` -/
  networkingMode : Networking.Mode
  /-- the bytes of `bluesphere.txt`, if it can be opened -/
  tokenFile : Option StdString
  /-- the status and the user id of `sceUserServiceGetInitialUser` -/
  initialUser : Int32 × Int32

/-- What a call wrote through its output pointers. -/
structure Writes where
  authCode : Option OrbisNpAuthorizationCode := none
  issuerId : Option Int32 := none
  token : Option OrbisNpIdToken := none
  result : Option OrbisCode := none
  deriving DecidableEq

/-- What a call gives back to the guest. -/
structure Reply where
  code : OrbisCode
  writes : Writes := {}
  deriving DecidableEq

/-! ### Creating a request -/

/-- `g_active_auth_requests == ORBIS_NP_AUTH_REQUEST_LIMIT`. -/
def limitReached (globals : Globals) : Bool := globals.gActiveAuthRequests == requestLimit

/-- The `while` loop: the first slot without a request becomes `Ready`. -/
def createLoop (async : Bool) : List NpAuthRequest → Nat × List NpAuthRequest
  | [] => (0, [])
  | request :: rest =>
      if request.state = .none then (0, { request with state := .ready, async } :: rest)
      else
        let (reqIndex, rest) := createLoop async rest
        (reqIndex + 1, request :: rest)

/-- `req_index + ORBIS_NP_AUTH_REQUEST_ID_OFFSET + 1`. The index has been counted up in an `s32`; that
and the two sums may overflow. -/
def requestId (reqIndex : Nat) : Except Fault Int32 := do
  let reqIndex ← checkedS32 reqIndex
  let offset ← checkedS32 (reqIndex + requestIdOffset.toInt)
  let reqId ← checkedS32 (offset + 1)
  return Int32.ofInt reqId

/-- `CreateNpAuthRequest` from the lock on. -/
def createSection (globals : Globals) (async : Bool) : Except Fault (Int32 × Globals) := do
  let (reqIndex, requests) := createLoop async globals.gAuthRequests
  let requests :=
    if reqIndex = requests.length then requests ++ [⟨.ready, async, .ok⟩] else requests
  let active ← checkedS32 (globals.gActiveAuthRequests + 1)
  let reqId ← requestId reqIndex
  return (reqId, { globals with gActiveAuthRequests := active, gAuthRequests := requests })

/-- `CreateNpAuthRequest` without another thread between the read and the lock. -/
def createNpAuthRequest (globals : Globals) (async : Bool) :
    Except Fault (Except OrbisCode Int32 × Globals) :=
  if limitReached globals then .ok (.error .requestMax, globals)
  else do
    let (reqId, globals) ← createSection globals async
    return (.ok reqId, globals)

/-- The entry points that create a request. -/
inductive CreateEntry
  | createRequest
  | createAsyncRequest (param : Ptr OrbisNpAuthCreateAsyncRequestParameter)
  deriving DecidableEq

/-- Their argument checks: the `async` they pass to `CreateNpAuthRequest`. -/
def CreateEntry.check : CreateEntry → Except OrbisCode Bool
  | .createRequest => .ok false
  | .createAsyncRequest none => .error .invalidArgument
  | .createAsyncRequest (some param) =>
      if param.size ≠ sizeofCreateAsyncRequestParameter then .error .invalidSize else .ok true

def sceNpAuthCreateRequest (globals : Globals) :
    Except Fault (Except OrbisCode Int32 × Globals) :=
  createNpAuthRequest globals false

def sceNpAuthCreateAsyncRequest (globals : Globals)
    (param : Ptr OrbisNpAuthCreateAsyncRequestParameter) :
    Except Fault (Except OrbisCode Int32 × Globals) :=
  match (CreateEntry.createAsyncRequest param).check with
  | .error code => .ok (.error code, globals)
  | .ok async => createNpAuthRequest globals async

def CreateEntry.run (globals : Globals) :
    CreateEntry → Except Fault (Except OrbisCode Int32 × Globals)
  | .createRequest => sceNpAuthCreateRequest globals
  | .createAsyncRequest param => sceNpAuthCreateAsyncRequest globals param

/-! ### Finding a request -/

/-- `req_id - ORBIS_NP_AUTH_REQUEST_ID_OFFSET - 1`, wrapping. -/
def requestIndex (reqId : Int32) : Int32 := reqId - requestIdOffset - 1

/-- The lookup every operation starts with: the index and the request, unless it is not found. -/
def findRequest (globals : Globals) (reqId : Int32) : Except Fault (Option (Nat × NpAuthRequest)) :=
  let reqIndex := asSize (requestIndex reqId)
  if globals.gActiveAuthRequests = 0 ∨ globals.gAuthRequests.length ≤ reqIndex then .ok none
  else
    match globals.gAuthRequests[reqIndex]? with
    | none => .error .outOfBounds
    | some request => .ok (if request.state = .none then none else some (reqIndex, request))

/-- `g_auth_requests[req_index] = request`. -/
def Globals.setRequest (globals : Globals) (reqIndex : Nat) (request : NpAuthRequest) : Globals :=
  { globals with gAuthRequests := globals.gAuthRequests.set reqIndex request }

/-! ### Getting a token -/

/-- The line of the token file that replaces the token of a GTA V client. -/
def spoofedToken (env : Env) (clientId : OrbisNpClientId) : Option StdString :=
  if env.networkingMode = .unofficialServer ∧
      contains (cString clientId.data) (ascii "gtav") = true then
    let line := match env.tokenFile with
      | none => []
      | some bytes => getline bytes
    if line.isEmpty then none else some line
  else none

/-- What a token array holds after a successful Get. -/
def fillToken (env : Env) (clientId : OrbisNpClientId) (data : StdString) : StdString :=
  match spoofedToken env clientId with
  | none => zeroed data
  | some token => (strncpy (zeroed data) token (data.length - 1)).set (data.length - 1) 0

/-- What both Get functions do to the request they found; `deliver` writes the output buffers. -/
def processRequest (signedIn : Bool) (deliver : Except Fault Writes) (request : NpAuthRequest) :
    Except Fault (Reply × NpAuthRequest) :=
  match request.state with
  | .complete => .ok (⟨.invalidArgument, {}⟩, { request with result := .invalidArgument })
  | .aborted => .ok (⟨.aborted, {}⟩, { request with result := .aborted })
  | _ =>
      if !signedIn then
        .ok (⟨if request.async then .ok else .signedOut, {}⟩,
          { request with state := .complete, result := .signedOut })
      else do
        let writes ← deliver
        return (⟨.ok, writes⟩, { request with state := .complete })

/-- Both Get functions from the lock on. -/
def getSection (globals : Globals) (reqId : Int32) (deliver : Except Fault Writes) :
    Except Fault (Reply × Globals) := do
  match ← findRequest globals reqId with
  | none => return (⟨.requestNotFound, {}⟩, globals)
  | some (reqIndex, request) =>
      let (reply, request) ← processRequest globals.gSignedIn deliver request
      return (reply, globals.setRequest reqIndex request)

/-- `*auth_code` and `*issuer_id` on success. -/
def deliverCode (env : Env) (clientId : OrbisNpClientId) (authCode : OrbisNpAuthorizationCode)
    (issuerId : Ptr Int32) : Except Fault Writes :=
  match issuerId with
  | none => .error .nullDereference
  | some _ => .ok { authCode := some ⟨fillToken env clientId authCode.data⟩, issuerId := some 0 }

/-- `*token` on success. -/
def deliverToken (env : Env) (clientId : OrbisNpClientId) (token : OrbisNpIdToken) :
    Except Fault Writes :=
  .ok { token := some ⟨fillToken env clientId token.data⟩ }

def getAuthorizationCode (env : Env) (globals : Globals) (reqId : Int32)
    (param : Ptr OrbisNpAuthGetAuthorizationCodeParameterA) (_flag : Int32)
    (authCode : Ptr OrbisNpAuthorizationCode) (issuerId : Ptr Int32) :
    Except Fault (Reply × Globals) :=
  match param, authCode with
  | some param, some authCode =>
      if param.size ≠ sizeofGetAuthorizationCodeParameter then .ok (⟨.invalidSize, {}⟩, globals)
      else
        match decide (param.userId = -1), param.clientId, param.scope with
        | false, some clientId, some _ =>
            getSection globals reqId (deliverCode env clientId authCode issuerId)
        | _, _, _ => .ok (⟨.invalidArgument, {}⟩, globals)
  | _, _ => .ok (⟨.invalidArgument, {}⟩, globals)

def getIdToken (env : Env) (globals : Globals) (reqId : Int32)
    (param : Ptr OrbisNpAuthGetIdTokenParameterA) (_flag : Int32) (token : Ptr OrbisNpIdToken) :
    Except Fault (Reply × Globals) :=
  match param, token with
  | some param, some token =>
      if param.size ≠ sizeofGetIdTokenParameterA then .ok (⟨.invalidSize, {}⟩, globals)
      else
        match decide (param.userId = -1), param.clientId, param.clientSecret, param.scope with
        | false, some clientId, some _, some _ =>
            getSection globals reqId (deliverToken env clientId token)
        | _, _, _, _ => .ok (⟨.invalidArgument, {}⟩, globals)
  | _, _ => .ok (⟨.invalidArgument, {}⟩, globals)

/-- `ASSERT(UserService::sceUserServiceGetInitialUser(&user_id) == 0)`. -/
def Env.getInitialUser (env : Env) : Except Fault Int32 :=
  if env.initialUser.1 = 0 then .ok env.initialUser.2 else .error .assertionFailed

def sceNpAuthGetAuthorizationCode (env : Env) (globals : Globals) (reqId : Int32)
    (param : Ptr OrbisNpAuthGetAuthorizationCodeParameter)
    (authCode : Ptr OrbisNpAuthorizationCode) (issuerId : Ptr Int32) :
    Except Fault (Reply × Globals) :=
  match param, authCode with
  | some param, some authCode =>
      if param.size ≠ sizeofGetAuthorizationCodeParameter then .ok (⟨.invalidSize, {}⟩, globals)
      else if param.onlineId = none ∨ param.clientId = none ∨ param.scope = none then
        .ok (⟨.invalidArgument, {}⟩, globals)
      else if !globals.gSignedIn then .ok (⟨.userNotFound, {}⟩, globals)
      else do
        let userId ← env.getInitialUser
        getAuthorizationCode env globals reqId
          (some ⟨sizeofGetAuthorizationCodeParameterA, userId, param.clientId, param.scope⟩) 0
          (some authCode) issuerId
  | _, _ => .ok (⟨.invalidArgument, {}⟩, globals)

def sceNpAuthGetAuthorizationCodeA (env : Env) (globals : Globals) (reqId : Int32)
    (param : Ptr OrbisNpAuthGetAuthorizationCodeParameterA)
    (authCode : Ptr OrbisNpAuthorizationCode) (issuerId : Ptr Int32) :
    Except Fault (Reply × Globals) :=
  getAuthorizationCode env globals reqId param 0 authCode issuerId

def sceNpAuthGetAuthorizationCodeV3 (env : Env) (globals : Globals) (reqId : Int32)
    (param : Ptr OrbisNpAuthGetAuthorizationCodeParameterA)
    (authCode : Ptr OrbisNpAuthorizationCode) (issuerId : Ptr Int32) :
    Except Fault (Reply × Globals) :=
  getAuthorizationCode env globals reqId param 1 authCode issuerId

def sceNpAuthGetIdToken (env : Env) (globals : Globals) (reqId : Int32)
    (param : Ptr OrbisNpAuthGetIdTokenParameter) (token : Ptr OrbisNpIdToken) :
    Except Fault (Reply × Globals) :=
  match param, token with
  | some param, some token =>
      if param.size ≠ sizeofGetIdTokenParameter then .ok (⟨.invalidSize, {}⟩, globals)
      else if param.onlineId = none ∨ param.clientId = none ∨ param.clientSecret = none ∨
          param.scope = none then
        .ok (⟨.invalidArgument, {}⟩, globals)
      else if !globals.gSignedIn then .ok (⟨.userNotFound, {}⟩, globals)
      else do
        let userId ← env.getInitialUser
        getIdToken env globals reqId
          (some ⟨sizeofGetIdTokenParameterA, userId, param.clientId, param.clientSecret,
            param.scope⟩) 0 (some token)
  | _, _ => .ok (⟨.invalidArgument, {}⟩, globals)

def sceNpAuthGetIdTokenA (env : Env) (globals : Globals) (reqId : Int32)
    (param : Ptr OrbisNpAuthGetIdTokenParameterA) (token : Ptr OrbisNpIdToken) :
    Except Fault (Reply × Globals) :=
  getIdToken env globals reqId param 0 token

def sceNpAuthGetIdTokenV3 (env : Env) (globals : Globals) (reqId : Int32)
    (param : Ptr OrbisNpAuthGetIdTokenParameterA) (token : Ptr OrbisNpIdToken) :
    Except Fault (Reply × Globals) :=
  getIdToken env globals reqId param 1 token

/-! ### The other operations on a request -/

/-- A stub. -/
def sceNpAuthSetTimeout (globals : Globals) (_reqId _resolveRetry : Int32)
    (_resolveTimeout _connTimeout _sendTimeout _recvTimeout : UInt32) :
    Except Fault (Reply × Globals) :=
  .ok (⟨.ok, {}⟩, globals)

def sceNpAuthAbortRequest (globals : Globals) (reqId : Int32) : Except Fault (Reply × Globals) := do
  match ← findRequest globals reqId with
  | none => return (⟨.requestNotFound, {}⟩, globals)
  | some (reqIndex, request) =>
      if request.state = .complete then return (⟨.ok, {}⟩, globals)
      else return (⟨.ok, {}⟩, globals.setRequest reqIndex { request with state := .aborted })

/-- The body of `sceNpAuthWaitAsync` and of `sceNpAuthPollAsync`. -/
def reportResult (globals : Globals) (reqId : Int32) (result : Ptr Int32) :
    Except Fault (Reply × Globals) :=
  match result with
  | none => .ok (⟨.invalidArgument, {}⟩, globals)
  | some _ => do
      match ← findRequest globals reqId with
      | none => return (⟨.requestNotFound, {}⟩, globals)
      | some (_, request) =>
          if request.async = false ∨ request.state = .ready then return (⟨.invalidId, {}⟩, globals)
          else return (⟨.ok, { result := some request.result }⟩, globals)

def sceNpAuthWaitAsync (globals : Globals) (reqId : Int32) (result : Ptr Int32) :
    Except Fault (Reply × Globals) :=
  reportResult globals reqId result

def sceNpAuthPollAsync (globals : Globals) (reqId : Int32) (result : Ptr Int32) :
    Except Fault (Reply × Globals) :=
  reportResult globals reqId result

def sceNpAuthDeleteRequest (globals : Globals) (reqId : Int32) :
    Except Fault (Reply × Globals) := do
  match ← findRequest globals reqId with
  | none => return (⟨.requestNotFound, {}⟩, globals)
  | some (reqIndex, request) =>
      let active ← checkedS32 (globals.gActiveAuthRequests - 1)
      return (⟨.ok, {}⟩, { globals with gActiveAuthRequests := active }.setRequest reqIndex
        { request with state := .none })

/-- What `RegisterLib` does to the globals. -/
def registerLib (globals : Globals) (psnSignedIn : Bool) : Globals :=
  { globals with gSignedIn := psnSignedIn }

/-- The entry points that are given a request id, with their other arguments. -/
inductive Entry
  | getAuthorizationCode (param : Ptr OrbisNpAuthGetAuthorizationCodeParameter)
      (authCode : Ptr OrbisNpAuthorizationCode) (issuerId : Ptr Int32)
  | getAuthorizationCodeA (param : Ptr OrbisNpAuthGetAuthorizationCodeParameterA)
      (authCode : Ptr OrbisNpAuthorizationCode) (issuerId : Ptr Int32)
  | getAuthorizationCodeV3 (param : Ptr OrbisNpAuthGetAuthorizationCodeParameterA)
      (authCode : Ptr OrbisNpAuthorizationCode) (issuerId : Ptr Int32)
  | getIdToken (param : Ptr OrbisNpAuthGetIdTokenParameter) (token : Ptr OrbisNpIdToken)
  | getIdTokenA (param : Ptr OrbisNpAuthGetIdTokenParameterA) (token : Ptr OrbisNpIdToken)
  | getIdTokenV3 (param : Ptr OrbisNpAuthGetIdTokenParameterA) (token : Ptr OrbisNpIdToken)
  | setTimeout (resolveRetry : Int32)
      (resolveTimeout connTimeout sendTimeout recvTimeout : UInt32)
  | abortRequest
  | waitAsync (result : Ptr Int32)
  | pollAsync (result : Ptr Int32)
  | deleteRequest
  deriving DecidableEq

def Entry.run (env : Env) (globals : Globals) (reqId : Int32) :
    Entry → Except Fault (Reply × Globals)
  | .getAuthorizationCode param authCode issuerId =>
      sceNpAuthGetAuthorizationCode env globals reqId param authCode issuerId
  | .getAuthorizationCodeA param authCode issuerId =>
      sceNpAuthGetAuthorizationCodeA env globals reqId param authCode issuerId
  | .getAuthorizationCodeV3 param authCode issuerId =>
      sceNpAuthGetAuthorizationCodeV3 env globals reqId param authCode issuerId
  | .getIdToken param token => sceNpAuthGetIdToken env globals reqId param token
  | .getIdTokenA param token => sceNpAuthGetIdTokenA env globals reqId param token
  | .getIdTokenV3 param token => sceNpAuthGetIdTokenV3 env globals reqId param token
  | .setTimeout resolveRetry resolveTimeout connTimeout sendTimeout recvTimeout =>
      sceNpAuthSetTimeout globals reqId resolveRetry resolveTimeout connTimeout sendTimeout
        recvTimeout
  | .abortRequest => sceNpAuthAbortRequest globals reqId
  | .waitAsync result => sceNpAuthWaitAsync globals reqId result
  | .pollAsync result => sceNpAuthPollAsync globals reqId result
  | .deleteRequest => sceNpAuthDeleteRequest globals reqId

end LayraPS4.NpAuth
