/-
**The six token entry points.**

All six come down to one operation on the request, which differs in what it writes
(`TokenCall.asks`). So they drive the table alike (`token_calls_agree`), except that signed out the
two that work out the user id themselves find no user.

`token_delivered`: what they write. The array that gets the token is set to zero first, and the line
of the token file is cut so that a NUL stays, so that nothing depends on what the array held.
-/

import LayraPS4.NpAuth.Handles

set_option linter.unusedSectionVars false

namespace LayraPS4.NpAuth

open Cxx Runs

/-! ### One operation -/

/-- `sceUserServiceGetInitialUser` gives a user. -/
structure Env.HasUser (env : Env) : Prop where
  status : env.initialUser.1 = 0
  user : env.initialUser.2 ≠ -1

/-- A call of a token entry point with arguments that pass its checks. `legacy` are the entry points
that work out the user id themselves. -/
inductive TokenCall : (legacy : Bool) → Entry → Prop
  | code {param : OrbisNpAuthGetAuthorizationCodeParameter} {authCode : OrbisNpAuthorizationCode}
      {issuerId : Int32} : param.size = sizeofGetAuthorizationCodeParameter →
      param.onlineId ≠ none → param.clientId ≠ none → param.scope ≠ none →
      TokenCall true (.getAuthorizationCode (some param) (some authCode) (some issuerId))
  | codeA {param : OrbisNpAuthGetAuthorizationCodeParameterA}
      {authCode : OrbisNpAuthorizationCode} {issuerId : Int32} :
      param.size = sizeofGetAuthorizationCodeParameterA → param.userId ≠ -1 →
      param.clientId ≠ none → param.scope ≠ none →
      TokenCall false (.getAuthorizationCodeA (some param) (some authCode) (some issuerId))
  | codeV3 {param : OrbisNpAuthGetAuthorizationCodeParameterA}
      {authCode : OrbisNpAuthorizationCode} {issuerId : Int32} :
      param.size = sizeofGetAuthorizationCodeParameterA → param.userId ≠ -1 →
      param.clientId ≠ none → param.scope ≠ none →
      TokenCall false (.getAuthorizationCodeV3 (some param) (some authCode) (some issuerId))
  | token {param : OrbisNpAuthGetIdTokenParameter} {token : OrbisNpIdToken} :
      param.size = sizeofGetIdTokenParameter → param.onlineId ≠ none → param.clientId ≠ none →
      param.clientSecret ≠ none → param.scope ≠ none →
      TokenCall true (.getIdToken (some param) (some token))
  | tokenA {param : OrbisNpAuthGetIdTokenParameterA} {token : OrbisNpIdToken} :
      param.size = sizeofGetIdTokenParameterA → param.userId ≠ -1 → param.clientId ≠ none →
      param.clientSecret ≠ none → param.scope ≠ none →
      TokenCall false (.getIdTokenA (some param) (some token))
  | tokenV3 {param : OrbisNpAuthGetIdTokenParameterA} {token : OrbisNpIdToken} :
      param.size = sizeofGetIdTokenParameterA → param.userId ≠ -1 → param.clientId ≠ none →
      param.clientSecret ≠ none → param.scope ≠ none →
      TokenCall false (.getIdTokenV3 (some param) (some token))

section Asks

variable {env : Env} {signedIn legacy : Bool} {entry : Entry}

theorem Env.HasUser.get (hasUser : env.HasUser) : env.getInitialUser = .ok env.initialUser.2 :=
  if_pos hasUser.status

/-- Arguments that pass the checks of `GetAuthorizationCode`. -/
theorem codeOp_asks {param : OrbisNpAuthGetAuthorizationCodeParameterA}
    {authCode : OrbisNpAuthorizationCode} {issuerId : Int32}
    (sized : param.size = sizeofGetAuthorizationCodeParameter) (user : param.userId ≠ -1)
    (client : param.clientId ≠ none) (scope : param.scope ≠ none) :
    ∃ writes, codeOp env signedIn (some param) (some authCode) (some issuerId) =
      some (.get signedIn (.ok writes)) := by
  obtain ⟨clientId, found⟩ := Option.ne_none_iff_exists'.mp client
  unfold codeOp
  dsimp only
  rw [if_pos ⟨sized, user, scope⟩, found]
  exact ⟨_, rfl⟩

/-- Arguments that pass the checks of `GetIdToken`. -/
theorem tokenOp_asks {param : OrbisNpAuthGetIdTokenParameterA} {token : OrbisNpIdToken}
    (sized : param.size = sizeofGetIdTokenParameterA) (user : param.userId ≠ -1)
    (client : param.clientId ≠ none) (secret : param.clientSecret ≠ none)
    (scope : param.scope ≠ none) :
    ∃ writes, tokenOp env signedIn (some param) (some token) =
      some (.get signedIn (.ok writes)) := by
  obtain ⟨clientId, found⟩ := Option.ne_none_iff_exists'.mp client
  unfold tokenOp
  dsimp only
  rw [if_pos ⟨sized, user, secret, scope⟩, found]
  exact ⟨_, rfl⟩

/-- **A token entry point** asks for one operation, signed in or not; the legacy ones only if signed
in. -/
theorem TokenCall.asks (call : TokenCall legacy entry) (hasUser : env.HasUser)
    (goesOn : legacy = true → signedIn = true) :
    ∃ writes, entry.op? env signedIn = some (.get signedIn (.ok writes)) := by
  cases call with
  | code sized online client scope =>
      obtain rfl := goesOn rfl
      simp only [Entry.op?, legacyCodeOp, hasUser.get]
      rw [if_pos ⟨trivial, sized, online⟩]
      exact codeOp_asks rfl hasUser.user client scope
  | codeA sized user client scope => exact codeOp_asks sized user client scope
  | codeV3 sized user client scope => exact codeOp_asks sized user client scope
  | token sized online client secret scope =>
      obtain rfl := goesOn rfl
      simp only [Entry.op?, legacyTokenOp, hasUser.get]
      rw [if_pos ⟨trivial, sized, online⟩]
      exact tokenOp_asks rfl hasUser.user client secret scope
  | tokenA sized user client secret scope => exact tokenOp_asks sized user client secret scope
  | tokenV3 sized user client secret scope => exact tokenOp_asks sized user client secret scope

end Asks

/-! ### The entry points agree -/

section Agree

variable {globals : Globals} {reqId : Int32} {signedIn : Bool}

/-- **A Get** does the same to the table whatever it writes. -/
theorem perform_get (globals : Globals) (reqId : Int32) (signedIn : Bool) (writes writes' : Writes) :
    ∃ code next written written',
      globals.perform reqId (.get signedIn (.ok writes)) = .ok (⟨code, written⟩, next) ∧
        globals.perform reqId (.get signedIn (.ok writes')) = .ok (⟨code, written'⟩, next) ∧
        code ≠ .invalidSize ∧
        (code = .invalidArgument ↔
          ∃ request, globals.request? reqId = some request ∧ request.state = .complete) := by
  rcases found : globals.request? reqId with _ | ⟨state, async, result⟩
  · exact ⟨_, _, _, _, Globals.perform_of_none found _, Globals.perform_of_none found _,
      by decide, by simp⟩
  have acts : ∃ code after written written',
      (RequestOp.get signedIn (.ok writes)).act ⟨state, async, result⟩ =
          .ok (⟨code, written⟩, after) ∧
        (RequestOp.get signedIn (.ok writes')).act ⟨state, async, result⟩ =
          .ok (⟨code, written'⟩, after) ∧
        code ≠ .invalidSize ∧ (code = .invalidArgument ↔ state = .complete) := by
    match state, signedIn with
    | .complete, _ => exact ⟨_, _, _, _, rfl, rfl, by decide, by decide⟩
    | .aborted, _ => exact ⟨_, _, _, _, rfl, rfl, by decide, by decide⟩
    | .none, true => exact ⟨_, _, _, _, rfl, rfl, by decide, by decide⟩
    | .ready, true => exact ⟨_, _, _, _, rfl, rfl, by decide, by decide⟩
    | .none, false => exact ⟨_, _, _, _, rfl, rfl, by cases async <;> simp, by cases async <;> simp⟩
    | .ready, false =>
        exact ⟨_, _, _, _, rfl, rfl, by cases async <;> simp, by cases async <;> simp⟩
  obtain ⟨code, after, written, written', acted, acted', sized, invalid⟩ := acts
  exact ⟨code, _, written, written', Globals.perform_of_act found acted,
    Globals.perform_of_act found acted', sized, by simpa using invalid⟩

/-- Signed out, the legacy entry points find no user. -/
theorem TokenCall.signedOut {entry : Entry} (call : TokenCall true entry) (env : Env)
    (out : globals.gSignedIn = false) :
    entry.run env globals reqId = .ok (⟨.userNotFound, {}⟩, globals) := by
  cases call with
  | code sized online client scope =>
      dsimp only [Entry.run, sceNpAuthGetAuthorizationCode]
      rw [if_neg (not_not.mpr sized), if_neg (by simp [online, client, scope]), out]
      rfl
  | token sized online client secret scope =>
      dsimp only [Entry.run, sceNpAuthGetIdToken]
      rw [if_neg (not_not.mpr sized), if_neg (by simp [online, client, secret, scope]), out]
      rfl

/-- Two calls of token entry points drive the table alike, and their parameters are not at fault. -/
def DriveAlike (globals : Globals) (reqId : Int32) (env env' : Env) (entry entry' : Entry) : Prop :=
  ∃ code next written written',
    entry.run env globals reqId = .ok (⟨code, written⟩, next) ∧
      entry'.run env' globals reqId = .ok (⟨code, written'⟩, next) ∧
      code ≠ .invalidSize ∧
      (code = .invalidArgument ↔
        ∃ request, globals.request? reqId = some request ∧ request.state = .complete)

theorem TokenCall.driveAlike (valid : globals.Valid) {legacy legacy' : Bool} {entry entry' : Entry}
    (call : TokenCall legacy entry) (call' : TokenCall legacy' entry') {env env' : Env}
    (hasUser : env.HasUser) (hasUser' : env'.HasUser)
    (goesOn : legacy = true → globals.gSignedIn = true)
    (goesOn' : legacy' = true → globals.gSignedIn = true) :
    DriveAlike globals reqId env env' entry entry' := by
  obtain ⟨writes, asks⟩ := call.asks hasUser goesOn
  obtain ⟨writes', asks'⟩ := call'.asks hasUser' goesOn'
  unfold DriveAlike
  rw [run_eq_perform valid asks, run_eq_perform valid asks']
  exact perform_get globals reqId globals.gSignedIn writes writes'

/-- **The six token entry points agree.** At every reachable state and for every id: signed in, any
two calls with arguments that pass their checks return the same code and leave the same table, and
an invalid argument is a request that is complete. Signed out this holds of the four that are given
the user id, and the other two find no user and change nothing. -/
theorem token_calls_agree {Thread : Type} [DecidableEq Thread] {history : ThreadHistory Thread}
    {process : Process Thread} (run : (threads Thread).Run history process) (reqId : Int32) :
    (process.globals.gSignedIn = true →
      ∀ {legacy legacy' entry entry'}, TokenCall legacy entry → TokenCall legacy' entry' →
        ∀ {env env' : Env}, env.HasUser → env'.HasUser →
          DriveAlike process.globals reqId env env' entry entry') ∧
    (process.globals.gSignedIn = false →
      (∀ {entry entry'}, TokenCall false entry → TokenCall false entry' →
        ∀ {env env' : Env}, env.HasUser → env'.HasUser →
          DriveAlike process.globals reqId env env' entry entry') ∧
      ∀ {entry}, TokenCall true entry → ∀ env,
        entry.run env process.globals reqId = .ok (⟨.userNotFound, {}⟩, process.globals)) := by
  have valid := reachable_valid run
  refine ⟨fun signedIn => ?_, fun signedOut => ⟨?_, ?_⟩⟩
  · intro legacy legacy' entry entry' call call' env env' hasUser hasUser'
    exact call.driveAlike valid call' hasUser hasUser' (fun _ => signedIn) (fun _ => signedIn)
  · intro entry entry' call call' env env' hasUser hasUser'
    exact call.driveAlike valid call' hasUser hasUser' nofun nofun
  · intro entry call env
    exact call.signedOut env signedOut

/-- The legacy form of a Get and a V3 form of the other, on one request. -/
theorem token_calls_agree_session :
    DriveAlike ⟨true, 1, [⟨.ready, true, .ok⟩]⟩ 0x10000001 offline offline
      (.getAuthorizationCode
        (some ⟨sizeofGetAuthorizationCodeParameter, some ⟨[]⟩, some ⟨[]⟩, some []⟩)
        (some ⟨[1, 1, 1, 1]⟩) (some 7))
      (.getIdTokenV3 (some ⟨sizeofGetIdTokenParameterA, 1, some ⟨[]⟩, some ⟨[]⟩, some []⟩)
        (some ⟨[1, 1, 1, 1]⟩)) := by
  have run : (threads Nat).Run _ _ :=
    .of_exec (show (threads Nat).start {} from rfl) (.registerLib true :: createAsync 0) rfl
  have user : offline.HasUser := ⟨rfl, by decide⟩
  have given {α : Type} (value : α) : some value ≠ none := Option.some_ne_none value
  exact (token_calls_agree run 0x10000001).1 rfl (.code rfl (given _) (given _) (given _))
    (.tokenV3 rfl (by decide) (given _) (given _) (given _)) user user

end Agree

/-! ### What is delivered -/

/-- The line a client gets: the first of the token file, for a GTA V client on the unofficial server,
and otherwise none. -/
def lineFor (env : Env) (clientId : OrbisNpClientId) : StdString :=
  if env.networkingMode = .unofficialServer ∧
      contains (cString clientId.data) (ascii "gtav") = true then
    (env.tokenFile.map getline).getD []
  else []

/-- An array with the line up to its first NUL, cut so that a NUL stays, and zeros after it. -/
structure Delivered (line : StdString) (capacity : Nat) (data : StdString) : Prop where
  length : data.length = capacity
  text : data.take (min (capacity - 1) (cString line).length) =
    line.take (min (capacity - 1) (cString line).length)
  zeros : ∀ i, min (capacity - 1) (cString line).length ≤ i → i < capacity → data[i]? = some 0
  terminated : data[capacity - 1]? = some 0

/-- Nothing else of the array is left open. -/
theorem Delivered.unique {line data data' : StdString} {capacity : Nat}
    (delivered : Delivered line capacity data) (delivered' : Delivered line capacity data') :
    data = data' := by
  refine List.ext_getElem? fun i => ?_
  by_cases within : i < capacity
  · by_cases before : i < min (capacity - 1) (cString line).length
    · have text := congrArg (fun bytes => bytes[i]?) (delivered.text.trans delivered'.text.symm)
      rwa [List.getElem?_take_of_lt before, List.getElem?_take_of_lt before] at text
    · rw [delivered.zeros i (by omega) within, delivered'.zeros i (by omega) within]
  · have length := delivered.length
    have length' := delivered'.length
    rw [List.getElem?_eq_none (by omega), List.getElem?_eq_none (by omega)]

section Delivery

variable {env : Env} {clientId : OrbisNpClientId} {data : StdString}

theorem lineFor_eq (env : Env) (clientId : OrbisNpClientId) :
    lineFor env clientId = (spoofedToken env clientId).getD [] := by
  unfold lineFor spoofedToken
  split_ifs with spoofed
  · rcases env.tokenFile with _ | bytes
    · rfl
    · rcases line : getline bytes with _ | ⟨byte, rest⟩ <;> simp [line]
  · rfl

/-- Writing the terminator over a zero. -/
theorem set_terminator {count : Nat} (text : StdString) (more : 0 < count) :
    (text ++ List.replicate count 0).set (text.length + count - 1) 0 =
      text ++ List.replicate count 0 := by
  have bound : text.length + count - 1 < (text ++ List.replicate count (0 : UInt8)).length := by
    rw [List.length_append, List.length_replicate]
    omega
  have zero : (text ++ List.replicate count (0 : UInt8))[text.length + count - 1] = 0 := by
    rw [List.getElem_append_right (by omega), List.getElem_replicate]
  have kept := List.set_getElem_self bound
  rwa [zero] at kept

/-- **What the array holds** depends on its capacity alone. -/
theorem fillToken_eq (env : Env) (clientId : OrbisNpClientId) (room : data ≠ []) :
    fillToken env clientId data =
      (cString (lineFor env clientId)).take (data.length - 1) ++
        List.replicate (data.length - min (data.length - 1)
          (cString (lineFor env clientId)).length) 0 := by
  have positive : 0 < data.length := List.length_pos_iff.mpr room
  rw [lineFor_eq]
  unfold fillToken
  rcases spoofedToken env clientId with _ | line
  · simp [cString, zeroed]
  · dsimp only [Option.getD_some]
    rw [strncpy_zeroed line (by omega)]
    have terminated := set_terminator ((cString line).take (data.length - 1))
      (show 0 < data.length - min (data.length - 1) (cString line).length by omega)
    rwa [List.length_take, show min (data.length - 1) (cString line).length +
      (data.length - min (data.length - 1) (cString line).length) = data.length by omega]
      at terminated

theorem fillToken_delivered (env : Env) (clientId : OrbisNpClientId) (room : data ≠ []) :
    Delivered (lineFor env clientId) data.length (fillToken env clientId data) := by
  have positive : 0 < data.length := List.length_pos_iff.mpr room
  rw [fillToken_eq env clientId room]
  generalize lineFor env clientId = line
  have zeros : ∀ i, min (data.length - 1) (cString line).length ≤ i → i < data.length →
      ((cString line).take (data.length - 1) ++ List.replicate (data.length -
        min (data.length - 1) (cString line).length) 0)[i]? = some 0 := by
    intro i after within
    rw [List.getElem?_append_right (by rwa [List.length_take]), List.length_take,
      List.getElem?_replicate, if_pos (by omega)]
  refine ⟨?_, ?_, zeros, zeros _ (Nat.min_le_left _ _) (by omega)⟩
  · rw [List.length_append, List.length_take, List.length_replicate]
    omega
  · rw [List.take_append_of_le_length (by rw [List.length_take]), List.take_take,
      Nat.min_eq_left (by omega)]
    exact cString_take line (Nat.min_le_right _ _)

/-- A Get on a ready request, signed in. -/
theorem perform_ready {globals : Globals} {reqId : Int32} {request : NpAuthRequest}
    (signedIn : globals.gSignedIn = true) (found : globals.request? reqId = some request)
    (ready : request.state = .ready) (writes : Writes) :
    globals.perform reqId (.get globals.gSignedIn (.ok writes)) =
      .ok (⟨.ok, writes⟩, globals.setRequest (slotOf reqId) { request with state := .complete }) := by
  refine Globals.perform_of_act found ?_
  dsimp only [RequestOp.act, processRequest]
  rw [signedIn, ready]
  rfl

/-- **The token that is delivered.** At every reachable state, with the user signed in and arrays
with room for a NUL, a Get that takes a ready request succeeds and completes it; its array holds the
client's line, cut, and zeros, whatever it held before, and the two Gets deliver the same. -/
theorem token_delivered {Thread : Type} [DecidableEq Thread] {history : ThreadHistory Thread}
    {process : Process Thread} (run : (threads Thread).Run history process) {reqId : Int32}
    {request : NpAuthRequest} (signedIn : process.globals.gSignedIn = true)
    (found : process.globals.request? reqId = some request) (ready : request.state = .ready)
    (env : Env) (flag flag' : Int32) {code : CodeArguments} (room : code.authCode.data ≠ [])
    {token : TokenArguments} (room' : token.token.data ≠ []) :
    ∃ data data' next,
      getAuthorizationCode env process.globals reqId (some code.param) flag (some code.authCode)
          (some code.issuerId) =
        .ok (⟨.ok, { authCode := some ⟨data⟩, issuerId := some 0 }⟩, next) ∧
      getIdToken env process.globals reqId (some token.param) flag' (some token.token) =
        .ok (⟨.ok, { token := some ⟨data'⟩ }⟩, next) ∧
      next = process.globals.setRequest (slotOf reqId) { request with state := .complete } ∧
      Delivered (lineFor env code.clientId) code.authCode.data.length data ∧
      Delivered (lineFor env token.clientId) token.token.data.length data' ∧
      (code.clientId = token.clientId → code.authCode.data.length = token.token.data.length →
        data = data') := by
  have valid := reachable_valid run
  have delivered := fillToken_delivered env code.clientId room
  have delivered' := fillToken_delivered env token.clientId room'
  refine ⟨_, _, _, ?_, ?_, rfl, delivered, delivered', fun sameClient sameLength => ?_⟩
  · show (HandleCall.getAuthorizationCode env code flag).run process.globals reqId = _
    rw [HandleCall.run_eq_perform valid rfl]
    exact perform_ready signedIn found ready _
  · show (HandleCall.getIdToken env token flag').run process.globals reqId = _
    rw [HandleCall.run_eq_perform valid rfl]
    exact perform_ready signedIn found ready _
  · rw [sameLength, sameClient] at delivered
    rw [sameClient]
    exact delivered.unique delivered'

/-- An environment with a line for GTA V clients. -/
def spoofing : Env := ⟨.unofficialServer, some (ascii "token\n"), 0, 1⟩

/-- The arguments of a GTA V client, with an array of four bytes. -/
def gtavCode : CodeArguments where
  userId := 1
  clientId := ⟨ascii "gtav"⟩
  scope := []
  authCode := ⟨[1, 1, 1, 1]⟩
  issuerId := 7
  user := by decide

def gtavToken : TokenArguments where
  userId := 1
  clientId := ⟨ascii "gtav"⟩
  clientSecret := ⟨[]⟩
  scope := []
  token := ⟨[2, 2, 2, 2]⟩
  user := by decide

theorem token_delivered_session :
    ∃ data next,
      getAuthorizationCode spoofing ⟨true, 1, [⟨.ready, true, .ok⟩]⟩ 0x10000001
          (some gtavCode.param) 0 (some gtavCode.authCode) (some gtavCode.issuerId) =
        .ok (⟨.ok, { authCode := some ⟨data⟩, issuerId := some 0 }⟩, next) ∧
      getIdToken spoofing ⟨true, 1, [⟨.ready, true, .ok⟩]⟩ 0x10000001 (some gtavToken.param) 0
          (some gtavToken.token) = .ok (⟨.ok, { token := some ⟨data⟩ }⟩, next) ∧
      Delivered (lineFor spoofing gtavCode.clientId) 4 data := by
  have run : (threads Nat).Run _ _ :=
    .of_exec (show (threads Nat).start {} from rfl) (.registerLib true :: createAsync 0) rfl
  obtain ⟨data, _, next, gotCode, gotToken, _, delivered, _, agree⟩ := token_delivered run
    (show _ = true from rfl)
    (show Globals.request? _ 0x10000001 = some ⟨.ready, true, .ok⟩ from rfl) rfl spoofing 0 0
    (show gtavCode.authCode.data ≠ [] by decide) (show gtavToken.token.data ≠ [] by decide)
  obtain rfl := agree rfl rfl
  exact ⟨data, next, gotCode, gotToken, delivered⟩

end Delivery

end LayraPS4.NpAuth
