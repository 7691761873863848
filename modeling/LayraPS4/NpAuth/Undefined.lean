/-
**Undefined behaviour that a guest can reach.**

`defined_iff`: over the checked entry points, a call from any reachable state has undefined behaviour
exactly when the index of its id overflows, or when it writes the issuer's id through a null pointer,
the one output pointer whose argument is not checked. A create follows no null pointer and stays inside
the vector; its id overflows, but only with `maxSlots` live requests (`Valid.createSection_faults_iff`).
-/

import LayraPS4.NpAuth.Checked

set_option linter.unusedSectionVars false

namespace LayraPS4.NpAuth

open Cxx Runs

/-! ### Where a call faults -/

/-- The entry points for an authorization code, without a place for the issuer's id. -/
def Entry.nullIssuer : Entry → Bool
  | .getAuthorizationCode _ _ issuerId => issuerId.isNone
  | .getAuthorizationCodeA _ _ issuerId => issuerId.isNone
  | .getAuthorizationCodeV3 _ _ issuerId => issuerId.isNone
  | _ => false

section Faults

variable {env : Env} {signedIn : Bool} {op : RequestOp}

/-- An operation on a live request faults when it delivers and cannot write. -/
theorem act_faults_iff {request : NpAuthRequest} (live : request.live = true) :
    (∃ fault, op.act request = .error fault) ↔
      request.state = .ready ∧ ∃ fault, op = .get true (.error fault) := by
  obtain ⟨state, async, result⟩ := request
  rcases op with ⟨signedIn, deliver⟩ | _ | _
  · rcases state with _ | _ | _ | _
    · cases live
    · rcases signedIn with _ | _
      · simp [RequestOp.act, processRequest]
      · rcases deliver with fault | writes <;>
          simp [RequestOp.act, processRequest, bind, Except.bind, pure, Except.pure]
    · simp [RequestOp.act, processRequest]
    · simp [RequestOp.act, processRequest]
  · simp [RequestOp.act]
  · simp [RequestOp.act]

theorem codeOp_faults_iff {param : Ptr OrbisNpAuthGetAuthorizationCodeParameterA}
    {authCode : Ptr OrbisNpAuthorizationCode} {issuerId : Ptr Int32}
    (asks : codeOp env signedIn param authCode issuerId = some op) :
    (∃ fault, op = .get true (.error fault)) ↔ signedIn = true ∧ issuerId.isNone = true := by
  unfold codeOp at asks
  split at asks
  · split_ifs at asks
    obtain ⟨clientId, _, rfl⟩ := Option.map_eq_some_iff.mp asks
    rcases issuerId with _ | issuerId <;> simp [deliverCode]
  · cases asks

theorem tokenOp_faults {param : Ptr OrbisNpAuthGetIdTokenParameterA} {token : Ptr OrbisNpIdToken}
    (asks : tokenOp env signedIn param token = some op) :
    ¬ ∃ fault, op = .get true (.error fault) := by
  unfold tokenOp at asks
  split at asks
  · split_ifs at asks
    obtain ⟨clientId, _, rfl⟩ := Option.map_eq_some_iff.mp asks
    simp [deliverToken]
  · cases asks

/-- **What a call asks for** cannot be written when the issuer's id has no place. -/
theorem op?_faults_iff {entry : Entry} (asks : entry.op? env signedIn = some op) :
    (∃ fault, op = .get true (.error fault)) ↔ signedIn = true ∧ entry.nullIssuer = true := by
  match entry with
  | .getAuthorizationCode param authCode issuerId =>
      dsimp only [Entry.op?, legacyCodeOp] at asks
      split at asks
      · split_ifs at asks
        exact codeOp_faults_iff asks
      · cases asks
  | .getAuthorizationCodeA param authCode issuerId => exact codeOp_faults_iff asks
  | .getAuthorizationCodeV3 param authCode issuerId => exact codeOp_faults_iff asks
  | .getIdToken param token =>
      dsimp only [Entry.op?, legacyTokenOp] at asks
      split at asks
      · split_ifs at asks
        simpa [Entry.nullIssuer] using tokenOp_faults asks
      · cases asks
  | .getIdTokenA param token => simpa [Entry.nullIssuer] using tokenOp_faults asks
  | .getIdTokenV3 param token => simpa [Entry.nullIssuer] using tokenOp_faults asks
  | .setTimeout _ _ _ _ _ => cases asks
  | .abortRequest =>
      cases asks
      simp [Entry.nullIssuer]
  | .waitAsync (some result) =>
      cases asks
      simp [Entry.nullIssuer]
  | .pollAsync (some result) =>
      cases asks
      simp [Entry.nullIssuer]
  | .deleteRequest => cases asks

/-- A Get delivers where it cannot write. -/
def DeliversToNull (globals : Globals) (env : Env) (reqId : Int32) (entry : Entry) : Prop :=
  entry.nullIssuer = true ∧ (entry.op? env globals.gSignedIn).isSome = true ∧
    globals.gSignedIn = true ∧
    ∃ request, globals.request? reqId = some request ∧ request.state = .ready

/-- **Where a call faults**, without the checks. -/
theorem run_faults_iff {globals : Globals} {reqId : Int32} {entry : Entry} (valid : globals.Valid)
    (status : env.initialUser.1 = 0) :
    (∃ fault, entry.run env globals reqId = .error fault) ↔
      DeliversToNull globals env reqId entry := by
  unfold DeliversToNull
  by_cases delete : entry = .deleteRequest
  · subst delete
    rw [show Entry.deleteRequest.run env globals reqId = _ from
      NpAuth.sceNpAuthDeleteRequest_eq valid reqId]
    simp [Entry.nullIssuer]
  rcases asks : entry.op? env globals.gSignedIn with _ | op
  · rcases @run_of_turnedDown env globals reqId entry asks delete with
      ⟨failed, _⟩ | ⟨_, _, replied, _⟩
    · exact absurd status failed
    · simp [replied]
  rw [run_eq_perform valid asks]
  rcases found : globals.request? reqId with _ | request
  · simp [Globals.perform_of_none found]
  have live := (Globals.request?_eq_some.mp found).2
  have acts := (act_faults_iff live).trans (and_congr_right fun _ => op?_faults_iff asks)
  have performs : (∃ fault, globals.perform reqId op = .error fault) ↔
      ∃ fault, op.act request = .error fault := by
    rcases acted : op.act request with fault | ⟨reply, after⟩
    · simp [Globals.perform_of_fault found acted]
    · simp [Globals.perform_of_act found acted]
  rw [performs, acts]
  simp only [Option.isSome_some, true_and, Option.some.injEq, exists_eq_left']
  constructor
  · rintro ⟨ready, signedIn, null⟩
    exact ⟨null, signedIn, ready⟩
  · rintro ⟨null, signedIn, ready⟩
    exact ⟨ready, signedIn, null⟩

end Faults

/-! ### Undefined behaviour -/

/-- The user service succeeds. -/
def Call.HasUser : Call → Prop
  | .create _ => True
  | .request env _ _ => env.initialUser.1 = 0
  | .registerLib _ => True

/-- **No argument of the call reaches undefined behaviour.** -/
def Call.Defined (globals : Globals) : Call → Prop
  | .create entry =>
      Checked.create globals entry ≠ .error .nullDereference ∧
        Checked.create globals entry ≠ .error .outOfBounds
  | .request env reqId entry => ∀ fault, Checked.run env globals reqId entry ≠ .error fault
  | .registerLib _ => True

/-- The arguments with which a call is defined: an id whose index does not overflow, if it is
computed, and a place for the issuer's id, if it is written. -/
def Call.SafeArguments (globals : Globals) : Call → Prop
  | .create _ => True
  | .request env reqId entry =>
      ((Call.request env reqId entry).passesChecks globals = true → Checked.InRange reqId) ∧
        ¬ DeliversToNull globals env reqId entry
  | .registerLib _ => True

section Undefined

variable {globals : Globals}

/-- A create can only overflow, in the counter or in the id. -/
theorem create_faults {entry : CreateEntry} {fault : Fault}
    (faults : entry.run globals = .error fault) : fault = .signedOverflow := by
  rw [CreateEntry.run_eq] at faults
  rcases checked : entry.check with code | async
  · rw [checked] at faults
    cases faults
  rw [checked] at faults
  dsimp only at faults
  rw [createNpAuthRequest, createSection_eq, checkedS32_bind, requestId_eq] at faults
  split_ifs at faults
  · cases faults
  · cases faults
    rfl
  · cases faults
    rfl

theorem request_defined_iff (valid : globals.Valid) {env : Env} {reqId : Int32} {entry : Entry}
    (status : env.initialUser.1 = 0) :
    (Call.request env reqId entry).Defined globals ↔
      (Call.request env reqId entry).SafeArguments globals := by
  have faults := @run_faults_iff env globals reqId entry valid status
  dsimp only [Call.Defined, Call.SafeArguments]
  rw [Checked.run_eq valid, ← faults, not_exists]
  unfold Checked.decoding
  by_cases overflows : (Call.request env reqId entry).passesChecks globals = true ∧
    ¬ Checked.InRange reqId
  · rw [if_pos overflows]
    exact ⟨fun defined => absurd rfl (defined .signedOverflow),
      fun safe => absurd (safe.1 overflows.1) overflows.2⟩
  · rw [if_neg overflows]
    refine ⟨fun defined => ⟨fun passes => ?_, defined⟩, fun safe => safe.2⟩
    exact Classical.byContradiction fun outside => overflows ⟨passes, outside⟩

/-- **Undefined behaviour.** At every reachable state, and with a user service that succeeds, a call
has undefined behaviour exactly when it computes the index of an id below `-0x6fffffff`, or writes
the issuer's id through a null pointer. -/
theorem defined_iff {Thread : Type} [DecidableEq Thread] {history : ThreadHistory Thread}
    {process : Process Thread} (run : (threads Thread).Run history process) {call : Call}
    (hasUser : call.HasUser) :
    call.Defined process.globals ↔ call.SafeArguments process.globals := by
  match call with
  | .create entry =>
      refine iff_of_true ?_ trivial
      show Checked.create _ _ ≠ _ ∧ Checked.create _ _ ≠ _
      rw [Checked.create_eq]
      constructor
      · exact fun faults => nomatch create_faults faults
      · exact fun faults => nomatch create_faults faults
  | .request env reqId entry => exact request_defined_iff (reachable_valid run) hasUser
  | .registerLib psnSignedIn => exact Iff.rfl

end Undefined

section Session

/-- A Get for an authorization code without a place for the issuer's id. -/
def getCodeOnly : Entry :=
  .getAuthorizationCodeA (some ⟨sizeofGetAuthorizationCodeParameterA, 1, some ⟨[]⟩, some []⟩)
    (some ⟨[1, 1, 1, 1]⟩) none

/-- Signed in, the null pointer is followed; and the smallest id overflows. -/
theorem null_issuer_followed :
    ∃ history process, (threads Nat).Run history process ∧
      Checked.run offline process.globals 0x10000001 getCodeOnly = .error .nullDereference ∧
      Checked.run offline process.globals (-0x80000000) .abortRequest = .error .signedOverflow ∧
      (Call.request offline 0x10000001 getCodeOnly).HasUser ∧
      ¬ (Call.request offline 0x10000001 getCodeOnly).Defined process.globals ∧
      ¬ (Call.request offline (-0x80000000) .abortRequest).Defined process.globals := by
  have run : (threads Nat).Run _ _ :=
    .of_exec (show (threads Nat).start {} from rfl) (.registerLib true :: createSync 0) rfl
  exact ⟨_, _, run, rfl, rfl, rfl, fun defined => defined _ rfl, fun defined => defined _ rfl⟩

/-- With a place for it the call is defined. -/
theorem defined_iff_session :
    (Call.request offline 0x10000001 getCode).Defined ⟨true, 1, [⟨.ready, false, .ok⟩]⟩ ↔
      (Call.request offline 0x10000001 getCode).SafeArguments
        ⟨true, 1, [⟨.ready, false, .ok⟩]⟩ := by
  have run : (threads Nat).Run _ _ :=
    .of_exec (show (threads Nat).start {} from rfl) (.registerLib true :: createSync 0) rfl
  have user : (Call.request offline 0x10000001 getCode).HasUser := rfl
  exact defined_iff run user

end Session

end LayraPS4.NpAuth
