/-
**Whole calls.**

A call of the guest from its start to its return, and the runs of one thread that makes such calls
one after the other. A single-threaded run is a run of the threads in which no other thread comes
between the two steps of a create (`singleThread_threads`), so all that holds of the threads holds of
it.

`errors_leave_intact`: what a call that returns an error leaves as it was.
-/

import LayraPS4.NpAuth.Threads

set_option linter.unusedSectionVars false

namespace LayraPS4.NpAuth

open Cxx Runs

/-! ### Calls -/

/-- A call from start to end, or the registration of the library. -/
inductive Call
  | create (entry : CreateEntry)
  | request (env : Env) (reqId : Int32) (entry : Entry)
  | registerLib (psnSignedIn : Bool)

def Call.run (globals : Globals) : Call → Except Fault (Answer × Globals)
  | .create entry => do
      match ← entry.run globals with
      | (.error code, globals) => return (.returned ⟨code, {}⟩, globals)
      | (.ok reqId, globals) => return (.created reqId, globals)
  | .request env reqId entry => do
      let (reply, globals) ← entry.run env globals reqId
      return (.returned reply, globals)
  | .registerLib psnSignedIn => .ok (.registered, NpAuth.registerLib globals psnSignedIn)

/-- One thread. -/
def singleThread : System Globals Call Answer Fault where
  start globals := globals = {}
  step := Call.run

section Inversion

variable {globals next : Globals} {answer : Answer}

/-- A create that returned. -/
theorem Call.run_create {entry : CreateEntry}
    (ran : (Call.create entry).run globals = .ok (answer, next)) :
    (∃ code, entry.run globals = .ok (.error code, next) ∧ answer = .returned ⟨code, {}⟩) ∨
      ∃ reqId, entry.run globals = .ok (.ok reqId, next) ∧ answer = .created reqId := by
  rcases made : entry.run globals with fault | ⟨code | reqId, after⟩
  · simp [run, made, bind, Except.bind] at ran
  · simp only [run, made, bind, Except.bind] at ran
    cases ran
    exact .inl ⟨code, rfl, rfl⟩
  · simp only [run, made, bind, Except.bind] at ran
    cases ran
    exact .inr ⟨reqId, rfl, rfl⟩

/-- A call on a request id that returned. -/
theorem Call.run_request {env : Env} {reqId : Int32} {entry : Entry}
    (ran : (Call.request env reqId entry).run globals = .ok (answer, next)) :
    ∃ reply, entry.run env globals reqId = .ok (reply, next) ∧ answer = .returned reply := by
  rcases made : entry.run env globals reqId with fault | ⟨reply, after⟩
  · simp [run, made, bind, Except.bind] at ran
  · simp only [run, made, bind, Except.bind] at ran
    cases ran
    exact ⟨reply, rfl, rfl⟩

end Inversion

/-- What a create can do. -/
theorem CreateEntry.run_cases {entry : CreateEntry} {globals next : Globals}
    {reply : Except OrbisCode Int32} (ran : entry.run globals = .ok (reply, next)) :
    (∃ code, entry.check = .error code ∧ reply = .error code ∧ next = globals) ∨
      (∃ async, entry.check = .ok async ∧ limitReached globals = true ∧
        reply = .error .requestMax ∧ next = globals) ∨
      ∃ async, entry.check = .ok async ∧ limitReached globals = false ∧
        reply = .ok globals.newId ∧ next = globals.afterCreate async := by
  rw [entry.run_eq] at ran
  rcases checked : entry.check with code | async
  · rw [checked] at ran
    cases ran
    exact .inl ⟨code, rfl, rfl, rfl⟩
  rw [checked] at ran
  dsimp only at ran
  rw [createNpAuthRequest] at ran
  by_cases full : limitReached globals = true
  · rw [if_pos full] at ran
    cases ran
    exact .inr (.inl ⟨async, rfl, full, rfl, rfl⟩)
  · rw [if_neg full] at ran
    rcases created : createSection globals async with fault | ⟨reqId, made⟩
    · rw [created] at ran
      cases ran
    · rw [created] at ran
      cases ran
      obtain ⟨rfl, rfl, _⟩ := createSection_ok created
      exact .inr (.inr ⟨async, rfl, (Bool.not_eq_true _).mp full, rfl, rfl⟩)

/-- A create is turned down with one of two codes. -/
theorem CreateEntry.check_code {entry : CreateEntry} {code : OrbisCode}
    (checked : entry.check = .error code) : code = .invalidArgument ∨ code = .invalidSize := by
  match entry with
  | .createRequest => cases checked
  | .createAsyncRequest none =>
      cases checked
      exact .inl rfl
  | .createAsyncRequest (some param) =>
      rw [check] at checked
      split_ifs at checked
      cases checked
      exact .inr rfl

/-- The process of one thread that is not creating a request. -/
def idle (globals : Globals) : Process Unit := { globals }

/-- The step of a call on a request id. -/
theorem idle_steps {globals next : Globals} {env : Env} {reqId : Int32} {entry : Entry}
    {reply : Reply} (valid : globals.Valid)
    (ran : entry.run env globals reqId = .ok (reply, next)) :
    ∃ after, Steps (idle globals) (.call () env reqId entry) (.returned reply) after ∧
      after.globals = next :=
  ⟨_, @steps_of_run Unit _ (idle globals) () env reqId entry reply next valid ran, rfl⟩

/-- A run of the threads goes on with a step of the process. -/
theorem threads_step {Thread : Type} [DecidableEq Thread] {steps : ThreadHistory Thread}
    {process next : Process Thread} {action : Action Thread} {answer : Answer}
    (earlier : (threads Thread).Run steps process)
    (taken : process.step action = .ok (answer, next)) :
    ∃ steps, (threads Thread).Run steps next :=
  ⟨_, earlier.step taken⟩

/-- **A single-threaded run** is a run of the threads. -/
theorem singleThread_threads {history : History Globals Call Answer} {globals : Globals}
    (run : singleThread.Run history globals) :
    ∃ steps, (threads Unit).Run steps (idle globals) := by
  induction run with
  | start begins =>
      subst begins
      exact ⟨[], .start rfl⟩
  | @step history globals next call answer _ taken ih =>
      obtain ⟨steps, earlier⟩ := ih
      have free : (idle globals).creating () = none := rfl
      match call with
      | .create entry =>
          obtain ⟨code, ran, rfl⟩ | ⟨reqId, ran, rfl⟩ := Call.run_create taken
          · obtain ⟨_, _, _, rfl⟩ | ⟨_, _, _, _, rfl⟩ | ⟨_, _, _, made, _⟩ :=
              CreateEntry.run_cases ran
            · exact ⟨steps, earlier⟩
            · exact ⟨steps, earlier⟩
            · cases made
          · have whole : entry.run (idle globals).globals = .ok (.ok reqId, next) := ran
            obtain ⟨between, first, second⟩ := (createEntry_steps free).mp whole
            obtain ⟨_, passed⟩ := threads_step earlier first
            exact threads_step passed second
      | .request env reqId entry =>
          obtain ⟨reply, ran, rfl⟩ := Call.run_request taken
          have step : (idle globals).step (.call () env reqId entry) =
              .ok (.returned reply, idle next) := by
            dsimp only [Process.step]
            rw [if_pos free, show entry.run env (idle globals).globals reqId = _ from ran]
            rfl
          exact threads_step earlier step
      | .registerLib psnSignedIn =>
          cases taken
          have step : (idle globals).step (.registerLib psnSignedIn) =
              .ok (.registered, idle (NpAuth.registerLib globals psnSignedIn)) := rfl
          exact threads_step earlier step

theorem singleThread_valid {history : History Globals Call Answer} {globals : Globals}
    (run : singleThread.Run history globals) : globals.Valid := by
  obtain ⟨steps, threaded⟩ := singleThread_threads run
  exact reachable_valid threaded

/-! ### What a call that fails leaves behind -/

/-- The argument checks of the call pass. -/
def Call.passesChecks (globals : Globals) : Call → Bool
  | .create entry => entry.check.isOk
  | .request env _ entry => (entry.op? env globals.gSignedIn).isSome || entry = .deleteRequest
  | .registerLib _ => true

/-- The id the call is given. -/
def Call.reqId? : Call → Option Int32
  | .create _ => none
  | .request _ reqId _ => some reqId
  | .registerLib _ => none

/-- The call is on a live request, of which it changes this, and nothing else. -/
def Call.ChangesOnly (call : Call) (globals next : Globals)
    (change : NpAuthRequest → NpAuthRequest) (onState : NpAuthRequestState) : Prop :=
  ∃ reqId request, call.reqId? = some reqId ∧ globals.request? reqId = some request ∧
    request.state = onState ∧ next = globals.setRequest (slotOf reqId) (change request)

/-- **What an error leaves intact.** -/
structure LeavesIntact (call : Call) (globals : Globals) (reply : Reply) (next : Globals) :
    Prop where
  unchanged : reply.code ∈ [.requestNotFound, .invalidSize, .invalidId, .requestMax,
    .userNotFound] → next = globals
  invalid : reply.code = .invalidArgument → call.passesChecks globals = false → next = globals
  completed : reply.code = .invalidArgument → call.passesChecks globals = true →
    call.ChangesOnly globals next (fun request => { request with result := .invalidArgument })
      .complete
  aborted : reply.code = .aborted →
    call.ChangesOnly globals next (fun request => { request with result := .aborted }) .aborted
  signedOut : reply.code = .signedOut → call.ChangesOnly globals next
    (fun request => { request with state := .complete, result := .signedOut }) .ready
  writes : reply.code ≠ .ok → reply.writes = {}

section Frames

variable {call : Call} {globals next : Globals} {reply : Reply}

/-- A call that replies with `ORBIS_OK`. -/
theorem LeavesIntact.of_ok (succeeded : reply.code = .ok) :
    LeavesIntact call globals reply next where
  unchanged listed := by simp [succeeded] at listed
  invalid code := nomatch succeeded.symm.trans code
  completed code := nomatch succeeded.symm.trans code
  aborted code := nomatch succeeded.symm.trans code
  signedOut code := nomatch succeeded.symm.trans code
  writes failed := absurd succeeded failed

/-- A call that is turned down before it touches a request. -/
theorem LeavesIntact.of_unchanged {code : OrbisCode} (notAborted : code ≠ .aborted)
    (notSignedOut : code ≠ .signedOut)
    (checks : code = .invalidArgument → call.passesChecks globals = false) :
    LeavesIntact call globals ⟨code, {}⟩ globals where
  unchanged _ := rfl
  invalid _ _ := rfl
  completed same passes := nomatch (checks same).symm.trans passes
  aborted same := absurd same notAborted
  signedOut same := absurd same notSignedOut
  writes _ := rfl

/-- An operation on a live request. -/
theorem RequestOp.Acts.leavesIntact {op : RequestOp} {reqId : Int32}
    {request after : NpAuthRequest} (acts : op.Acts request reply after)
    (given : call.reqId? = some reqId) (passes : call.passesChecks globals = true)
    (found : globals.request? reqId = some request) :
    LeavesIntact call globals reply (globals.setRequest (slotOf reqId) after) := by
  have live := (Globals.request?_eq_some.mp found).2
  cases acts with
  | getCompleted =>
      exact
        { unchanged := fun listed => by simp at listed
          invalid := fun _ fails => nomatch passes.symm.trans fails
          completed := fun _ _ => ⟨reqId, _, given, found, rfl, rfl⟩
          aborted := fun code => nomatch code
          signedOut := fun code => nomatch code
          writes := fun _ => rfl }
  | getAborted =>
      exact
        { unchanged := fun listed => by simp at listed
          invalid := fun code => nomatch code
          completed := fun code => nomatch code
          aborted := fun _ => ⟨reqId, _, given, found, rfl, rfl⟩
          signedOut := fun code => nomatch code
          writes := fun _ => rfl }
  | @getSignedOut async _ _ =>
      match async with
      | true => exact .of_ok rfl
      | false =>
          exact
            { unchanged := fun listed => by simp at listed
              invalid := fun code => nomatch code
              completed := fun code => nomatch code
              aborted := fun code => nomatch code
              signedOut := fun _ => ⟨reqId, _, given, found, rfl, rfl⟩
              writes := fun _ => rfl }
  | reportRefused _ =>
      rw [Globals.setRequest_self found]
      exact .of_unchanged (by decide) (by decide) fun code => nomatch code
  | getDelivered => exact .of_ok rfl
  | abortCompleted => exact .of_ok rfl
  | abortPending _ => exact .of_ok rfl
  | reported _ _ => exact .of_ok rfl

theorem createEntry_leavesIntact {entry : CreateEntry} {code : OrbisCode}
    (ran : entry.run globals = .ok (.error code, next)) :
    LeavesIntact (.create entry) globals ⟨code, {}⟩ next := by
  obtain ⟨_, checked, refused, rfl⟩ | ⟨_, _, _, refused, rfl⟩ | ⟨_, _, _, made, _⟩ :=
    CreateEntry.run_cases ran
  · cases refused
    have fails : (Call.create entry).passesChecks next = false := by
      rw [Call.passesChecks, checked]
      rfl
    rcases CreateEntry.check_code checked with rfl | rfl <;>
      exact .of_unchanged (by decide) (by decide) fun _ => fails
  · cases refused
    exact .of_unchanged (by decide) (by decide) fun code => nomatch code
  · cases made

theorem request_leavesIntact (valid : globals.Valid) {env : Env} {reqId : Int32} {entry : Entry}
    (ran : entry.run env globals reqId = .ok (reply, next)) :
    LeavesIntact (.request env reqId entry) globals reply next := by
  obtain ⟨after, steps, rfl⟩ := idle_steps valid ran
  cases steps with
  | asked asks found acted =>
      have passes : (Call.request env reqId entry).passesChecks globals = true := by
        rw [Call.passesChecks, show entry.op? env globals.gSignedIn = _ from asks]
        rfl
      have live := (Globals.request?_eq_some.mp found).2
      exact (RequestOp.acts live acted).leavesIntact rfl passes found
  | deleted _ => exact .of_ok rfl
  | notFound _ => exact .of_unchanged (by decide) (by decide) fun code => nomatch code
  | turnedDown asks kept =>
      rcases run_of_turnedDown asks kept with
        ⟨_, fault, faults⟩ | ⟨_, _, replied, notAborted, notSignedOut⟩
      · cases faults.symm.trans ran
      cases replied.symm.trans ran
      refine .of_unchanged notAborted notSignedOut fun _ => ?_
      rw [Call.passesChecks, show entry.op? env globals.gSignedIn = _ from asks]
      simpa using kept

end Frames

/-- **Errors leave the state intact.** At every reachable state and for every call that returns a
code: a code that is not about the state of a request leaves the globals as they were; the others
change the `result` of the request the call is given, and when the user is signed out its state;
and a code that is not `ORBIS_OK` leaves the output buffers alone. -/
theorem errors_leave_intact {Thread : Type} [DecidableEq Thread] {steps : ThreadHistory Thread}
    {process : Process Thread} (run : (threads Thread).Run steps process) {call : Call}
    {reply : Reply} {next : Globals}
    (ran : call.run process.globals = .ok (.returned reply, next)) :
    LeavesIntact call process.globals reply next := by
  match call with
  | .create entry =>
      obtain ⟨code, made, answers⟩ | ⟨reqId, _, answers⟩ := Call.run_create ran
      · cases answers
        exact createEntry_leavesIntact made
      · cases answers
  | .request env reqId entry =>
      obtain ⟨returned, made, answers⟩ := Call.run_request ran
      cases answers
      exact request_leavesIntact (reachable_valid run) made
  | .registerLib psnSignedIn => cases ran

theorem errors_leave_intact_session :
    LeavesIntact (.request offline 0x10000001 getCode)
      { gActiveAuthRequests := 1, gAuthRequests := [⟨.ready, false, .ok⟩] } ⟨.signedOut, {}⟩
      { gActiveAuthRequests := 1, gAuthRequests := [⟨.complete, false, .signedOut⟩] } := by
  have run : (threads Nat).Run _ _ :=
    .of_exec (show (threads Nat).start {} from rfl) (createSync 0) rfl
  exact errors_leave_intact run rfl

end LayraPS4.NpAuth
