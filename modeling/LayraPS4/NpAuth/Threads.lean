/-
**Guest threads that call the NpAuth entry points.**

`threads` is every interleaving of the calls of any number of threads. A call is one atomic step,
save for the two that create a request: `CreateNpAuthRequest` reads the counter before it takes the
mutex, so a create is a step that reads the limit and, if it passes, a later step of the same thread
for the critical section (`createEntry_steps`: taken one right after the other, they are the entry
point). `RegisterLib`, the only writer of `g_signed_in`, may run at any time.

A step that C++ gives no meaning ends the run. With the ids of guests decoded wrapping (for which of
them the code overflows there is said in `NpAuth.Undefined`), the only one among the creates and
deletes is the create that finds `maxSlots` live requests, `0x6fffffff` of them: no `s32` is left for
its id (`Valid.createSection_faults_iff`).

`Steps` lists what a step can do to a process whose globals are valid, which every reachable process
is (`reachable_valid`).
-/

import LayraPS4.Library.Runs
import LayraPS4.NpAuth.Creation
import LayraPS4.NpAuth.Operations

set_option linter.unusedSectionVars false

namespace LayraPS4.NpAuth

open Cxx Runs

/-! ### The system -/

/-- The globals, and the threads whose create has passed the limit: the `async` they ask for. -/
structure Process (Thread : Type) where
  globals : Globals := {}
  creating : Thread → Option Bool := fun _ => none

inductive Action (Thread : Type)
  | call (thread : Thread) (env : Env) (reqId : Int32) (entry : Entry)
  | readLimit (thread : Thread) (entry : CreateEntry)
  | createSection (thread : Thread)
  | registerLib (psnSignedIn : Bool)

inductive Answer
  | returned (reply : Reply)
  | passed
  | created (reqId : Int32)
  | registered
  deriving DecidableEq

/-- Why a step does not happen: no defined behaviour, or the thread is not at this point. -/
inductive Halt
  | fault (fault : Fault)
  | notEnabled
  deriving DecidableEq, Repr

section System

variable {Thread : Type} [DecidableEq Thread]

/-- One atomic step. A thread between its two create steps takes no other. -/
def Process.step (process : Process Thread) :
    Action Thread → Except Halt (Answer × Process Thread)
  | .call thread env reqId entry =>
      if process.creating thread = none then
        match entry.run env process.globals reqId with
        | .error fault => .error (.fault fault)
        | .ok (reply, globals) => .ok (.returned reply, { process with globals })
      else .error .notEnabled
  | .readLimit thread entry =>
      if process.creating thread = none then
        match entry.check with
        | .error code => .ok (.returned ⟨code, {}⟩, process)
        | .ok async =>
            if limitReached process.globals then .ok (.returned ⟨.requestMax, {}⟩, process)
            else .ok (.passed,
              { process with creating := Function.update process.creating thread (some async) })
      else .error .notEnabled
  | .createSection thread =>
      match process.creating thread with
      | none => .error .notEnabled
      | some async =>
          match NpAuth.createSection process.globals async with
          | .error fault => .error (.fault fault)
          | .ok (reqId, globals) =>
              .ok (.created reqId, ⟨globals, Function.update process.creating thread none⟩)
  | .registerLib psnSignedIn =>
      .ok (.registered, { process with globals := NpAuth.registerLib process.globals psnSignedIn })

variable (Thread) in
/-- The process as it is loaded, and its atomic steps. -/
def threads : System (Process Thread) (Action Thread) Answer Halt where
  start process := process = {}
  step := Process.step

/-- The entry points that create a request check their arguments and call `CreateNpAuthRequest`. -/
theorem CreateEntry.run_eq (entry : CreateEntry) (globals : Globals) :
    entry.run globals = match entry.check with
      | .error code => .ok (.error code, globals)
      | .ok async => createNpAuthRequest globals async := by
  cases entry with
  | createRequest => rfl
  | createAsyncRequest param => rfl

/-- **The two steps of a create**, taken one right after the other, are the entry point. -/
theorem createEntry_steps {process : Process Thread} {thread : Thread} {entry : CreateEntry}
    {reqId : Int32} {next : Globals} (idle : process.creating thread = none) :
    entry.run process.globals = .ok (.ok reqId, next) ↔
      ∃ between, process.step (.readLimit thread entry) = .ok (.passed, between) ∧
        between.step (.createSection thread) =
          .ok (.created reqId, { process with globals := next }) := by
  rw [entry.run_eq]
  dsimp only [Process.step]
  rw [if_pos idle]
  cases entry.check with
  | error code => simp
  | ok async =>
      have back : Function.update (Function.update process.creating thread (some async)) thread
          none = process.creating := by
        rw [Function.update_idem, ← idle, Function.update_eq_self]
      dsimp only
      rw [createNpAuthRequest]
      by_cases full : limitReached process.globals = true
      · simp [full]
      · simp only [if_neg full, Except.ok.injEq, Prod.mk.injEq, true_and, exists_eq_left',
          Function.update_self, back]
        cases NpAuth.createSection process.globals async with
        | error fault => simp [bind, Except.bind]
        | ok created => simp [bind, Except.bind, pure, Except.pure]

/-- A step as it was taken. -/
abbrev ThreadStep (Thread : Type) := Transition (Process Thread) (Action Thread) Answer

/-- The steps of a run of the threads, newest first. -/
abbrev ThreadHistory (Thread : Type) := History (Process Thread) (Action Thread) Answer

/-! ### What a step can do -/

/-- The steps of a process with valid globals. -/
inductive Steps : Process Thread → Action Thread → Answer → Process Thread → Prop
  | asked {process : Process Thread} {thread : Thread} {env : Env} {reqId : Int32} {entry : Entry}
      {op : RequestOp} {request after : NpAuthRequest} {reply : Reply} :
      entry.op? env process.globals.gSignedIn = some op →
      process.globals.request? reqId = some request → op.act request = .ok (reply, after) →
      Steps process (.call thread env reqId entry) (.returned reply)
        { process with globals := process.globals.setRequest (slotOf reqId) after }
  | deleted {process : Process Thread} {thread : Thread} {env : Env} {reqId : Int32}
      {request : NpAuthRequest} : process.globals.request? reqId = some request →
      Steps process (.call thread env reqId .deleteRequest) (.returned ⟨.ok, {}⟩)
        { process with globals := process.globals.remove reqId request }
  | notFound {process : Process Thread} {thread : Thread} {env : Env} {reqId : Int32}
      {entry : Entry} : process.globals.request? reqId = none →
      Steps process (.call thread env reqId entry) (.returned ⟨.requestNotFound, {}⟩) process
  | turnedDown {process : Process Thread} {thread : Thread} {env : Env} {reqId : Int32}
      {entry : Entry} {code : OrbisCode} : entry.op? env process.globals.gSignedIn = none →
      entry ≠ .deleteRequest →
      Steps process (.call thread env reqId entry) (.returned ⟨code, {}⟩) process
  | refused {process : Process Thread} {thread : Thread} {entry : CreateEntry} {code : OrbisCode} :
      Steps process (.readLimit thread entry) (.returned ⟨code, {}⟩) process
  | passed {process : Process Thread} {thread : Thread} {entry : CreateEntry}
      {creating : Thread → Option Bool} : limitReached process.globals = false →
      Steps process (.readLimit thread entry) .passed { process with creating }
  | created {process : Process Thread} {thread : Thread} {async : Bool}
      {creating : Thread → Option Bool} : process.creating thread = some async →
      process.globals.freeSlot < maxSlots →
      Steps process (.createSection thread) (.created process.globals.newId)
        ⟨process.globals.afterCreate async, creating⟩
  | registered {process : Process Thread} {psnSignedIn : Bool} :
      Steps process (.registerLib psnSignedIn) .registered
        { process with globals := NpAuth.registerLib process.globals psnSignedIn }

variable {process next : Process Thread} {action : Action Thread} {answer : Answer}

/-- A call answers with a reply. -/
theorem Steps.returned {thread : Thread} {env : Env} {reqId : Int32} {entry : Entry}
    (steps : Steps process (.call thread env reqId entry) answer next) :
    ∃ reply, answer = .returned reply := by
  cases steps <;> exact ⟨_, rfl⟩

/-- A call of an entry point that returned. -/
theorem steps_of_run {thread : Thread} {env : Env} {reqId : Int32} {entry : Entry} {reply : Reply}
    {globals : Globals} (valid : process.globals.Valid)
    (ran : entry.run env process.globals reqId = .ok (reply, globals)) :
    Steps process (.call thread env reqId entry) (.returned reply) { process with globals } := by
  by_cases delete : entry = .deleteRequest
  · subst delete
    rw [show Entry.deleteRequest.run env process.globals reqId = _ from
      sceNpAuthDeleteRequest_eq valid reqId] at ran
    cases found : process.globals.request? reqId with
    | none =>
        rw [found] at ran
        cases ran
        exact .notFound found
    | some request =>
        rw [found] at ran
        cases ran
        exact .deleted found
  · cases asks : entry.op? env process.globals.gSignedIn with
    | none =>
        obtain ⟨code, writes⟩ := reply
        obtain ⟨rfl, writesNothing, _⟩ := run_of_no_op asks delete ran
        rw [show writes = {} from writesNothing]
        exact .turnedDown asks delete
    | some op =>
        rw [run_eq_perform valid asks] at ran
        cases found : process.globals.request? reqId with
        | none =>
            rw [Globals.perform_of_none found] at ran
            cases ran
            exact .notFound found
        | some request =>
            cases acted : op.act request with
            | error fault => cases (Globals.perform_of_fault found acted).symm.trans ran
            | ok result =>
                cases (Globals.perform_of_act found acted).symm.trans ran
                exact .asked asks found acted

/-- **What a step can do.** -/
theorem steps_of_step (valid : process.globals.Valid)
    (taken : process.step action = .ok (answer, next)) : Steps process action answer next := by
  cases action with
  | call thread env reqId entry =>
      dsimp only [Process.step] at taken
      split_ifs at taken
      cases ran : entry.run env process.globals reqId with
      | error fault => simp [ran] at taken
      | ok result =>
          simp only [ran] at taken
          cases taken
          exact steps_of_run valid ran
  | readLimit thread entry =>
      dsimp only [Process.step] at taken
      cases checked : entry.check with
      | error code =>
          simp only [checked] at taken
          split_ifs at taken
          cases taken
          exact .refused
      | ok async =>
          simp only [checked] at taken
          split_ifs at taken with idle full
          · cases taken
            exact .refused
          · cases taken
            exact .passed ((Bool.not_eq_true _).mp full)
  | createSection thread =>
      dsimp only [Process.step] at taken
      cases waiting : process.creating thread with
      | none => simp [waiting] at taken
      | some async =>
          simp only [waiting] at taken
          cases created : NpAuth.createSection process.globals async with
          | error fault => simp [created] at taken
          | ok result =>
              obtain ⟨reqId, globals⟩ := result
              obtain ⟨rfl, rfl, room⟩ := createSection_ok created
              simp only [created] at taken
              obtain ⟨rfl, rfl⟩ := Prod.mk.inj (Except.ok.inj taken)
              exact .created waiting room
  | registerLib psnSignedIn =>
      cases taken
      exact .registered

/-! ### Reachable globals are valid -/

theorem Steps.valid (steps : Steps process action answer next) (valid : process.globals.Valid) :
    next.globals.Valid := by
  cases steps with
  | asked _ found acted =>
      have live := (Globals.request?_eq_some.mp found).2
      exact valid.setRequest found ((RequestOp.acts live acted).live live)
  | deleted found => exact valid.remove found
  | notFound _ => exact valid
  | turnedDown _ _ => exact valid
  | refused => exact valid
  | passed _ => exact valid
  | created _ room => exact valid.afterCreate room _
  | registered => exact ⟨valid.counted, valid.indexed⟩

variable {history : ThreadHistory Thread}

/-- **Every reachable state** has valid globals. -/
theorem reachable_valid (run : (threads Thread).Run history process) : process.globals.Valid := by
  refine run.invariant (fun process => process.globals.Valid) ?_ ?_
  · rintro _ rfl
    exact .empty false
  · intro before action answer after before_valid taken
    exact (steps_of_step before_valid taken).valid before_valid

/-- The steps of a run. -/
theorem steps_of_mem {t : ThreadStep Thread}
    (run : (threads Thread).Run history process) (member : t ∈ history) :
    t.pre.globals.Valid ∧ Steps t.pre t.action t.answer t.post := by
  obtain ⟨⟨older, earlier⟩, taken⟩ := run.of_mem member
  exact ⟨reachable_valid earlier, steps_of_step (reachable_valid earlier) taken⟩

end System

/-! ### Calls that sessions are made of -/

section Sessions

/-- An environment without a networking mode. -/
def offline : Env := ⟨.disabled, none, 0, 1⟩

/-- Create a request, without another thread in between. -/
def createSync (thread : Nat) : List (Action Nat) :=
  [.readLimit thread .createRequest, .createSection thread]

/-- The same for an async request. -/
def createAsync (thread : Nat) : List (Action Nat) :=
  [.readLimit thread (.createAsyncRequest (some ⟨sizeofCreateAsyncRequestParameter⟩)),
    .createSection thread]

/-- A Get for an authorization code, into an array of four bytes. -/
def getCode : Entry :=
  .getAuthorizationCodeA (some ⟨sizeofGetAuthorizationCodeParameterA, 1, some ⟨[]⟩, some []⟩)
    (some ⟨[1, 1, 1, 1]⟩) (some 0)

/-- A Get for an id token, into an array of four bytes. -/
def getToken : Entry :=
  .getIdTokenA (some ⟨sizeofGetIdTokenParameterA, 1, some ⟨[]⟩, some ⟨[]⟩, some []⟩)
    (some ⟨[1, 1, 1, 1]⟩)

end Sessions

end LayraPS4.NpAuth
