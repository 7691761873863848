/-
**What `sceNpAuthWaitAsync` and `sceNpAuthPollAsync` report.**

They report the `result` of the request, which is meant to be the outcome of the most recent Get on
it. Two writes are missing. A Get that completes a request while signed in leaves `result` alone, as
does a create that takes over a slot, so a request may be reported with what the request before it
in the slot left there (`reportsOutcome_iff`). And an abort leaves `result` alone too, so an aborted
request is reported as such once a Get has found it aborted, and before that with whatever `result`
held (`reportsAborted_iff`).

`life_carries` is what the life of a request does to its `result`. Once a result has been reported, the
life of the request has two phases left: `reports_last`.
-/

import LayraPS4.NpAuth.Lifetime

set_option linter.unusedSectionVars false

namespace LayraPS4.NpAuth

open Cxx Runs ObjectTable

variable {Thread : Type} [DecidableEq Thread] {reqId : Int32} {process : Process Thread}

/-- Wait and Poll return `ORBIS_OK` and write this code. -/
def Reports (globals : Globals) (reqId : Int32) (code : OrbisCode) : Prop :=
  ∀ result,
    sceNpAuthWaitAsync globals reqId (some result) =
      .ok (⟨.ok, { result := some code }⟩, globals) ∧
    sceNpAuthPollAsync globals reqId (some result) = .ok (⟨.ok, { result := some code }⟩, globals)

theorem reports_iff {globals : Globals} {request : NpAuthRequest} {code : OrbisCode}
    (valid : globals.Valid) (found : globals.request? reqId = some request)
    (async : request.async = true) (settled : request.state ≠ .ready) :
    Reports globals reqId code ↔ request.result = code := by
  have reported : ∀ result, reportResult globals reqId (some result) =
      .ok (⟨.ok, { result := some request.result }⟩, globals) := by
    intro result
    have acted : RequestOp.act .report request =
        .ok (⟨.ok, { result := some request.result }⟩, request) := by
      simp [RequestOp.act, async, settled]
    rw [reportResult_eq valid, Globals.perform_of_act found acted, Globals.setRequest_self found]
  constructor
  · intro reports
    have same := (reported 0).symm.trans (reports 0).1
    simpa using same
  · rintro rfl result
    exact ⟨reported result, reported result⟩

/-! ### The result over a life -/

section Acts

variable {op : RequestOp} {request after : NpAuthRequest} {reply : Reply}

/-- A request that is still `Ready` is as it was. -/
theorem RequestOp.Acts.ready (acts : op.Acts request reply after) (ready : after.state = .ready) :
    after = request := by
  cases acts with
  | reportRefused _ => rfl
  | reported _ _ => rfl
  | _ => cases ready

/-- Only a Get writes the result. -/
theorem RequestOp.Acts.quiet (acts : op.Acts request reply after)
    (quiet : ∀ signedIn deliver, op ≠ .get signedIn deliver) : after.result = request.result := by
  cases acts with
  | abortCompleted => rfl
  | abortPending _ => rfl
  | reportRefused _ => rfl
  | reported _ _ => rfl
  | _ => exact absurd rfl (quiet _ _)

/-- What a Get makes of a request. -/
theorem RequestOp.Acts.get {signedIn : Bool} {deliver : Except Fault Writes}
    (acts : (RequestOp.get signedIn deliver).Acts request reply after) :
    (request.state = .complete ∧ after.state = .complete ∧ after.result = .invalidArgument) ∨
    (request.state = .aborted ∧ after.state = .aborted ∧ after.result = .aborted) ∨
    (request.state = .ready ∧ signedIn = false ∧ after.state = .complete ∧
      after.result = .signedOut) ∨
    (request.state = .ready ∧ signedIn = true ∧ after.state = .complete ∧
      after.result = request.result) := by
  cases acts <;> simp

end Acts

/-- What a life leaves of the request it started with. -/
structure Carries (reqId : Int32) (born : NpAuthRequest) (life : ThreadHistory Thread)
    (request : NpAuthRequest) : Prop where
  async : request.async = born.async
  ready : request.state = .ready → request = born
  quiet : (∀ t ∈ life, ¬ Gets reqId t) → request.result = born.result
  aborted : born.state = .aborted → request.state = .aborted
  abortedGet : born.state = .aborted → (∃ t ∈ life, Gets reqId t) → request.result = .aborted

section Lifetime

variable {newer older : ThreadHistory Thread} {birth : ThreadStep Thread} {born : NpAuthRequest}

/-- **The result over a life**: it is written by the Gets, and by nothing else. -/
theorem life_carries (run : (threads Thread).Run (newer ++ birth :: older) process)
    (present : birth.post.globals.request? reqId = some born)
    (kept : ∀ t ∈ newer, deletedId t ≠ some reqId) :
    ∃ request, process.globals.request? reqId = some request ∧
      Carries reqId born newer request := by
  refine over_lifetime run present kept (Carries reqId born)
    ⟨rfl, fun _ => rfl, fun _ => rfl, id, fun _ gets => ?_⟩ ?_ ?_
  · obtain ⟨t, member, _⟩ := gets
    cases member
  · intro t later request after op reply carries asks acts _ _
    refine ⟨acts.async.trans carries.async, fun ready => ?_, fun none => ?_,
      acts.aborted ∘ carries.aborted, fun start gets => ?_⟩
    · obtain rfl := acts.ready ready
      exact carries.ready ready
    · rw [List.forall_mem_cons] at none
      rw [acts.quiet fun signedIn deliver get => none.1 ⟨signedIn, deliver, reply, get ▸ asks⟩]
      exact carries.quiet none.2
    · have here := carries.aborted start
      by_cases get : ∃ signedIn deliver, op = .get signedIn deliver
      · obtain ⟨signedIn, deliver, rfl⟩ := get
        rcases acts.get with ⟨state, _⟩ | ⟨_, _, result⟩ | ⟨state, _⟩ | ⟨state, _⟩
        · exact absurd (here.symm.trans state) (by decide)
        · exact result
        · exact absurd (here.symm.trans state) (by decide)
        · exact absurd (here.symm.trans state) (by decide)
      · rw [acts.quiet fun signedIn deliver same => get ⟨signedIn, deliver, same⟩]
        obtain ⟨u, member, gets⟩ := gets
        rcases List.mem_cons.mp member with rfl | member
        · obtain ⟨signedIn, deliver, reply', asks'⟩ := gets
          have same := (asks_iff_move.mp asks).symm.trans (asks_iff_move.mp asks')
          exact absurd ⟨signedIn, deliver, (Move.ask.inj same).2.1⟩ get
        · exact carries.abortedGet start ⟨u, member, gets⟩
  · intro t later request carries ignores _ _ _
    have silent : ¬ Gets reqId t := fun ⟨signedIn, deliver, reply, asks⟩ => ignores _ reply asks
    refine ⟨carries.async, carries.ready, fun none => ?_, carries.aborted, fun start gets => ?_⟩
    · exact carries.quiet (List.forall_mem_cons.mp none).2
    · obtain ⟨u, member, gets⟩ := gets
      rcases List.mem_cons.mp member with rfl | member
      · exact absurd gets silent
      · exact carries.abortedGet start ⟨u, member, gets⟩

/-! ### The outcome of the most recent Get -/

/-- The outcome of a Get, by what it finds. -/
def outcome (reqId : Int32) (t : ThreadStep Thread) : OrbisCode :=
  match stateOf reqId t.pre with
  | some .complete => .invalidArgument
  | some .aborted => .aborted
  | _ => if t.pre.globals.gSignedIn then .ok else .signedOut

/-- What a Get leaves: its outcome, unless it completes the request while signed in. -/
theorem Gets.leaves {t : ThreadStep Thread} (gets : Gets reqId t) (valid : t.pre.globals.Valid)
    (steps : Steps t.pre t.action t.answer t.post) :
    ∃ request after, t.pre.globals.request? reqId = some request ∧
      t.post.globals.request? reqId = some after ∧ after.async = request.async ∧
      (after.state = .complete ∨ after.state = .aborted) ∧
      after.result = if request.state = .ready ∧ t.pre.globals.gSignedIn = true
        then request.result else outcome reqId t := by
  obtain ⟨signedIn, deliver, reply, asks⟩ := gets
  obtain ⟨request, after, found, acts, post⟩ := asks.acts valid steps
  obtain ⟨_, _, thread, env, entry, _, checked⟩ := asks
  obtain rfl : signedIn = t.pre.globals.gSignedIn := Entry.op?_get checked
  refine ⟨request, after, found, post, acts.async, ?_⟩
  rcases acts.get with ⟨state, next, result⟩ | ⟨state, next, result⟩ | ⟨state, out, next, result⟩ |
    ⟨state, signedIn, next, result⟩
  · exact ⟨.inl next, by simp [result, outcome, stateOf, found, state]⟩
  · exact ⟨.inr next, by simp [result, outcome, stateOf, found, state]⟩
  · exact ⟨.inl next, by simp [result, outcome, stateOf, found, state, out]⟩
  · exact ⟨.inl next, by simp [result, state, signedIn]⟩

/-- **Wait and Poll report the most recent Get**, on an async request since its creation, if and
only if that Get did not complete the request while signed in, or the slot the request was created
in held `ORBIS_OK` already. -/
theorem reportsOutcome_iff {later before : ThreadHistory Thread} {last : ThreadStep Thread}
    (run : (threads Thread).Run (later ++ last :: (before ++ birth :: older)) process)
    (created : Creates reqId true birth)
    (kept : ∀ t ∈ later ++ last :: before, deletedId t ≠ some reqId)
    (reached : Gets reqId last) (latest : ∀ t ∈ later, ¬ Gets reqId t) :
    Reports process.globals reqId (outcome reqId last) ↔
      (stateOf reqId last.pre = some .ready → last.pre.globals.gSignedIn = true →
        birth.pre.globals.leftover = .ok) := by
  obtain ⟨earlier, taken, _⟩ := run.split.uncons
  have valid := reachable_valid earlier
  obtain ⟨request, after, found, post, sameAsync, settled, result⟩ :=
    reached.leaves valid (steps_of_step valid taken)
  -- from the creation to the most recent Get
  have present := created.present earlier.split
  obtain ⟨request', found', first⟩ := life_carries earlier present fun t member =>
    kept t (List.mem_append_right _ (List.mem_cons_of_mem _ member))
  obtain rfl := Option.some.inj (found.symm.trans found')
  -- from that Get to now
  have keptLater : ∀ t ∈ later, deletedId t ≠ some reqId := fun t member =>
    kept t (List.mem_append_left _ member)
  obtain ⟨now, here, second⟩ := life_carries run post keptLater
  obtain ⟨now', here', stage⟩ := life_stage run post keptLater
  obtain rfl := Option.some.inj (here.symm.trans here')
  have isAsync : now.async = true := (second.async.trans sameAsync).trans first.async
  have notReady : now.state ≠ .ready := by
    rcases settled with complete | aborted
    · rw [stage.complete complete]
      decide
    · rw [stage.aborted aborted]
      decide
  rw [reports_iff (reachable_valid run) here isAsync notReady, second.quiet latest, result]
  by_cases silent : request.state = .ready ∧ last.pre.globals.gSignedIn = true
  · have isOutcome : outcome reqId last = .ok := by
      simp [outcome, stateOf, found, silent.1, silent.2]
    have isLeftover : request.result = birth.pre.globals.leftover := by
      rw [first.ready silent.1]
      rfl
    rw [if_pos silent, isOutcome, isLeftover]
    simp [stateOf, found, silent.1, silent.2]
  · rw [if_neg silent]
    refine iff_of_true rfl fun ready signedIn => absurd ⟨?_, signedIn⟩ silent
    simpa [stateOf, found] using ready

/-- A second Get fails, the request is deleted, and the next one, completed while signed in, is
reported with that failure. -/
theorem success_reported_as_failure :
    ∃ last before birth older process,
      (threads Nat).Run ([] ++ last :: (before ++ birth :: older)) process ∧
      ((last :: (before ++ birth :: older)).map fun t => t.action).reverse =
        [.registerLib true] ++ createAsync 0 ++ [.call 0 offline 0x10000001 getCode,
          .call 0 offline 0x10000001 getCode, .call 0 offline 0x10000001 .deleteRequest] ++
          createAsync 0 ++ [.call 0 offline 0x10000001 getCode] ∧
      Creates 0x10000001 true birth ∧ Gets 0x10000001 last ∧ outcome 0x10000001 last = .ok ∧
      sceNpAuthWaitAsync process.globals 0x10000001 (some 0) =
        .ok (⟨.ok, { result := some .invalidArgument }⟩, process.globals) ∧
      ¬ Reports process.globals 0x10000001 (outcome 0x10000001 last) := by
  have run : (threads Nat).Run _ _ := .of_exec rfl
    ([.registerLib true] ++ createAsync 0 ++ [.call 0 offline 0x10000001 getCode,
      .call 0 offline 0x10000001 getCode, .call 0 offline 0x10000001 .deleteRequest] ++
      createAsync 0 ++ [.call 0 offline 0x10000001 getCode]) rfl
  refine ⟨_, [], _, [_, _, _, _, _, _, _], _, run, rfl, ⟨rfl, 0, rfl, rfl⟩,
    ⟨true, _, _, by decide, rfl, 0, offline, getCode, rfl, rfl⟩, rfl, rfl, fun reports => ?_⟩
  exact nomatch (reports 0).1

/-- A request in a new slot: the second Get finds it complete, and a third thread aborts it. -/
theorem reportsOutcome_iff_session :
    ∃ later last before birth older process,
      (threads Nat).Run (later ++ last :: (before ++ birth :: older)) process ∧
      ((later ++ last :: (before ++ birth :: older)).map fun t => t.action).reverse =
        [.registerLib true] ++ createAsync 0 ++ [.call 1 offline 0x10000001 getToken,
          .call 2 offline 0x10000001 getCode, .call 3 offline 0x10000001 .abortRequest] ∧
      (Reports process.globals 0x10000001 (outcome 0x10000001 last) ↔
        (stateOf 0x10000001 last.pre = some .ready → last.pre.globals.gSignedIn = true →
          birth.pre.globals.leftover = .ok)) := by
  have taken : (threads Nat).Run _ _ := .of_exec rfl
    ([.registerLib true] ++ createAsync 0 ++ [.call 1 offline 0x10000001 getToken,
      .call 2 offline 0x10000001 getCode, .call 3 offline 0x10000001 .abortRequest]) rfl
  have run : (threads Nat).Run ([_] ++ _ :: ([_] ++ _ :: [_, _])) _ := taken
  refine ⟨_, _, _, _, _, _, run, rfl, ?_⟩
  refine reportsOutcome_iff run ⟨rfl, 0, rfl, rfl⟩ (by decide)
    ⟨true, _, _, by decide, rfl, 2, offline, getCode, rfl, rfl⟩ ?_
  rintro t member ⟨signedIn, deliver, reply, _, _, thread, env, entry, action, asks⟩
  cases List.mem_singleton.mp member
  cases action
  cases asks

/-! ### Reporting an abort -/

/-- **Wait and Poll report an abort** of an async request that was `Ready`, if and only if a Get has
found it aborted since, or its `result` said so before the abort. -/
theorem reportsAborted_iff {abort : ThreadStep Thread} {left : OrbisCode}
    (run : (threads Thread).Run (newer ++ abort :: older) process)
    (aborts : ∃ thread env, abort.action = .call thread env reqId .abortRequest)
    (pending : abort.pre.globals.request? reqId = some ⟨.ready, true, left⟩)
    (kept : ∀ t ∈ newer, deletedId t ≠ some reqId) :
    Reports process.globals reqId .aborted ↔ (∃ t ∈ newer, Gets reqId t) ∨ left = .aborted := by
  obtain ⟨earlier, taken, _⟩ := run.split.uncons
  have valid := reachable_valid earlier
  have abortsReady : AbortsReady reqId abort := ⟨aborts, by rw [stateOf, pending]; rfl⟩
  obtain ⟨request, found, post⟩ := abortsReady.aborted (steps_of_step valid taken) valid
  obtain rfl := Option.some.inj (pending.symm.trans found)
  obtain ⟨now, here, carries⟩ := life_carries run post kept
  have state := carries.aborted rfl
  rw [reports_iff (reachable_valid run) here carries.async (by rw [state]; decide)]
  by_cases gets : ∃ t ∈ newer, Gets reqId t
  · exact iff_of_true (carries.abortedGet rfl gets) (.inl gets)
  · have quiet : ∀ t ∈ newer, ¬ Gets reqId t := fun t member get => gets ⟨t, member, get⟩
    rw [carries.quiet quiet]
    exact (or_iff_right gets).symm

/-- An async request is aborted, and is reported with `ORBIS_OK`. -/
theorem abort_reported_as_ok :
    ∃ abort older process, (threads Nat).Run ([] ++ abort :: older) process ∧
      ((abort :: older).map fun t => t.action).reverse =
        createAsync 0 ++ [.call 0 offline 0x10000001 .abortRequest] ∧
      abort.pre.globals.request? 0x10000001 = some ⟨.ready, true, .ok⟩ ∧
      sceNpAuthWaitAsync process.globals 0x10000001 (some 0) =
        .ok (⟨.ok, { result := some .ok }⟩, process.globals) ∧
      ¬ Reports process.globals 0x10000001 .aborted := by
  have run : (threads Nat).Run _ _ := .of_exec rfl
    (createAsync 0 ++ [.call 0 offline 0x10000001 .abortRequest]) rfl
  refine ⟨_, [_, _], _, run, rfl, by decide, rfl, fun reports => ?_⟩
  exact nomatch (reports 0).1

theorem reportsAborted_iff_session :
    ∃ newer abort older process, (threads Nat).Run (newer ++ abort :: older) process ∧
      ((newer ++ abort :: older).map fun t => t.action).reverse =
        createAsync 0 ++ [.call 1 offline 0x10000001 .abortRequest,
          .call 2 offline 0x10000001 getToken] ∧
      (Reports process.globals 0x10000001 .aborted ↔
        (∃ t ∈ newer, Gets 0x10000001 t) ∨ OrbisCode.ok = .aborted) := by
  have run : (threads Nat).Run _ _ := .of_exec rfl
    (createAsync 0 ++ [.call 1 offline 0x10000001 .abortRequest,
      .call 2 offline 0x10000001 getToken]) rfl
  exact ⟨[_], _, [_, _], _, run, rfl,
    reportsAborted_iff run ⟨1, offline, rfl⟩ (by decide) (by decide)⟩

/-! ### After the first report -/

/-- What a Get leaves as the `result` of a request that is no longer `Ready`. -/
def retryResult (request : NpAuthRequest) : OrbisCode :=
  if request.state = .aborted then .aborted else .invalidArgument

/-- What a life leaves of a request that was not `Ready` at its start. -/
structure Settles (reqId : Int32) (born : NpAuthRequest) (life : ThreadHistory Thread)
    (request : NpAuthRequest) : Prop where
  state : request.state = born.state
  async : request.async = born.async
  quiet : (∀ t ∈ life, ¬ Gets reqId t) → request.result = born.result
  retried : (∃ t ∈ life, Gets reqId t) → request.result = retryResult born

/-- An operation on a request that is not `Ready` leaves its state. -/
theorem RequestOp.Acts.settled {op : RequestOp} {request after : NpAuthRequest} {reply : Reply}
    (acts : op.Acts request reply after) (settled : request.state ≠ .ready) :
    after.state = request.state := by
  cases acts with
  | getSignedOut => exact absurd rfl settled
  | getDelivered => exact absurd rfl settled
  | abortPending pending =>
      rcases pending with rfl | rfl
      · exact absurd rfl settled
      · rfl
  | _ => rfl

/-- A Get on it leaves its failure. -/
theorem RequestOp.Acts.retried {signedIn : Bool} {deliver : Except Fault Writes}
    {request after : NpAuthRequest} {reply : Reply}
    (acts : (RequestOp.get signedIn deliver).Acts request reply after)
    (settled : request.state ≠ .ready) : after.result = retryResult request := by
  cases acts with
  | getCompleted => rfl
  | getAborted => rfl
  | getSignedOut => exact absurd rfl settled
  | getDelivered => exact absurd rfl settled

theorem life_settles (run : (threads Thread).Run (newer ++ birth :: older) process)
    (present : birth.post.globals.request? reqId = some born) (settled : born.state ≠ .ready)
    (kept : ∀ t ∈ newer, deletedId t ≠ some reqId) :
    ∃ request, process.globals.request? reqId = some request ∧
      Settles reqId born newer request := by
  refine over_lifetime run present kept (Settles reqId born)
    ⟨rfl, rfl, fun _ => rfl, fun ⟨_, member, _⟩ => nomatch member⟩ ?_ ?_
  · intro t later request after op reply settles asks acts _ _
    have here : request.state ≠ .ready := settles.state ▸ settled
    refine ⟨(acts.settled here).trans settles.state, acts.async.trans settles.async,
      fun none => ?_, fun gets => ?_⟩
    · obtain ⟨none, before⟩ := List.forall_mem_cons.mp none
      rw [acts.quiet fun signedIn deliver get => none ⟨signedIn, deliver, reply, get ▸ asks⟩]
      exact settles.quiet before
    · have retry : retryResult request = retryResult born := by
        rw [retryResult, retryResult, settles.state]
      by_cases get : ∃ signedIn deliver, op = .get signedIn deliver
      · obtain ⟨signedIn, deliver, rfl⟩ := get
        exact (acts.retried here).trans retry
      · rw [acts.quiet fun signedIn deliver same => get ⟨signedIn, deliver, same⟩]
        obtain ⟨u, member, gets⟩ := gets
        rcases List.mem_cons.mp member with rfl | member
        · obtain ⟨signedIn, deliver, reply', asks'⟩ := gets
          have same := (asks_iff_move.mp asks).symm.trans (asks_iff_move.mp asks')
          exact absurd ⟨signedIn, deliver, (Move.ask.inj same).2.1⟩ get
        · exact settles.retried ⟨u, member, gets⟩
  · intro t later request settles ignores _ _ _
    have silent : ¬ Gets reqId t := fun ⟨signedIn, deliver, reply, asks⟩ => ignores _ reply asks
    refine ⟨settles.state, settles.async, fun none => ?_, fun gets => ?_⟩
    · exact settles.quiet (List.forall_mem_cons.mp none).2
    · obtain ⟨u, member, gets⟩ := gets
      rcases List.mem_cons.mp member with rfl | member
      · exact absurd gets silent
      · exact settles.retried ⟨u, member, gets⟩

/-- **A report lasts.** A Wait or Poll has reported a code for a request. Until the request is
deleted, whatever any thread does, Wait and Poll go on to report it: the same code as long as no Get
comes for the request, and from the first Get on the failure of that Get, which is `ABORTED` if the
request was aborted before the report and `INVALID_ARGUMENT` if it was completed. -/
theorem reports_last {report : ThreadStep Thread} {code : OrbisCode}
    (run : (threads Thread).Run (newer ++ report :: older) process)
    (reported : Asks reqId .report ⟨.ok, { result := some code }⟩ report)
    (kept : ∀ t ∈ newer, deletedId t ≠ some reqId) :
    ((∀ t ∈ newer, ¬ Gets reqId t) → Reports process.globals reqId code) ∧
      ((∃ t ∈ newer, Gets reqId t) → Reports process.globals reqId
        (if stateOf reqId report.pre = some .aborted then .aborted else .invalidArgument)) := by
  obtain ⟨earlier, taken, _⟩ := run.split.uncons
  have valid := reachable_valid earlier
  obtain ⟨request, after, found, acts, post⟩ := reported.acts valid (steps_of_step valid taken)
  cases acts with
  | reported async settled =>
      obtain ⟨now, here, settles⟩ := life_settles run post settled kept
      have reports : ∀ code, Reports process.globals reqId code ↔ now.result = code := fun _ =>
        reports_iff (reachable_valid run) here (settles.async.trans async) (settles.state ▸ settled)
      have aborted : stateOf reqId report.pre = some .aborted ↔ request.state = .aborted := by
        simp [stateOf, found]
      refine ⟨fun none => (reports _).mpr (settles.quiet none), fun gets => (reports _).mpr ?_⟩
      rw [settles.retried gets, retryResult]
      simp only [aborted]

/-- A result is reported, and again after an abort by another thread; a second Get spoils it. -/
theorem reports_last_session :
    ∃ newer report older process, (threads Nat).Run (newer ++ report :: older) process ∧
      ((newer ++ report :: older).map fun t => t.action).reverse =
        [.registerLib true] ++ createAsync 0 ++ [.call 0 offline 0x10000001 getCode,
          .call 0 offline 0x10000001 (.pollAsync (some 0)),
          .call 1 offline 0x10000001 .abortRequest, .call 0 offline 0x10000001 getToken] ∧
      report.answer = .returned ⟨.ok, { result := some .ok }⟩ ∧
      Reports process.globals 0x10000001 .invalidArgument := by
  have taken : (threads Nat).Run _ _ := .of_exec rfl
    ([.registerLib true] ++ createAsync 0 ++ [.call 0 offline 0x10000001 getCode,
      .call 0 offline 0x10000001 (.pollAsync (some 0)),
      .call 1 offline 0x10000001 .abortRequest, .call 0 offline 0x10000001 getToken]) rfl
  have run : (threads Nat).Run ([_, _] ++ _ :: [_, _, _, _]) _ := taken
  exact ⟨_, _, _, _, run, rfl, rfl, (reports_last run
    ⟨by decide, rfl, 0, offline, .pollAsync (some 0), rfl, rfl⟩ (by decide)).2
    ⟨_, List.mem_cons_self, true, _, _, by decide, rfl, 0, offline, getToken, rfl, rfl⟩⟩

end Lifetime

end LayraPS4.NpAuth
