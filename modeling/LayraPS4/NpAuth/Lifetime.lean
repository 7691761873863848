/-
**The life of one request.**

Between the create that returned its id and the delete of that id, a request is changed by the
calls that pass their argument checks on its id (`Asks`), one at a time, and by nothing else that
any thread does: `over_lifetime` is the induction this gives, and `life_stage` what it gives of the
states of a request.

`processed_once`: a request is completed at most once and its output is written at most once, by a
Get; never after an abort; `Complete` and `Aborted` are final; and only a delete frees a slot.
-/

import LayraPS4.NpAuth.RequestTable

set_option linter.unusedSectionVars false

namespace LayraPS4.NpAuth

open Cxx Runs ObjectTable

variable {Thread : Type} [DecidableEq Thread]

/-! ### What a step does about one id -/

/-- The create that returned this id. -/
def Creates (reqId : Int32) (async : Bool) (t : ThreadStep Thread) : Prop :=
  t.answer = .created reqId ∧
    ∃ thread, t.action = .createSection thread ∧ t.pre.creating thread = some async

/-- The call passed its argument checks, found the request with this id and asked this of it. -/
def Asks (reqId : Int32) (op : RequestOp) (reply : Reply) (t : ThreadStep Thread) : Prop :=
  t.pre.globals.request? reqId ≠ none ∧ t.answer = .returned reply ∧
    ∃ thread env entry, t.action = .call thread env reqId entry ∧
      entry.op? env t.pre.globals.gSignedIn = some op

/-- A Get of either kind that passed its argument checks and found the request. -/
def Gets (reqId : Int32) (t : ThreadStep Thread) : Prop :=
  ∃ signedIn deliver reply, Asks reqId (.get signedIn deliver) reply t

/-- The state of the live request with this id. -/
def stateOf (reqId : Int32) (process : Process Thread) : Option NpAuthRequestState :=
  (process.globals.request? reqId).map fun request => request.state

/-- An abort of the request while it is `Ready`. -/
def AbortsReady (reqId : Int32) (t : ThreadStep Thread) : Prop :=
  (∃ thread env, t.action = .call thread env reqId .abortRequest) ∧
    stateOf reqId t.pre = some .ready

/-- The step takes the request from `Ready` to `Complete`. -/
def completes (reqId : Int32) (t : ThreadStep Thread) : Bool :=
  stateOf reqId t.pre == some .ready && stateOf reqId t.post == some .complete

/-- Something was written to an output buffer. -/
def Writes.delivers (writes : Writes) : Bool :=
  writes.authCode.isSome || writes.issuerId.isSome || writes.token.isSome

/-- The step is a call on this id that writes an output buffer. -/
def delivers (reqId : Int32) (t : ThreadStep Thread) : Bool :=
  match t.action, t.answer with
  | .call _ _ asked _, .returned reply => asked == reqId && reply.writes.delivers
  | _, _ => false

/-- The step leaves a slot without its request. -/
def Frees (slot : Nat) (t : ThreadStep Thread) : Prop :=
  (∃ request, t.pre.globals.gAuthRequests[slot]? = some request ∧ request.state ≠ .none) ∧
    ∃ request, t.post.globals.gAuthRequests[slot]? = some request ∧ request.state = .none

section Steps

variable {reqId : Int32} {op : RequestOp} {reply : Reply} {t : ThreadStep Thread}

theorem asks_iff_move : Asks reqId op reply t ↔ NpAuth.move t = .ask reqId op reply := by
  obtain ⟨pre, action, answer, post⟩ := t
  constructor
  · rintro ⟨found, rfl, thread, env, entry, rfl, asks⟩
    obtain ⟨request, found⟩ := Option.ne_none_iff_exists'.mp found
    simp only at asks found
    simp only [NpAuth.move, found, asks]
  · intro moved
    dsimp only [NpAuth.move] at moved
    split at moved
    · split at moved <;> cases moved
    · split at moved
      · rename_i found asks
        cases moved
        exact ⟨by simp [found], rfl, _, _, _, rfl, asks⟩
      · split_ifs at moved
      · cases moved
    · cases moved

/-- A call that asks something of the request does it. -/
theorem Asks.acts (asks : Asks reqId op reply t) (valid : t.pre.globals.Valid)
    (steps : Steps t.pre t.action t.answer t.post) :
    ∃ request after, t.pre.globals.request? reqId = some request ∧
      op.Acts request reply after ∧ t.post.globals.request? reqId = some after := by
  have step : requestKind.Step (requests t.pre) (NpAuth.move t) (requests t.post) :=
    steps.move valid
  rw [asks_iff_move.mp asks] at step
  obtain ⟨request, after, found, acted, post⟩ := step.asked
  have live := (Globals.request?_eq_some.mp found).2
  exact ⟨request, after, found, RequestOp.acts live (requestKind_act.mp acted), post⟩

/-- A call that asks nothing of the request writes no output buffer for it. -/
theorem delivers_of_not_asks (steps : Steps t.pre t.action t.answer t.post)
    (ignores : ∀ op reply, ¬ Asks reqId op reply t) : delivers reqId t = false := by
  obtain ⟨pre, action, answer, post⟩ := t
  unfold Asks at ignores
  dsimp only at steps ignores
  cases steps with
  | @asked thread env other entry op request after reply asks found acted =>
      by_cases same : other = reqId
      · subst same
        exact absurd ⟨by simp [found], rfl, _, _, _, rfl, asks⟩ (ignores op reply)
      · simp [delivers, same]
  | deleted _ => simp [delivers, Writes.delivers]
  | notFound _ => simp [delivers, Writes.delivers]
  | turnedDown _ _ => simp [delivers, Writes.delivers]
  | _ => rfl

theorem deletedId_of_move (steps : Steps t.pre t.action t.answer t.post)
    (moved : NpAuth.move t = .delete reqId) : deletedId t = some reqId := by
  refine steps.deletedId.trans ?_
  rw [show (⟨t.pre, t.action, t.answer, t.post⟩ : ThreadStep Thread) = t from rfl, moved]
  rfl

theorem deletedId_eq_some (deleted : deletedId t = some reqId) :
    ∃ thread env, t.action = .call thread env reqId .deleteRequest := by
  unfold deletedId at deleted
  split at deleted
  · rename_i thread env other reply action answer
    split_ifs at deleted
    cases deleted
    exact ⟨thread, env, action⟩
  · cases deleted

/-- **Only its delete frees a slot.** -/
theorem deletes_of_frees {slot : Nat} (valid : t.pre.globals.Valid)
    (steps : Steps t.pre t.action t.answer t.post) (frees : Frees slot t) :
    ∃ thread env, t.action = .call thread env (idOf slot) .deleteRequest := by
  obtain ⟨⟨request, inSlot, used⟩, ⟨left, inSlot', free⟩⟩ := frees
  obtain ⟨bound, _⟩ := List.getElem?_eq_some_iff.mp inSlot
  have here : slotOf (idOf slot) = slot := slotOf_idOf (valid.lt_of_lt_length bound)
  have before : t.pre.globals.request? (idOf slot) = some request := by
    rw [Globals.request?_eq_some, here]
    exact ⟨inSlot, NpAuthRequest.live_iff.mpr used⟩
  have after : t.post.globals.request? (idOf slot) = none := by
    refine Globals.request?_eq_none.mpr fun other same => ?_
    rw [here, inSlot'] at same
    cases same
    simp [NpAuthRequest.live, free]
  exact deletedId_eq_some (deletedId_of_move steps ((steps.move valid).freed before after))

end Steps

/-! ### Over a lifetime -/

section Lifetime

variable {reqId : Int32} {process : Process Thread} {newer older : ThreadHistory Thread}
  {birth : ThreadStep Thread} {born : NpAuthRequest}

/-- **Induction over the life of a request**: the steps that ask something of it, and those that do
not and leave it as it is. -/
theorem over_lifetime (run : (threads Thread).Run (newer ++ birth :: older) process)
    (present : birth.post.globals.request? reqId = some born)
    (kept : ∀ t ∈ newer, deletedId t ≠ some reqId)
    (P : ThreadHistory Thread → NpAuthRequest → Prop) (base : P [] born)
    (asked : ∀ t later request after op reply, P later request → Asks reqId op reply t →
      op.Acts request reply after → t.pre.globals.request? reqId = some request →
      t.post.globals.request? reqId = some after → P (t :: later) after)
    (ignored : ∀ t later request, P later request → (∀ op reply, ¬ Asks reqId op reply t) →
      delivers reqId t = false → t.pre.globals.request? reqId = some request →
      t.post.globals.request? reqId = some request → P (t :: later) request) :
    ∃ request, process.globals.request? reqId = some request ∧ P newer request := by
  have steps : ∀ t ∈ newer, Steps t.pre t.action t.answer t.post := fun t member =>
    (steps_of_mem run (List.mem_append_left _ member)).2
  obtain ⟨request, here, lived⟩ := (requestTable Thread).life run present fun t member moved =>
    kept t member (deletedId_of_move (steps t member) moved)
  refine ⟨request, here, ?_⟩
  clear run kept here
  induction lived with
  | born => exact base
  | @ask later t op reply request after _ before moved acted post ih =>
      have live := (Globals.request?_eq_some.mp before).2
      refine asked t later request after op reply
        (ih fun u member => steps u (List.mem_cons_of_mem _ member)) (asks_iff_move.mpr moved)
        (RequestOp.acts live (requestKind_act.mp acted)) before post
  | @other later t request _ before about post ih =>
      have ignores : ∀ op reply, ¬ Asks reqId op reply t := fun op reply asks =>
        about ((congrArg Move.key? (asks_iff_move.mp asks)).trans rfl)
      exact ignored t later request (ih fun u member => steps u (List.mem_cons_of_mem _ member))
        ignores (delivers_of_not_asks (steps t List.mem_cons_self) ignores) before post

/-- Whether the request has been completed, as a count. -/
def NpAuthRequest.completions (request : NpAuthRequest) : Nat :=
  if request.state = .complete then 1 else 0

section Acts

variable {op : RequestOp} {request after : NpAuthRequest} {reply : Reply}

/-- `Complete` is final. -/
theorem RequestOp.Acts.complete (acts : op.Acts request reply after)
    (complete : request.state = .complete) : after.state = .complete := by
  cases acts with
  | abortPending pending => rcases pending with rfl | rfl <;> cases complete
  | reportRefused _ => exact complete
  | reported _ _ => exact complete
  | getAborted => cases complete
  | _ => rfl

/-- `Aborted` is final. -/
theorem RequestOp.Acts.aborted (acts : op.Acts request reply after)
    (aborted : request.state = .aborted) : after.state = .aborted := by
  cases acts with
  | getAborted => rfl
  | abortPending _ => rfl
  | reportRefused _ => exact aborted
  | reported _ _ => exact aborted
  | _ => cases aborted

/-- An abort of a `Ready` request writes its state and nothing else. -/
theorem RequestOp.Acts.aborts (acts : RequestOp.abort.Acts request reply after)
    (ready : request.state = .ready) : after = { request with state := .aborted } := by
  cases acts with
  | abortCompleted => cases ready
  | abortPending _ => rfl

/-- A request is completed once: by the operation that finds it `Ready`. -/
theorem RequestOp.Acts.completed (acts : op.Acts request reply after) :
    (if (request.state == .ready && after.state == .complete) = true then 1 else 0) +
      request.completions = after.completions := by
  cases acts with
  | abortPending pending => rcases pending with rfl | rfl <;> rfl
  | reportRefused _ => cases state : request.state <;> simp
  | reported _ _ => cases state : request.state <;> simp
  | _ => rfl

/-- Only the operation that completes a request delivers its output. -/
theorem RequestOp.Acts.delivered (acts : op.Acts request reply after) :
    (if reply.writes.delivers = true then 1 else 0) + request.completions ≤
      after.completions := by
  cases acts with
  | @getDelivered async writes result =>
      show (if writes.delivers = true then 1 else 0) + 0 ≤ 1
      split <;> omega
  | abortPending pending => rcases pending with rfl | rfl <;> exact le_rfl
  | getSignedOut => exact Nat.zero_le 1
  | _ => exact (Nat.zero_add _).le

/-- Completing and delivering are done by Gets. -/
theorem RequestOp.Acts.byGet (acts : op.Acts request reply after)
    (does : (request.state == .ready && after.state == .complete) = true ∨
      reply.writes.delivers = true) :
    ∃ signedIn deliver, op = .get signedIn deliver := by
  cases acts with
  | abortPending pending => rcases does with does | does <;> rcases pending with rfl | rfl <;> cases does
  | abortCompleted => rcases does with does | does <;> cases does
  | reportRefused _ => cases state : request.state <;> simp [state, Writes.delivers] at does
  | reported _ _ => cases state : request.state <;> simp [state, Writes.delivers] at does
  | _ => exact ⟨_, _, rfl⟩

end Acts

/-- What has happened in a life, by what the request was at its start and is now. -/
structure Stage (reqId : Int32) (born : NpAuthRequest) (life : ThreadHistory Thread)
    (request : NpAuthRequest) : Prop where
  complete : born.state = .complete → request.state = .complete
  aborted : born.state = .aborted → request.state = .aborted
  completed : life.countP (completes reqId) + born.completions = request.completions
  delivered : life.countP (delivers reqId) + born.completions ≤ request.completions

theorem completes_eq {t : ThreadStep Thread} {request after : NpAuthRequest}
    (before : t.pre.globals.request? reqId = some request)
    (post : t.post.globals.request? reqId = some after) :
    completes reqId t = (request.state == .ready && after.state == .complete) := by
  simp [completes, stateOf, before, post]

theorem delivers_eq {t : ThreadStep Thread} {op : RequestOp} {reply : Reply}
    (asks : Asks reqId op reply t) : delivers reqId t = reply.writes.delivers := by
  obtain ⟨_, answer, thread, env, entry, action, _⟩ := asks
  simp [delivers, action, answer]

/-- **The states of a request**: it is completed once, delivers at most then, and stays completed or
aborted. -/
theorem life_stage (run : (threads Thread).Run (newer ++ birth :: older) process)
    (present : birth.post.globals.request? reqId = some born)
    (kept : ∀ t ∈ newer, deletedId t ≠ some reqId) :
    ∃ request, process.globals.request? reqId = some request ∧ Stage reqId born newer request := by
  refine over_lifetime run present kept (Stage reqId born)
    ⟨id, id, Nat.zero_add _, (Nat.zero_add _).le⟩ ?_ ?_
  · intro t later request after op reply stage asks acts before post
    have once := acts.completed
    have most := acts.delivered
    have completed := stage.completed
    have delivered := stage.delivered
    refine ⟨acts.complete ∘ stage.complete, acts.aborted ∘ stage.aborted, ?_, ?_⟩
    · rw [List.countP_cons, completes_eq before post]
      omega
    · rw [List.countP_cons, delivers_eq asks]
      omega
  · intro t later request stage _ silent before post
    have idle : completes reqId t = false := by
      rw [completes_eq before post]
      cases request.state <;> rfl
    refine ⟨stage.complete, stage.aborted, ?_, ?_⟩
    · rw [List.countP_cons_of_neg (by simp [idle])]
      exact stage.completed
    · rw [List.countP_cons_of_neg (by simp [silent])]
      exact stage.delivered

/-- `Complete` and `Aborted` last from any step of a life to the later ones. -/
theorem stage_since {t : ThreadStep Thread} {later before : ThreadHistory Thread}
    (run : (threads Thread).Run (later ++ t :: before) process)
    (present : t.post.globals.request? reqId = some born)
    (kept : ∀ u ∈ later, deletedId u ≠ some reqId) {u : ThreadStep Thread} (member : u ∈ later) :
    ∃ request, u.post.globals.request? reqId = some request ∧
      (born.state = .complete → request.state = .complete) ∧
      (born.state = .aborted → request.state = .aborted) := by
  obtain ⟨last, first, rfl⟩ := List.append_of_mem member
  have reached : (threads Thread).Run (u :: first ++ t :: before) u.post := by
    rw [List.append_assoc] at run
    exact run.split
  obtain ⟨request, here, stage⟩ := life_stage reached present fun v inFirst =>
    kept v (List.mem_append_right _ inFirst)
  exact ⟨request, here, stage.complete, stage.aborted⟩

theorem Creates.present {async : Bool} (run : (threads Thread).Run (birth :: older) process)
    (created : Creates reqId async birth) :
    birth.post.globals.request? reqId = some (birth.pre.globals.newRequest async) := by
  obtain ⟨earlier, taken, _⟩ := run.uncons
  have valid := reachable_valid earlier
  have isCreate : createdId birth = some reqId := by rw [createdId, created.1]
  obtain ⟨answered, thread, action, waiting⟩ := created
  obtain ⟨thread', async', action', waiting', rfl, admitted, _⟩ :=
    (steps_of_step valid taken).of_createdId isCreate
  obtain rfl : thread = thread' := Action.createSection.inj (action.symm.trans action')
  obtain rfl : async = async' := Option.some.inj (waiting.symm.trans waiting')
  rw [admitted, Globals.request?_afterCreate valid, if_pos rfl]

/-- **What is meant by processing a request at most once**, of the steps of its life. -/
structure ProcessedOnce (reqId : Int32) (life : ThreadHistory Thread) : Prop where
  completed : life.countP (completes reqId) ≤ 1
  completedByGet : ∀ t ∈ life, completes reqId t = true → Gets reqId t
  delivered : life.countP (delivers reqId) ≤ 1
  deliveredByGet : ∀ t ∈ life, delivers reqId t = true → Gets reqId t
  afterAbort : ∀ later abort before, life = later ++ abort :: before → AbortsReady reqId abort →
    ∀ t ∈ later, delivers reqId t = false
  completeStays : ∀ later t before, life = later ++ t :: before →
    stateOf reqId t.post = some .complete → ∀ u ∈ later, stateOf reqId u.post = some .complete
  abortedStays : ∀ later t before, life = later ++ t :: before →
    stateOf reqId t.post = some .aborted → ∀ u ∈ later, stateOf reqId u.post = some .aborted

/-- Over a life, completing and delivering are done by Gets. -/
theorem life_gets (run : (threads Thread).Run (newer ++ birth :: older) process)
    (present : birth.post.globals.request? reqId = some born)
    (kept : ∀ t ∈ newer, deletedId t ≠ some reqId) :
    ∀ t ∈ newer, completes reqId t = true ∨ delivers reqId t = true → Gets reqId t := by
  have byGet : ∃ request, process.globals.request? reqId = some request ∧
      ∀ t ∈ newer, completes reqId t = true ∨ delivers reqId t = true → Gets reqId t := by
    refine over_lifetime run present kept (fun newer _ =>
      ∀ t ∈ newer, completes reqId t = true ∨ delivers reqId t = true → Gets reqId t)
      (List.forall_mem_nil _) ?_ ?_
    · intro t later request after op reply ih asks acts before post
      rw [List.forall_mem_cons]
      refine ⟨fun does => ?_, ih⟩
      rw [completes_eq before post, delivers_eq asks] at does
      obtain ⟨signedIn, deliver, rfl⟩ := acts.byGet does
      exact ⟨signedIn, deliver, reply, asks⟩
    · intro t later request ih _ silent before post
      rw [List.forall_mem_cons]
      refine ⟨fun does => ?_, ih⟩
      rw [completes_eq before post, silent] at does
      cases state : request.state <;> simp [state] at does
  exact byGet.choose_spec.2

/-- An abort of a `Ready` request leaves it `Aborted`. -/
theorem AbortsReady.aborted {t : ThreadStep Thread} (steps : Steps t.pre t.action t.answer t.post)
    (valid : t.pre.globals.Valid) (aborts : AbortsReady reqId t) :
    ∃ request, t.pre.globals.request? reqId = some request ∧
      t.post.globals.request? reqId = some { request with state := .aborted } := by
  obtain ⟨⟨thread, env, action⟩, ready⟩ := aborts
  obtain ⟨request, found, state⟩ := Option.map_eq_some_iff.mp ready
  obtain ⟨reply, answered⟩ := (action ▸ steps).returned
  have asks : Asks reqId .abort reply t :=
    ⟨by simp [found], answered, thread, env, .abortRequest, action, rfl⟩
  obtain ⟨request', after, found', acts, post⟩ := asks.acts valid steps
  obtain rfl := Option.some.inj (found.symm.trans found')
  exact ⟨request, found, acts.aborts state ▸ post⟩

/-- **Each request is processed at most once**, under any interleaving, between its creation and its
deletion; and only the delete of its own id frees a slot. -/
theorem processed_once {async : Bool}
    (run : (threads Thread).Run (newer ++ birth :: older) process)
    (created : Creates reqId async birth) (kept : ∀ t ∈ newer, deletedId t ≠ some reqId) :
    ProcessedOnce reqId newer ∧
      ∀ t ∈ newer ++ birth :: older, ∀ slot, Frees slot t →
        ∃ thread env, t.action = .call thread env (idOf slot) .deleteRequest := by
  have present := created.present run.split
  have byGet := life_gets run present kept
  obtain ⟨request, _, stage⟩ := life_stage run present kept
  have most : request.completions ≤ 1 := by
    unfold NpAuthRequest.completions
    split <;> omega
  have completed := stage.completed
  have delivered := stage.delivered
  refine ⟨⟨by omega, fun t member does => byGet t member (.inl does), by omega,
    fun t member does => byGet t member (.inr does), ?_, ?_, ?_⟩, ?_⟩
  · rintro later abort before rfl aborts
    rw [List.append_assoc] at run
    obtain ⟨valid, steps⟩ := steps_of_mem run (List.mem_append_right _ List.mem_cons_self)
    obtain ⟨_, _, post⟩ := aborts.aborted steps valid
    obtain ⟨now, _, stage⟩ := life_stage run post fun t member =>
      kept t (List.mem_append_left _ member)
    have none : now.completions = 0 := if_neg (by rw [stage.aborted rfl]; decide)
    have silent := stage.delivered
    have zero : later.countP (delivers reqId) = 0 := by omega
    exact fun t member => by simpa using List.countP_eq_zero.mp zero t member
  · rintro later t before rfl complete u member
    rw [List.append_assoc] at run
    obtain ⟨then_, here, state⟩ := Option.map_eq_some_iff.mp complete
    obtain ⟨now, post, stays, _⟩ := stage_since run here (fun v inLater =>
      kept v (List.mem_append_left _ inLater)) member
    rw [stateOf, post, Option.map_some, stays state]
  · rintro later t before rfl aborted u member
    rw [List.append_assoc] at run
    obtain ⟨then_, here, state⟩ := Option.map_eq_some_iff.mp aborted
    obtain ⟨now, post, _, stays⟩ := stage_since run here (fun v inLater =>
      kept v (List.mem_append_left _ inLater)) member
    rw [stateOf, post, Option.map_some, stays state]
  · intro t member slot frees
    obtain ⟨valid, steps⟩ := steps_of_mem run member
    exact deletes_of_frees valid steps frees

/-- Two threads ask for a code and a token of one request, and a third aborts it, all at once. -/
theorem processed_once_session :
    ∃ newer birth older process, (threads Nat).Run (newer ++ birth :: older) process ∧
      (newer.map fun t => t.action) = [.call 3 offline 0x10000001 .abortRequest,
        .call 2 offline 0x10000001 getToken, .call 1 offline 0x10000001 getCode] ∧
      Creates 0x10000001 true birth ∧ (∀ t ∈ newer, deletedId t ≠ some 0x10000001) ∧
      ProcessedOnce 0x10000001 newer ∧
      ∀ t ∈ newer ++ birth :: older, ∀ slot, Frees slot t →
        ∃ thread env, t.action = .call thread env (idOf slot) .deleteRequest := by
  have run : (threads Nat).Run _ _ := .of_exec rfl
    ([.registerLib true] ++ createAsync 0 ++ [.call 1 offline 0x10000001 getCode,
      .call 2 offline 0x10000001 getToken, .call 3 offline 0x10000001 .abortRequest]) rfl
  exact ⟨[_, _, _], _, [_, _], _, run, rfl, ⟨rfl, 0, rfl, rfl⟩, by decide,
    processed_once run ⟨rfl, 0, rfl, rfl⟩ (by decide)⟩

end Lifetime

end LayraPS4.NpAuth
