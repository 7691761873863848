/-
**The counter of live requests.**

* `counter_accounts`: in every reachable state `g_active_auth_requests` is the number of slots that
  hold a request and the number of creates less the number of deletes, and the ids handed out are
  distinct. This does not need the limit: it holds of runs that overshoot it too.
* `withinLimit_iff`: the limit itself is tested before the mutex is taken, so it holds in a run
  exactly when no create enters its critical section at the limit.
* `slots_eq_peak`: slots are never given back, but a new one is made only when all are in use, so there
  are as many as there have been live requests at any one time.
-/

import LayraPS4.NpAuth.RequestTable

set_option linter.unusedSectionVars false

namespace LayraPS4.NpAuth

open Cxx Runs ObjectTable

variable {Thread : Type} [DecidableEq Thread] {process next : Process Thread}
  {action : Action Thread} {answer : Answer} {history : ThreadHistory Thread}

/-! ### The counter -/

/-- **The counter over one step**: a create counts up, a successful delete counts down. -/
theorem Steps.active (steps : Steps process action answer next) :
    next.globals.gActiveAuthRequests +
        (if (NpAuth.deletedId ⟨process, action, answer, next⟩).isSome then 1 else 0) =
      process.globals.gActiveAuthRequests +
        (if (NpAuth.createdId ⟨process, action, answer, next⟩).isSome then 1 else 0) := by
  rw [steps.createdId, steps.deletedId]
  cases steps with
  | asked asks found _ =>
      simp [NpAuth.move, found, asks, Move.created?, Move.deleted?, Globals.setRequest]
  | deleted found =>
      simp [NpAuth.move, found, Entry.op?, Move.created?, Move.deleted?, Globals.remove,
        Globals.setRequest]
  | notFound missing => simp [NpAuth.move, missing, Move.created?, Move.deleted?]
  | @turnedDown _ _ reqId _ _ asks kept =>
      cases found : process.globals.request? reqId <;>
        simp [NpAuth.move, found, asks, kept, Move.created?, Move.deleted?]
  | created waiting _ =>
      simp [NpAuth.move, waiting, Move.created?, Move.deleted?, Globals.afterCreate]
  | refused => rfl
  | passed _ => rfl
  | registered => rfl

theorem active_eq (run : (threads Thread).Run history process) :
    process.globals.gActiveAuthRequests = (creates history : Int) - deletes history := by
  refine run.history_invariant (fun history process =>
    process.globals.gActiveAuthRequests = (creates history : Int) - deletes history) ?_ ?_
  · rintro _ rfl
    rfl
  · intro t older earlier counted taken
    have step := (steps_of_step (reachable_valid earlier) taken).active
    have created : creates (t :: older) =
        creates older + (if (createdId t).isSome then 1 else 0) := List.countP_cons
    have deleted : deletes (t :: older) =
        deletes older + (if (deletedId t).isSome then 1 else 0) := List.countP_cons
    rw [created, deleted]
    simp only [show (⟨t.pre, t.action, t.answer, t.post⟩ : ThreadStep Thread) = t from rfl] at step
    split_ifs at step ⊢ <;> push_cast <;> omega

/-- **The counter accounts for the requests**, in every reachable state: it is the number of live
slots, and of creates less deletes; the live ids are distinct, and no create returns one of them. -/
theorem counter_accounts (run : (threads Thread).Run history process) :
    process.globals.gActiveAuthRequests = process.globals.liveCount ∧
      process.globals.gActiveAuthRequests = (creates history : Int) - deletes history ∧
      (liveIds history).Nodup ∧
      ∀ newer t older reqId, history = newer ++ t :: older → createdId t = some reqId →
        reqId ∉ liveIds older := by
  refine ⟨(reachable_valid run).counted, active_eq run, ?_, ?_⟩
  · rw [(liveIds_eq run).1]
    exact ((requestTable Thread).accounted run).nodup
  · rintro newer t older reqId rfl created
    have distinct : (liveIds (t :: older)).Nodup := by
      rw [(liveIds_eq run.split).1]
      exact ((requestTable Thread).accounted run.split).nodup
    rw [liveIds, created] at distinct
    exact (List.nodup_cons.mp distinct).1

theorem counter_accounts_session :
    ∃ history process, (threads Nat).Run history process ∧
      (history.map fun t => t.answer) =
        [.created 0x10000001, .returned ⟨.ok, {}⟩, .created 0x10000002, .created 0x10000001,
          .passed, .passed, .passed] ∧
      process.globals.gActiveAuthRequests = process.globals.liveCount ∧
      process.globals.gActiveAuthRequests = (creates history : Int) - deletes history ∧
      (liveIds history).Nodup ∧
      ∀ newer t older reqId, history = newer ++ t :: older → createdId t = some reqId →
        reqId ∉ liveIds older := by
  have run : (threads Nat).Run _ _ := .of_exec rfl [.readLimit 0 .createRequest,
    .readLimit 1 .createRequest, .readLimit 2 .createRequest, .createSection 1, .createSection 0,
    .call 0 offline 0x10000001 .deleteRequest, .createSection 2] rfl
  exact ⟨_, _, run, rfl, counter_accounts run⟩

/-! ### The limit -/

/-- What the limit is for. -/
def WithinLimit (globals : Globals) : Prop :=
  globals.gActiveAuthRequests ≤ requestLimit ∧ (globals.liveCount : Int) ≤ requestLimit

/-- A create that enters its critical section would still pass the limit there. -/
def EntersBelowLimit (t : ThreadStep Thread) : Prop :=
  ∀ thread, t.action = .createSection thread → limitReached t.pre.globals = false

/-- **The limit.** No state of a run has more than sixteen requests, if and only if no create of the
run enters its critical section when sixteen are live. -/
theorem withinLimit_iff (run : (threads Thread).Run history process) :
    (∀ t ∈ history, WithinLimit t.post.globals) ↔ ∀ t ∈ history, EntersBelowLimit t := by
  refine run.good_iff (fun process => process.globals.Valid)
    (fun process => WithinLimit process.globals) EntersBelowLimit reachable_valid ?_ ?_ ?_
  · rintro _ rfl
    exact ⟨show (0 : Int) ≤ requestLimit by decide, show (0 : Int) ≤ requestLimit by decide⟩
  · intro t valid good taken safe
    have steps := steps_of_step valid taken
    have counted := (steps.valid valid).counted
    suffices bound : t.post.globals.gActiveAuthRequests ≤ requestLimit from
      ⟨bound, counted ▸ bound⟩
    have below := good.1
    cases isCreate : createdId t with
    | none =>
        have count := steps.active
        rw [show createdId ⟨t.pre, t.action, t.answer, t.post⟩ = none from isCreate] at count
        simp only [Option.isSome_none, Bool.false_eq_true, if_false] at count
        split_ifs at count <;> omega
    | some reqId =>
        obtain ⟨thread, async, entered, _, _, admitted, _⟩ := steps.of_createdId isCreate
        have room := safe thread entered
        simp only [limitReached, beq_eq_false_iff_ne, ne_eq] at room
        rw [admitted]
        show t.pre.globals.gActiveAuthRequests + 1 ≤ requestLimit
        omega
  · rintro ⟨pre, action, answer, post⟩ valid good taken notSafe within
    unfold EntersBelowLimit at notSafe
    push Not at notSafe
    obtain ⟨thread, entered, full⟩ := notSafe
    have steps : Steps pre action answer post := steps_of_step valid taken
    rw [show action = .createSection thread from entered] at steps
    cases steps with
    | created _ _ =>
        have above : pre.globals.gActiveAuthRequests + 1 ≤ requestLimit := within.1
        simp only [ne_eq, Bool.not_eq_false, limitReached, beq_iff_eq] at full
        omega

/-- Fifteen requests are live. Two threads read the limit, then both create. -/
theorem seventeen_live :
    ∃ history process, (threads Nat).Run history process ∧
      (history.map fun t => t.action).reverse =
        (List.replicate 15 (createSync 0)).flatten ++
          [.readLimit 0 .createRequest, .readLimit 1 .createRequest, .createSection 0,
            .createSection 1] ∧
      process.globals.gActiveAuthRequests = 17 ∧ ¬ WithinLimit process.globals := by
  refine ⟨_, _, .of_exec rfl ((List.replicate 15 (createSync 0)).flatten ++
    [.readLimit 0 .createRequest, .readLimit 1 .createRequest, .createSection 0,
      .createSection 1]) rfl, rfl, rfl, fun within => ?_⟩
  exact absurd within.1 (by decide)

theorem withinLimit_iff_session :
    ∃ history process, (threads Nat).Run history process ∧
      (history.map fun t => t.action).reverse =
        [.readLimit 0 .createRequest, .readLimit 1 .createRequest, .createSection 1,
          .createSection 0] ∧
      ((∀ t ∈ history, WithinLimit t.post.globals) ↔ ∀ t ∈ history, EntersBelowLimit t) := by
  have run : (threads Nat).Run _ _ := .of_exec rfl [.readLimit 0 .createRequest,
    .readLimit 1 .createRequest, .createSection 1, .createSection 0] rfl
  exact ⟨_, _, run, rfl, withinLimit_iff run⟩

/-! ### The slots -/

section Slots

open SlotVector

/-- There are as many live ids as live slots. -/
theorem liveIds_length (run : (threads Thread).Run history process) :
    (liveIds history).length = process.globals.liveCount := by
  obtain ⟨ids, created, deleted⟩ := liveIds_eq run
  have count := ((requestTable Thread).accounted run).count
  rw [← ids, ← created, ← deleted] at count
  have active := active_eq run
  have counted := (reachable_valid run).counted
  omega

/-- **The slots over one step**: a new one is made when all are in use, and only then. -/
theorem Steps.slots (steps : Steps process action answer next) (valid : process.globals.Valid) :
    next.globals.gAuthRequests.length =
      max process.globals.gAuthRequests.length next.globals.liveCount := by
  have within : next.globals.liveCount ≤ next.globals.gAuthRequests.length :=
    List.countP_le_length
  have kept : next.globals.gAuthRequests.length = process.globals.gAuthRequests.length →
      next.globals.gAuthRequests.length =
        max process.globals.gAuthRequests.length next.globals.liveCount := by omega
  cases steps with
  | asked _ _ _ => exact kept (List.length_set ..)
  | deleted _ => exact kept (List.length_set ..)
  | notFound _ => exact kept rfl
  | turnedDown _ _ => exact kept rfl
  | refused => exact kept rfl
  | passed _ => exact kept rfl
  | registered => exact kept rfl
  | @created _ async _ _ room =>
      have length := length_put process.globals.gAuthRequests process.globals.freeSlot
        (process.globals.newRequest async)
      by_cases full : process.globals.freeSlot = process.globals.gAuthRequests.length
      · -- all slots are in use, before the create and after it
        have all : process.globals.liveCount = process.globals.gAuthRequests.length :=
          (firstFree_eq_length_iff _).mp full
        have counted := valid.counted
        have after : process.globals.gActiveAuthRequests + 1 =
            (process.globals.afterCreate async).liveCount :=
          (valid.afterCreate room async).counted
        rw [if_pos full] at length
        show (put _ _ _).length = _
        dsimp only
        omega
      · rw [if_neg full] at length
        exact kept length

/-- The most ids that have been live at one time. -/
def peakLive : ThreadHistory Thread → Nat
  | [] => 0
  | t :: older => max (liveIds (t :: older)).length (peakLive older)

theorem length_eq_peak (run : (threads Thread).Run history process) :
    process.globals.gAuthRequests.length = peakLive history := by
  refine run.history_invariant (fun history process =>
    process.globals.gAuthRequests.length = peakLive history) ?_ ?_
  · rintro _ rfl
    rfl
  · intro t older earlier same taken
    have valid := reachable_valid earlier
    rw [peakLive, liveIds_length (earlier.step taken), max_comm, ← same]
    exact (steps_of_step valid taken).slots valid

/-- **The slots are the peak of the live requests**, in every reachable state, as the guest counts
them; and every id that was ever handed out is that of one of these slots. -/
theorem slots_eq_peak (run : (threads Thread).Run history process) :
    process.globals.gAuthRequests.length = peakLive history ∧
      ∀ t ∈ history, ∀ reqId, createdId t = some reqId → slotOf reqId < peakLive history := by
  refine ⟨length_eq_peak run, ?_⟩
  refine run.history_invariant (fun history _ =>
    ∀ t ∈ history, ∀ reqId, createdId t = some reqId → slotOf reqId < peakLive history) ?_ ?_
  · exact fun _ _ => List.forall_mem_nil _
  · intro t older earlier below taken
    rw [List.forall_mem_cons]
    refine ⟨fun reqId created => ?_, fun u member reqId created => ?_⟩
    · have valid := reachable_valid earlier
      obtain ⟨_, async, _, _, rfl, admitted, _⟩ :=
        (steps_of_step valid taken).of_createdId created
      have found := Globals.request?_afterCreate valid async t.pre.globals.newId
      rw [if_pos rfl, ← admitted] at found
      obtain ⟨bound, _⟩ := List.getElem?_eq_some_iff.mp (Globals.request?_eq_some.mp found).1
      rwa [← length_eq_peak (earlier.step taken)]
    · exact Nat.lt_of_lt_of_le (below u member reqId created) (Nat.le_max_right _ _)

/-- Three creates, two deletes and a create: there have been three at one time. -/
theorem slots_eq_peak_session :
    ∃ history process, (threads Nat).Run history process ∧
      (history.map fun t => t.action).reverse = createSync 0 ++ createSync 1 ++ createSync 2 ++
        [.call 0 offline 0x10000001 .deleteRequest, .call 0 offline 0x10000003 .deleteRequest] ++
        createSync 1 ∧
      process.globals.gAuthRequests.length = 3 ∧
      process.globals.gAuthRequests.length = peakLive history ∧
      ∀ t ∈ history, ∀ reqId, createdId t = some reqId → slotOf reqId < peakLive history := by
  have run : (threads Nat).Run _ _ := .of_exec rfl (createSync 0 ++ createSync 1 ++ createSync 2 ++
    [.call 0 offline 0x10000001 .deleteRequest, .call 0 offline 0x10000003 .deleteRequest] ++
    createSync 1) rfl
  exact ⟨_, _, run, rfl, rfl, slots_eq_peak run⟩

end Slots

end LayraPS4.NpAuth
