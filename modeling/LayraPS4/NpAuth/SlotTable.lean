/-
**The request table as the guest can tell it.**

The specification of the table: slots without end, all but finitely many without a request
(`SlotTable`). A create takes the least slot without one, and hands out its id, if that is an `s32`; a
call on an id acts on the request in its slot, or finds none; a slot without a request remembers one
thing, the `result` the next request in it starts with. There is no vector, no counter and no lookup.

`threads_refine_slots`: any number of threads, however their steps interleave, get the answers this
table gives them. So does a single thread (`singleThread_refines`).
-/

import LayraPS4.Library.Observation
import LayraPS4.NpAuth.SingleThread
import Mathlib.Data.Set.Finite.Lemmas
import Mathlib.Order.Lattice.Nat

set_option linter.unusedSectionVars false

namespace LayraPS4.NpAuth

open Cxx Runs SlotVector

/-! ### The specification -/

/-- A request that is there. -/
abbrev LiveRequest := {request : NpAuthRequest // request.live = true}

/-- A slot has a request, or the `result` for the next one. -/
inductive Slot
  | free (left : OrbisCode)
  | taken (request : LiveRequest)

namespace Slot

/-- What a slot of the vector holds. -/
def ofRequest (request : NpAuthRequest) : Slot :=
  if live : request.live = true then .taken ⟨request, live⟩ else .free request.result

def request? : Slot → Option NpAuthRequest
  | .free _ => none
  | .taken request => some request

/-- The `result` the slot holds, with or without a request. -/
def left : Slot → OrbisCode
  | .free left => left
  | .taken request => request.val.result

@[simp] theorem ofRequest_request? (request : NpAuthRequest) :
    (ofRequest request).request? = if request.live then some request else none := by
  unfold ofRequest
  split_ifs <;> rfl

@[simp] theorem ofRequest_left (request : NpAuthRequest) :
    (ofRequest request).left = request.result := by
  unfold ofRequest
  split_ifs <;> rfl

end Slot

/-- The slots, and whether the user is signed in. -/
@[ext] structure SlotTable where
  signedIn : Bool
  slot : Nat → Slot
  finite : {index | (slot index).request? ≠ none}.Finite

namespace SlotTable

variable (table : SlotTable)

/-- Nothing has been created. -/
def empty : SlotTable where
  signedIn := false
  slot _ := .free .ok
  finite := by simp [Slot.request?]

/-- How many slots have a request. -/
noncomputable def live : Nat := table.finite.toFinset.card

/-- The least slot without a request. -/
noncomputable def leastFree : Nat := sInf {index | (table.slot index).request? = none}

def set (index : Nat) (slot : Slot) : SlotTable where
  signedIn := table.signedIn
  slot := Function.update table.slot index slot
  finite := by
    refine (table.finite.insert index).subset fun other taken => ?_
    by_cases same : other = index
    · exact .inl same
    · rw [Set.mem_ofPred_eq, Function.update_of_ne same] at taken
      exact .inr taken

noncomputable def limitReached : Bool := decide (table.live = 16)

/-- A new request in the least free slot. The slots do not end, but their ids do: from slot
`0x6fffffff` on the id overflows. -/
noncomputable def create (async : Bool) : Except Fault (Int32 × SlotTable) := do
  let reqId ← requestId table.leastFree
  return (reqId, table.set table.leastFree
    (.taken ⟨⟨.ready, async, (table.slot table.leastFree).left⟩, rfl⟩))

/-- What a call does to the slot of its id. -/
def apply (reqId : Int32) : Effect → SlotTable
  | .keep => table
  | .write request => table.set (slotOf reqId) (.ofRequest request)
  | .remove request => table.set (slotOf reqId) (.free request.result)

/-- A call on an id sees the request in its slot. -/
def call (env : Env) (reqId : Int32) (entry : Entry) : Except Fault (Reply × SlotTable) :=
  (entry.outcome env table.signedIn (table.slot (slotOf reqId)).request?).map
    fun (reply, effect) => (reply, table.apply reqId effect)

def registerLib (psnSignedIn : Bool) : SlotTable := { table with signedIn := psnSignedIn }

end SlotTable

/-! ### What the globals show -/

namespace Globals

/-- What a slot holds; beyond the end of the vector, what a new one would start with. -/
def slotAt (globals : Globals) (index : Nat) : Slot :=
  match globals.gAuthRequests[index]? with
  | none => .free .ok
  | some request => .ofRequest request

section Slots

variable {globals : Globals}

theorem slotAt_request? (index : Nat) :
    (globals.slotAt index).request? = (globals.gAuthRequests[index]?).filter (·.live) := by
  unfold slotAt
  cases globals.gAuthRequests[index]? with
  | none => rfl
  | some request => exact Slot.ofRequest_request? request

theorem slotAt_slotOf (reqId : Int32) :
    (globals.slotAt (slotOf reqId)).request? = globals.request? reqId := slotAt_request? _

/-- The slots with a request are the used ones of the vector. -/
theorem slotAt_request?_ne_none (index : Nat) :
    (globals.slotAt index).request? ≠ none ↔ UsedAt (·.live) globals.gAuthRequests index := by
  rw [slotAt_request?, UsedAt]
  cases globals.gAuthRequests[index]? <;> simp [Option.filter]

end Slots

/-- **What the guest can tell of the globals.** -/
def table (globals : Globals) : SlotTable where
  signedIn := globals.gSignedIn
  slot := globals.slotAt
  finite := by
    refine (Set.finite_lt_nat globals.gAuthRequests.length).subset fun index taken => ?_
    exact ((slotAt_request?_ne_none index).mp taken).lt

variable {globals : Globals}

theorem table_live : globals.table.live = globals.liveCount := by
  have range : globals.table.finite.toFinset =
      {index ∈ Finset.range globals.gAuthRequests.length |
        UsedAt (·.live) globals.gAuthRequests index} := by
    ext index
    rw [Set.Finite.mem_toFinset, Finset.mem_filter, Finset.mem_range, Set.mem_ofPred_eq]
    exact (slotAt_request?_ne_none index).trans
      ⟨fun used => ⟨used.lt, used⟩, fun both => both.2⟩
  rw [SlotTable.live, range, ← Nat.count_eq_card_filter_range, count_usedAt]
  rfl

/-- The next create takes the least slot without a request. -/
theorem isLeast_freeSlot :
    IsLeast {index | (globals.slotAt index).request? = none} globals.freeSlot := by
  have free : {index | (globals.slotAt index).request? = none} =
      {index | ¬ UsedAt (·.live) globals.gAuthRequests index} := by
    ext index
    exact not_iff_not.mp (slotAt_request?_ne_none index |>.trans not_not.symm)
  rw [free]
  exact isLeast_firstFree _

theorem table_leastFree : globals.table.leastFree = globals.freeSlot := isLeast_freeSlot.csInf_eq

theorem slotAt_setRequest {slot : Nat} (bound : slot < globals.gAuthRequests.length)
    (request : NpAuthRequest) (index : Nat) :
    (globals.setRequest slot request).slotAt index =
      if index = slot then .ofRequest request else globals.slotAt index := by
  unfold slotAt setRequest
  dsimp only
  by_cases same : index = slot
  · rw [if_pos same, same, List.getElem?_set_self bound]
  · rw [if_neg same, List.getElem?_set_ne (Ne.symm same)]

/-- Writing the slot of a request. -/
theorem table_setRequest {reqId : Int32} {request : NpAuthRequest}
    (found : globals.request? reqId = some request) (after : NpAuthRequest) :
    (globals.setRequest (slotOf reqId) after).table =
      globals.table.set (slotOf reqId) (.ofRequest after) := by
  obtain ⟨bound, _⟩ := List.getElem?_eq_some_iff.mp (request?_eq_some.mp found).1
  ext index
  · rfl
  · rw [show (table _).slot index = _ from slotAt_setRequest bound after index]
    exact (Function.update_apply ..).symm

/-- What a call does to its request, it does to the slot. -/
theorem table_apply {reqId : Int32} {effect : Effect}
    (isOn : effect.On (globals.request? reqId)) :
    (effect.apply globals reqId).table = globals.table.apply reqId effect := by
  generalize found : globals.request? reqId = request at isOn
  cases isOn with
  | keep => rfl
  | write _ => exact table_setRequest found _
  | @remove request => exact @table_setRequest { globals with gActiveAuthRequests := _ } _ _ found _

theorem leftover_eq : globals.leftover = (globals.slotAt globals.freeSlot).left := by
  unfold leftover slotAt
  cases globals.gAuthRequests[globals.freeSlot]? with
  | none => rfl
  | some request => exact (Slot.ofRequest_left request).symm

theorem slotAt_afterCreate (async : Bool) (index : Nat) :
    (globals.afterCreate async).slotAt index = if index = globals.freeSlot then
      .taken ⟨globals.newRequest async, rfl⟩ else globals.slotAt index := by
  have within : globals.freeSlot ≤ globals.gAuthRequests.length := firstFree_le _ _
  unfold slotAt afterCreate
  dsimp only
  rw [getElem?_put within]
  split_ifs <;> rfl

theorem table_afterCreate (async : Bool) :
    (globals.afterCreate async).table = globals.table.set globals.freeSlot
      (.taken ⟨⟨.ready, async, (globals.slotAt globals.freeSlot).left⟩, rfl⟩) := by
  ext index
  · rfl
  · simp only [← leftover_eq]
    exact (slotAt_afterCreate async index).trans (Function.update_apply ..).symm

end Globals

/-! ### Calls and creates -/

section Steps

variable {globals : Globals}

theorem limitReached_table (valid : globals.Valid) :
    globals.table.limitReached = limitReached globals := by
  rw [Bool.eq_iff_iff, limitReached_iff valid, SlotTable.limitReached, Globals.table_live,
    decide_eq_true_eq]

/-- **The critical section of a create** fills the least free slot. -/
theorem createSection_table (valid : globals.Valid) (async : Bool) :
    globals.table.create async =
      (createSection globals async).map fun (reqId, next) => (reqId, next.table) := by
  rw [createSection_eq, valid.counter_fits, SlotTable.create, Globals.table_leastFree]
  cases requestId globals.freeSlot with
  | error fault => rfl
  | ok reqId =>
      exact congrArg (fun table => Except.ok (reqId, table)) (Globals.table_afterCreate async).symm

/-- **A call** acts on the request in the slot of its id. -/
theorem run_table (valid : globals.Valid) (env : Env) (reqId : Int32) (entry : Entry) :
    globals.table.call env reqId entry =
      (entry.run env globals reqId).map fun (reply, next) => (reply, next.table) := by
  rw [run_eq_outcome valid, SlotTable.call,
    show (globals.table.slot (slotOf reqId)).request? = _ from Globals.slotAt_slotOf reqId,
    show globals.table.signedIn = globals.gSignedIn from rfl]
  rcases out : entry.outcome env globals.gSignedIn (globals.request? reqId) with
    fault | ⟨reply, effect⟩
  · rfl
  · exact congrArg (fun table => Except.ok (reply, table))
      (Globals.table_apply (outcome_on out)).symm

end Steps

/-! ### One thread, and many -/

namespace SlotTable

/-- A whole call, as `Call.run` takes it. -/
noncomputable def run (table : SlotTable) : Call → Except Fault (Answer × SlotTable)
  | .create entry =>
      match entry.check with
      | .error code => .ok (.returned ⟨code, {}⟩, table)
      | .ok async =>
          if table.limitReached then .ok (.returned ⟨.requestMax, {}⟩, table)
          else (table.create async).map fun (reqId, next) => (.created reqId, next)
  | .request env reqId entry =>
      (table.call env reqId entry).map fun (reply, next) => (.returned reply, next)
  | .registerLib psnSignedIn => .ok (.registered, table.registerLib psnSignedIn)

end SlotTable

/-- One thread at the table. -/
noncomputable def slotCalls : System SlotTable Call Answer Fault where
  start table := table = .empty
  step := SlotTable.run

/-- The table, and the threads whose create has passed the limit. -/
structure SlotProcess (Thread : Type) where
  table : SlotTable := .empty
  creating : Thread → Option Bool := fun _ => none

variable {Thread : Type} [DecidableEq Thread]

/-- One atomic step, as `Process.step` takes it. -/
noncomputable def SlotProcess.step (process : SlotProcess Thread) :
    Action Thread → Except Halt (Answer × SlotProcess Thread)
  | .call thread env reqId entry =>
      if process.creating thread = none then
        match process.table.call env reqId entry with
        | .error fault => .error (.fault fault)
        | .ok (reply, table) => .ok (.returned reply, { process with table })
      else .error .notEnabled
  | .readLimit thread entry =>
      if process.creating thread = none then
        match entry.check with
        | .error code => .ok (.returned ⟨code, {}⟩, process)
        | .ok async =>
            if process.table.limitReached then .ok (.returned ⟨.requestMax, {}⟩, process)
            else .ok (.passed,
              { process with creating := Function.update process.creating thread (some async) })
      else .error .notEnabled
  | .createSection thread =>
      match process.creating thread with
      | none => .error .notEnabled
      | some async =>
          match process.table.create async with
          | .error fault => .error (.fault fault)
          | .ok (reqId, table) =>
              .ok (.created reqId, ⟨table, Function.update process.creating thread none⟩)
  | .registerLib psnSignedIn =>
      .ok (.registered, { process with table := process.table.registerLib psnSignedIn })

variable (Thread) in
/-- Any number of threads at the table. -/
noncomputable def slotThreads : System (SlotProcess Thread) (Action Thread) Answer Halt where
  start process := process = {}
  step := SlotProcess.step

/-- What the guest can tell of a process. -/
def Process.slots (process : Process Thread) : SlotProcess Thread :=
  ⟨process.globals.table, process.creating⟩

@[simp] theorem Process.slots_table (process : Process Thread) :
    process.slots.table = process.globals.table := rfl

@[simp] theorem Process.slots_creating (process : Process Thread) :
    process.slots.creating = process.creating := rfl

/-- A process as it is loaded shows the empty table. -/
theorem table_initial : ({} : Globals).table = .empty := by
  ext index <;> rfl

/-- A step of the threads is the step of the table. -/
theorem step_slots {process : Process Thread} (valid : process.globals.Valid)
    (action : Action Thread) :
    process.slots.step action =
      (process.step action).map fun (answer, next) => (answer, next.slots) := by
  cases action with
  | call thread env reqId entry =>
      rw [SlotProcess.step, Process.step, Process.slots_creating, Process.slots_table,
        run_table valid]
      split_ifs
      · rcases entry.run env process.globals reqId with fault | ⟨reply, next⟩ <;> rfl
      · rfl
  | readLimit thread entry =>
      rw [SlotProcess.step, Process.step, Process.slots_creating, Process.slots_table,
        limitReached_table valid]
      rcases entry.check with code | async
      · split_ifs <;> rfl
      · dsimp only
        split_ifs <;> rfl
  | createSection thread =>
      rw [SlotProcess.step, Process.step, Process.slots_creating, Process.slots_table]
      rcases process.creating thread with _ | async
      · rfl
      · dsimp only
        rw [createSection_table valid]
        rcases createSection process.globals async with fault | ⟨reqId, next⟩ <;> rfl
  | registerLib psnSignedIn => rfl

/-- A call of a single thread is the call at the table. -/
theorem run_slots {globals : Globals} (valid : globals.Valid) (call : Call) :
    globals.table.run call = (call.run globals).map fun (answer, next) => (answer, next.table) := by
  cases call with
  | create entry =>
      rw [SlotTable.run, Call.run, entry.run_eq]
      rcases entry.check with code | async
      · rfl
      · dsimp only
        rw [createNpAuthRequest, limitReached_table valid, createSection_table valid]
        split_ifs
        · rfl
        · rcases createSection globals async with fault | ⟨reqId, next⟩ <;> rfl
  | request env reqId entry =>
      rw [SlotTable.run, Call.run, run_table valid]
      rcases entry.run env globals reqId with fault | ⟨reply, next⟩ <;> rfl
  | registerLib psnSignedIn => rfl

/-- A call of a single thread keeps the two invariants. -/
theorem Globals.Fits.run_valid {globals next : Globals} {call : Call} {answer : Answer}
    (fits : globals.Fits) (valid : globals.Valid) (ran : call.run globals = .ok (answer, next)) :
    next.Valid := by
  have active := fits.active
  unfold requestLimit at active
  match call with
  | .create entry =>
      have made : ∃ reply, entry.run globals = .ok (reply, next) := by
        obtain ⟨_, made, _⟩ | ⟨_, made, _⟩ := Call.run_create ran
        · exact ⟨_, made⟩
        · exact ⟨_, made⟩
      obtain ⟨reply, made⟩ := made
      obtain ⟨_, _, _, rfl⟩ | ⟨_, _, _, _, rfl⟩ | ⟨async, _, _, _, rfl⟩ :=
        CreateEntry.run_cases made
      · exact valid
      · exact valid
      · exact valid.afterCreate
          (valid.freeSlot_lt_maxSlots (by unfold maxSlots; omega)) async
  | .request env reqId entry =>
      obtain ⟨reply, made, _⟩ := Call.run_request ran
      obtain ⟨effect, _, isOn, rfl⟩ := outcome_of_run valid made
      exact isOn.valid valid
  | .registerLib psnSignedIn =>
      cases ran
      exact ⟨valid.counted, valid.indexed⟩

/-- **A single thread refines the table.** -/
theorem singleThread_refines : Refines singleThread slotCalls
    (fun globals => globals.Valid ∧ globals.Fits) Globals.table where
  start := by
    rintro _ rfl
    exact ⟨⟨.empty false, by decide, by decide⟩, table_initial⟩
  keep _ _ _ _ good taken := ⟨good.2.run_valid good.1 taken, good.2.run good.1 taken⟩
  step _ call good := run_slots good.1 call

variable (Thread) in
/-- **The threads refine the table.** -/
theorem threads_refine : Refines (threads Thread) (slotThreads Thread)
    (fun process => process.globals.Valid) Process.slots where
  start := by
    rintro _ rfl
    exact ⟨.empty false, congrArg (SlotProcess.mk · _) table_initial⟩
  keep _ _ _ _ valid taken := (steps_of_step valid taken).valid valid
  step _ action valid := step_slots valid action

/-- **The threads are answered as by the table**, in every interleaving of any number of them, and
whatever they call. -/
theorem threads_refine_slots (actions : List (Action Thread)) :
    (threads Thread).observe {} actions = (slotThreads Thread).observe {} actions := by
  have valid : ({} : Process Thread).globals.Valid := .empty false
  have shown : ({} : Process Thread).slots = {} := congrArg (SlotProcess.mk · _) table_initial
  rw [(threads_refine Thread).observe_eq valid actions, shown]

end LayraPS4.NpAuth
