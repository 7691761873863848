/-
**`CPUEmulator`** (`cpuemulator.h`, `cpuemulator.cpp`): the processor of the emulated console.

`update` hands `executeInstruction` the program counter itself, not what memory holds at it, and then
adds four to it. `CPUState` is not in the repository; its registers are taken to be unsigned and of any
width from the 32 bits of an instruction up.

`executed_iff`: over any run, what `update` executes is never `ADD` or `SUB`, and is `NOP` exactly each
time the low word of the counter has come round to zero; the stack pointer never moves.
-/

import LayraPS4.Library.Cxx
import LayraPS4.Library.Runs

namespace LayraPS4.Cpu

open Cxx Runs

/-! ### The code -/

/-- The two registers the code uses. -/
structure CPUState (width : Nat) where
  pc : BitVec width
  sp : BitVec width
  deriving DecidableEq, Repr

/-- `cpu_state` points to nothing before `init`. -/
structure CPUEmulator (width : Nat) where
  cpuState : Ptr (CPUState width)
  deriving DecidableEq, Repr

/-- The cases of the `switch`. -/
inductive Instruction
  | nop
  | add
  | sub
  deriving DecidableEq, Repr

namespace CPUEmulator

variable {width : Nat}

def init (_ : CPUEmulator width) : CPUEmulator width where
  cpuState := some { pc := .ofNat width 0x10000000, sp := .ofNat width 0x10000000 }

/-- The case taken, if any. None of them does anything. -/
def executeInstruction (instruction : BitVec 32) : Option Instruction :=
  match instruction with
  | 0x00000000#32 => some .nop
  | 0x00000001#32 => some .add
  | 0x00000002#32 => some .sub
  | _ => none

def update (emulator : CPUEmulator width) :
    Except Fault (Option Instruction × CPUEmulator width) := do
  let state ← deref emulator.cpuState
  -- the argument is converted to `uint32_t`
  let executed := executeInstruction (state.pc.setWidth 32)
  return (executed, { emulator with cpuState := some { state with pc := state.pc + .ofNat width 4 } })

end CPUEmulator

/-- The calls of the emulator. -/
inductive CpuCall
  | init
  | update
  deriving DecidableEq, Repr

/-- Calls of a `CPUEmulator`; each answers with what it executed. -/
def cpu (width : Nat) : System (CPUEmulator width) CpuCall (Option Instruction) Fault where
  start emulator := emulator.cpuState = none
  step emulator
    | .init => .ok (none, emulator.init)
    | .update => emulator.update

abbrev CpuStep (width : Nat) := Transition (CPUEmulator width) CpuCall (Option Instruction)

/-- How many updates there have been since the newest `init`, if there was one. -/
def updates {width : Nat} : List (CpuStep width) → Option Nat
  | [] => none
  | t :: older =>
      match t.action with
      | .init => some 0
      | .update => (updates older).map (· + 1)

/-! ### One update -/

section Update

variable {width : Nat} {emulator after : CPUEmulator width} {executed : Option Instruction}

/-- An update executes the counter's low word, and moves nothing but the counter. -/
theorem update_ok (updated : emulator.update = .ok (executed, after)) :
    ∃ state, emulator.cpuState = some state ∧
      executed = CPUEmulator.executeInstruction (state.pc.setWidth 32) ∧
      after.cpuState = some { state with pc := state.pc + .ofNat width 4 } := by
  rcases emulator with ⟨_ | state⟩
  · cases updated
  · cases updated
    exact ⟨state, rfl, rfl, rfl⟩

theorem executeInstruction_nop {instruction : BitVec 32} :
    CPUEmulator.executeInstruction instruction = some .nop ↔ instruction.toNat = 0 := by
  unfold CPUEmulator.executeInstruction
  split <;> simp_all [← BitVec.toNat_inj]

theorem executeInstruction_add {instruction : BitVec 32}
    (executed : CPUEmulator.executeInstruction instruction = some .add) : instruction.toNat = 1 := by
  unfold CPUEmulator.executeInstruction at executed
  split at executed <;> simp_all

theorem executeInstruction_sub {instruction : BitVec 32}
    (executed : CPUEmulator.executeInstruction instruction = some .sub) : instruction.toNat = 2 := by
  unfold CPUEmulator.executeInstruction at executed
  split at executed <;> simp_all

/-- The low word of a counter, in a register that has one. -/
theorem low_word (wide : 32 ≤ width) (count : Nat) :
    ((BitVec.ofNat width (0x10000000 + 4 * count)).setWidth 32).toNat =
      (0x10000000 + 4 * count) % 0x100000000 := by
  rw [BitVec.setWidth_ofNat_of_le wide, BitVec.toNat_ofNat]

end Update

/-! ### Runs -/

section Runs

variable {width : Nat} {history newer older : List (CpuStep width)} {t : CpuStep width}
  {emulator : CPUEmulator width}

/-- **The registers after a run.** -/
theorem cpuState_eq (run : (cpu width).Run history emulator) :
    emulator.cpuState = (updates history).map fun count =>
      ⟨BitVec.ofNat width (0x10000000 + 4 * count), .ofNat width 0x10000000⟩ := by
  refine run.history_invariant (fun history emulator =>
    emulator.cpuState = (updates history).map fun count =>
      (⟨BitVec.ofNat width (0x10000000 + 4 * count), .ofNat width 0x10000000⟩ : CPUState width)) ?_ ?_
  · exact fun _ begins => begins
  · rintro ⟨pre, action, answer, post⟩ older _ registers taken
    rcases action with _ | _
    · cases taken
      rfl
    · obtain ⟨state, here, _, moved⟩ := update_ok taken
      dsimp only at registers ⊢
      rw [registers] at here
      obtain ⟨count, counted, rfl⟩ := Option.map_eq_some_iff.mp here
      rw [moved, updates, counted]
      show some _ = some _
      congr 2
      rw [← BitVec.ofNat_add]
      congr 1

/-- **What the processor executes.** In any run, no update executes `ADD` or `SUB`. It executes `NOP`
exactly when the updates since the newest `init`, four bytes each, have taken the counter from its
first value round to zero. The stack pointer is always where `init` put it. -/
theorem executed_iff (wide : 32 ≤ width) (run : (cpu width).Run history emulator) :
    (∀ state, emulator.cpuState = some state → state.sp = .ofNat width 0x10000000) ∧
      ∀ newer t older, history = newer ++ t :: older → t.action = .update →
        t.answer ≠ some .add ∧ t.answer ≠ some .sub ∧
          (t.answer = some .nop ↔
            ∃ count, updates older = some count ∧ count % 0x40000000 = 0x3c000000) := by
  refine ⟨?_, ?_⟩
  · intro state here
    rw [cpuState_eq run] at here
    obtain ⟨count, _, rfl⟩ := Option.map_eq_some_iff.mp here
    rfl
  · rintro newer ⟨pre, action, answer, post⟩ older rfl rfl
    obtain ⟨earlier, taken, _⟩ := run.split.uncons
    obtain ⟨state, here, executed, _⟩ := update_ok taken
    dsimp only at here executed ⊢
    rw [cpuState_eq earlier] at here
    obtain ⟨count, counted, rfl⟩ := Option.map_eq_some_iff.mp here
    have word := low_word wide count
    rw [executed]
    refine ⟨fun add => ?_, fun sub => ?_, ?_⟩
    · have one := word.symm.trans (executeInstruction_add add)
      omega
    · have two := word.symm.trans (executeInstruction_sub sub)
      omega
    · rw [executeInstruction_nop, word, counted]
      simp only [Option.some.injEq, exists_eq_left']
      omega

/-- Three updates. -/
theorem executed_iff_session :
    ∃ history emulator, (cpu 64).Run history emulator ∧ history.length = 4 ∧
      (∀ state, emulator.cpuState = some state → state.sp = 0x10000000#64) ∧
      ∀ newer t older, history = newer ++ t :: older → t.action = .update →
        t.answer ≠ some .add ∧ t.answer ≠ some .sub ∧
          (t.answer = some .nop ↔
            ∃ count, updates older = some count ∧ count % 0x40000000 = 0x3c000000) := by
  have run : (cpu 64).Run _ _ :=
    .of_exec (show (cpu 64).start ⟨none⟩ from rfl) [.init, .update, .update, .update] rfl
  exact ⟨_, _, run, rfl, executed_iff (by decide) run⟩

end Runs

end LayraPS4.Cpu
