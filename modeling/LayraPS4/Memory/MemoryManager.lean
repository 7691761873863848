/-
**`MemoryManager`** (`memorymanager.h`, `memorymanager.cpp`): the guest memory allocator.

`init` allocates the arena; `allocateMemory` adds the size it is asked for to a copy of `memory` and
returns the sum. Nothing records what has been handed out. (The definition in the `.cpp` file is
declared `void` but returns the pointer; the header's `uint8_t*` is what is meant.)

An address is a number, and the arena stands low enough in the address space for an address
`UInt32` bytes above it to exist.
-/

import LayraPS4.Library.Arena
import LayraPS4.Library.Runs

namespace LayraPS4.Memory

open Arena Runs

structure MemoryManager where
  memory : Nat
  deriving DecidableEq, Repr

/-- The size of the array `init` allocates. -/
def arenaSize : Nat := 0x10000000

namespace MemoryManager

/-- `init`: `new` returned the address `allocated`. -/
def init (allocated : Nat) : MemoryManager := { memory := allocated }

def allocateMemory (manager : MemoryManager) (size : UInt32) : Nat × MemoryManager :=
  let ptr := manager.memory
  let ptr := ptr + size.toNat
  (ptr, manager)

end MemoryManager

/-- Runs of `allocateMemory` on a manager whose arena `init` allocated at the address. -/
def allocations (allocated : Nat) : System MemoryManager UInt32 Nat Empty where
  start manager := manager = .init allocated
  step manager size := .ok (manager.allocateMemory size)

abbrev Calls := History MemoryManager UInt32 Nat

/-- The blocks a run's calls handed out. -/
def handedOut (calls : Calls) : List Block := calls.map fun call => ⟨call.answer, call.action.toNat⟩

/-- The sizes a run's calls asked for. -/
def sizes (calls : Calls) : List Nat := calls.map fun call => call.action.toNat

/-! ### One call -/

variable {allocated : Nat} {calls : Calls} {manager : MemoryManager}

theorem memory_eq (run : (allocations allocated).Run calls manager) :
    manager.memory = allocated := by
  refine run.invariant (fun manager => manager.memory = allocated) ?_ ?_
  · rintro _ rfl
    rfl
  · rintro _ _ _ _ kept taken
    cases taken
    exact kept

/-- Every block starts its own size above the start of the arena. -/
theorem handedOut_eq (run : (allocations allocated).Run calls manager) :
    handedOut calls = (sizes calls).map fun size => ⟨allocated + size, size⟩ := by
  unfold handedOut sizes
  rw [List.map_map]
  apply List.map_congr_left
  rintro ⟨pre, size, ptr, post⟩ member
  obtain ⟨⟨_, earlier⟩, taken⟩ := run.of_mem member
  have returned : pre.memory + size.toNat = ptr := congrArg Prod.fst (Except.ok.inj taken)
  show (⟨ptr, size.toNat⟩ : Block) = ⟨allocated + size.toNat, size.toNat⟩
  rw [← returned, show pre.memory = allocated from memory_eq earlier]

/-- A block lies in the arena exactly when its size is at most half of it. -/
theorem inside_iff {size : Nat} :
    Block.addresses ⟨allocated + size, size⟩ ⊆ Block.addresses ⟨allocated, arenaSize⟩ ↔
      2 * size ≤ arenaSize := by
  rw [addresses_subset_iff]
  dsimp only
  omega

/-- Two blocks share no address exactly when one size is at least twice the other. -/
theorem disjoint_iff {size size' : Nat} :
    Disjoint (Block.addresses ⟨allocated + size, size⟩)
        (Block.addresses ⟨allocated + size', size'⟩) ↔
      2 * size ≤ size' ∨ 2 * size' ≤ size := by
  rw [addresses_disjoint_iff]
  dsimp only
  omega

/-! ### Runs -/

/-- No size is over half the arena, and of any two one is at least twice the other. -/
structure Spread (sizes : List Nat) : Prop where
  half : ∀ size ∈ sizes, 2 * size ≤ arenaSize
  doubling : sizes.Pairwise fun size size' => 2 * size ≤ size' ∨ 2 * size' ≤ size

theorem wellPlaced_map_iff {sizes : List Nat} :
    WellPlaced ⟨allocated, arenaSize⟩ (sizes.map fun size => ⟨allocated + size, size⟩) ↔
      Spread sizes := by
  constructor
  · rintro ⟨inside, disjoint⟩
    rw [List.forall_mem_map] at inside
    rw [List.pairwise_map] at disjoint
    exact ⟨fun size member => inside_iff.mp (inside size member), disjoint.imp disjoint_iff.mp⟩
  · rintro ⟨half, doubling⟩
    refine ⟨?_, ?_⟩
    · rw [List.forall_mem_map]
      exact fun size member => inside_iff.mpr (half size member)
    · rw [List.pairwise_map]
      exact doubling.imp disjoint_iff.mpr

/-- **When the blocks of a run lie in the arena and are disjoint.** -/
theorem handedOut_wellPlaced_iff (run : (allocations allocated).Run calls manager) :
    WellPlaced ⟨allocated, arenaSize⟩ (handedOut calls) ↔ Spread (sizes calls) := by
  rw [handedOut_eq run]
  exact wellPlaced_map_iff

/-- Such a run of calls for at least a byte each is short. -/
theorem calls_le (run : (allocations allocated).Run calls manager)
    (positive : ∀ call ∈ calls, 0 < call.action)
    (placed : WellPlaced ⟨allocated, arenaSize⟩ (handedOut calls)) : calls.length ≤ 28 := by
  rw [handedOut_eq run, wellPlaced_map_iff] at placed
  rw [← show (sizes calls).length = calls.length from List.length_map _]
  refine doubling_length_le ?_ ?_ placed.doubling
  · intro size member
    obtain ⟨call, here, rfl⟩ := List.mem_map.mp member
    exact UInt32.lt_iff_toNat_lt.mp (positive call here)
  · intro size member
    have half := placed.half size member
    unfold arenaSize at half
    omega

/-- Three calls, each for twice what the one before asked for. -/
theorem handedOut_wellPlaced_iff_session :
    ∃ calls manager, (allocations 0x10000).Run calls manager ∧ calls.length = 3 ∧
      (WellPlaced ⟨0x10000, arenaSize⟩ (handedOut calls) ↔ Spread (sizes calls)) := by
  have run : (allocations 0x10000).Run _ _ :=
    .of_exec (show (allocations 0x10000).start (.init 0x10000) from rfl)
      [0x1000, 0x2000, 0x4000] rfl
  exact ⟨_, _, run, rfl, handedOut_wellPlaced_iff run⟩

/-- Two calls for a page get the same page. -/
theorem pages_overlap :
    ∃ calls manager, (allocations 0x10000).Run calls manager ∧
      (∀ call ∈ calls, 0 < call.action) ∧
      handedOut calls = [⟨0x11000, 0x1000⟩, ⟨0x11000, 0x1000⟩] ∧
      ¬ WellPlaced ⟨0x10000, arenaSize⟩ (handedOut calls) := by
  have run : (allocations 0x10000).Run _ _ :=
    .of_exec (show (allocations 0x10000).start (.init 0x10000) from rfl) [0x1000, 0x1000] rfl
  refine ⟨_, _, run, by decide, rfl, ?_⟩
  rintro ⟨_, disjoint⟩
  have shared := (List.pairwise_cons.mp disjoint).1 _ List.mem_cons_self
  rw [addresses_disjoint_iff] at shared
  exact absurd shared (by decide)

/-! ### How many blocks there can be -/

/-- Any sizes can be asked for. -/
theorem run_of_sizes (allocated : Nat) (asked : List UInt32) :
    ∃ calls, (allocations allocated).Run calls (.init allocated) ∧
      (calls.map fun call => call.action) = asked := by
  induction asked with
  | nil => exact ⟨[], .start rfl, rfl⟩
  | cons size asked ih =>
      obtain ⟨calls, run, same⟩ := ih
      have taken : (allocations allocated).step (.init allocated) size =
          .ok (allocated + size.toNat, .init allocated) := rfl
      exact ⟨_, run.step taken, congrArg (size :: ·) same⟩

/-- The powers of two below `2 ^ k`. -/
def powers (k : Nat) : List UInt32 := (List.range k).map fun exponent => UInt32.ofNat (2 ^ exponent)

theorem powers_toNat {k : Nat} (small : k ≤ 32) :
    (powers k).map UInt32.toNat = (List.range k).map (2 ^ ·) := by
  unfold powers
  rw [List.map_map]
  apply List.map_congr_left
  intro exponent member
  have below : 2 ^ exponent < 2 ^ 32 :=
    Nat.pow_lt_pow_right (by decide) ((List.mem_range.mp member).trans_le small)
  exact UInt32.toNat_ofNat_of_lt' below

theorem spread_powers : Spread ((List.range 28).map (2 ^ ·)) := by
  refine ⟨?_, ?_⟩
  · rw [List.forall_mem_map]
    intro exponent member
    rw [List.mem_range] at member
    calc 2 * 2 ^ exponent = 2 ^ (exponent + 1) := (Nat.pow_succ').symm
      _ ≤ 2 ^ 28 := Nat.pow_le_pow_right (by decide) member
      _ = arenaSize := rfl
  · refine List.pairwise_map.mpr (List.pairwise_lt_range.imp ?_)
    intro exponent exponent' before
    left
    calc 2 * 2 ^ exponent = 2 ^ (exponent + 1) := (Nat.pow_succ').symm
      _ ≤ 2 ^ exponent' := Nat.pow_le_pow_right (by decide) before

/-- **The most blocks the arena can serve**: 28 calls for at least a byte each, and no more, can get
blocks that lie in the arena and are disjoint. -/
theorem most_blocks (allocated : Nat) :
    IsGreatest {count | ∃ calls manager, (allocations allocated).Run calls manager ∧
      (∀ call ∈ calls, 0 < call.action) ∧
      WellPlaced ⟨allocated, arenaSize⟩ (handedOut calls) ∧ calls.length = count} 28 := by
  refine ⟨?_, ?_⟩
  · obtain ⟨calls, run, asked⟩ := run_of_sizes allocated (powers 28)
    have sizes_eq : sizes calls = (List.range 28).map (2 ^ ·) := by
      rw [← powers_toNat (by decide), ← asked, List.map_map]
      rfl
    refine ⟨calls, _, run, ?_, ?_, ?_⟩
    · intro call member
      have here : call.action.toNat ∈ sizes calls := List.mem_map.mpr ⟨call, member, rfl⟩
      rw [sizes_eq] at here
      obtain ⟨exponent, _, power⟩ := List.mem_map.mp here
      rw [UInt32.lt_iff_toNat_lt, ← power]
      exact Nat.two_pow_pos exponent
    · rw [handedOut_eq run, wellPlaced_map_iff, sizes_eq]
      exact spread_powers
    · rw [← show (sizes calls).length = calls.length from List.length_map _, sizes_eq,
        List.length_map, List.length_range]
  · rintro count ⟨calls, manager, run, positive, placed, rfl⟩
    exact calls_le run positive placed

end LayraPS4.Memory
