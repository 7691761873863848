/-
**Blocks of an arena.**

A block is an interval of addresses. `WellPlaced arena blocks` is what a memory allocator owes its
callers: the blocks it hands out lie in the arena and no two of them share an address.

`doubling_length_le` bounds the number of sizes of which each is at least twice, or at most half,
each other.
-/

import Mathlib

namespace LayraPS4.Arena

structure Block where
  start : Nat
  size : Nat
  deriving DecidableEq, Repr

def Block.addresses (block : Block) : Set Nat := Set.Ico block.start (block.start + block.size)

structure WellPlaced (arena : Block) (blocks : List Block) : Prop where
  inside : ∀ block ∈ blocks, block.addresses ⊆ arena.addresses
  disjoint : blocks.Pairwise fun block other => Disjoint block.addresses other.addresses

variable {arena block other : Block}

theorem addresses_subset_iff :
    block.addresses ⊆ arena.addresses ↔
      block.size = 0 ∨
        arena.start ≤ block.start ∧ block.start + block.size ≤ arena.start + arena.size := by
  rcases Nat.eq_zero_or_pos block.size with empty | positive
  · simp [Block.addresses, empty]
  · unfold Block.addresses
    rw [Set.Ico_subset_Ico_iff (by omega)]
    omega

theorem addresses_disjoint_iff :
    Disjoint block.addresses other.addresses ↔
      min (block.start + block.size) (other.start + other.size) ≤ max block.start other.start :=
  Set.Ico_disjoint_Ico

/-- Twice a number has another logarithm. -/
theorem log_ne_of_doubling {small large : Nat} (positive : 0 < small)
    (doubled : 2 * small ≤ large) : Nat.log 2 small ≠ Nat.log 2 large := by
  have grown : Nat.log 2 (small * 2) ≤ Nat.log 2 large := Nat.log_mono_right (by omega)
  rw [Nat.log_mul_base (by decide) (by omega)] at grown
  omega

/-- **Positive sizes that differ by doubling, below `2 ^ k`: there are at most `k`.** Their
logarithms are distinct and below `k`. -/
theorem doubling_length_le {k : Nat} {sizes : List Nat} (positive : ∀ size ∈ sizes, 0 < size)
    (bounded : ∀ size ∈ sizes, size < 2 ^ k)
    (doubling : sizes.Pairwise fun size size' => 2 * size ≤ size' ∨ 2 * size' ≤ size) :
    sizes.length ≤ k := by
  have distinct : (sizes.map (Nat.log 2)).Nodup := by
    refine List.pairwise_map.mpr (doubling.imp_of_mem ?_)
    rintro size size' member member' (doubled | doubled)
    · exact log_ne_of_doubling (positive _ member) doubled
    · exact (log_ne_of_doubling (positive _ member') doubled).symm
  have below : sizes.map (Nat.log 2) ⊆ List.range k := by
    intro log member
    obtain ⟨size, here, rfl⟩ := List.mem_map.mp member
    exact List.mem_range.mpr (Nat.log_lt_of_lt_pow (positive _ here).ne' (bounded _ here))
  calc sizes.length = (sizes.map (Nat.log 2)).length := (List.length_map _).symm
    _ ≤ (List.range k).length := (List.subperm_of_subset distinct below).length_le
    _ = k := List.length_range

end LayraPS4.Arena
