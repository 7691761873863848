/-
**A vector of slots reached through 32-bit handles.**

The handle of a slot is its index on top of a base, in wrapping arithmetic, and the index is read
back the same way and compared as a `size_t`; below `2 ^ 31` slots the two are inverse. A new entry
takes the first free slot, or a new one at the end (`put`); the number of slots in use follows.
-/

import LayraPS4.Library.Cxx
import Mathlib.Data.List.Basic
import Mathlib.Data.Nat.Count
import Mathlib.Order.Bounds.Basic

namespace LayraPS4.SlotVector

open Cxx

/-! ### Handles -/

section Handles

variable (base : Int32)

def handleOf (index : Nat) : Int32 := Int32.ofNat index + base + 1

def indexOf (handle : Int32) : Nat := asSize (handle - base - 1)

theorem indexOf_injective : Function.Injective (indexOf base) := by
  intro first second same
  have differences : first - base - 1 = second - base - 1 := asSize_injective same
  calc first = first - base - 1 + base + 1 := by grind
    _ = second - base - 1 + base + 1 := by rw [differences]
    _ = second := by grind

theorem indexOf_handleOf {index : Nat} (small : index < 0x80000000) :
    indexOf base (handleOf base index) = index := by
  have difference : handleOf base index - base - 1 = Int32.ofNat index := by
    unfold handleOf
    grind
  rw [indexOf, difference, asSize_ofNat small]

theorem handleOf_indexOf {handle : Int32} (small : indexOf base handle < 0x80000000) :
    handleOf base (indexOf base handle) = handle :=
  indexOf_injective base (indexOf_handleOf base small)

end Handles

/-! ### Slots -/

section Slots

variable {Slot : Type} (used : Slot → Bool)

/-- The first slot that is free, or the one past the end. -/
def firstFree (slots : List Slot) : Nat := slots.findIdx fun slot => !used slot

/-- Fill a slot, or append one. -/
def put (slots : List Slot) (index : Nat) (slot : Slot) : List Slot :=
  if index = slots.length then slots ++ [slot] else slots.set index slot

theorem firstFree_cons (slot : Slot) (slots : List Slot) :
    firstFree used (slot :: slots) = if used slot then firstFree used slots + 1 else 0 := by
  unfold firstFree
  rw [List.findIdx_cons]
  cases used slot <;> rfl

theorem firstFree_le (slots : List Slot) : firstFree used slots ≤ slots.length :=
  List.findIdx_le_length

theorem firstFree_free {slots : List Slot} {slot : Slot}
    (found : slots[firstFree used slots]? = some slot) : used slot = false := by
  obtain ⟨bound, rfl⟩ := List.getElem?_eq_some_iff.mp found
  have free := List.findIdx_getElem (p := fun slot => !used slot) (w := bound)
  rwa [Bool.not_eq_true'] at free

theorem used_of_lt_firstFree {slots : List Slot} {index : Nat} (bound : index < slots.length)
    (before : index < firstFree used slots) : used slots[index] = true := by
  have notFree := List.not_of_lt_findIdx before
  rwa [Bool.not_eq_false'] at notFree

/-- The slots before the first free one are in use. -/
theorem firstFree_le_countP (slots : List Slot) : firstFree used slots ≤ slots.countP used := by
  induction slots with
  | nil => exact Nat.le_refl 0
  | cons slot rest ih =>
      rw [firstFree_cons, List.countP_cons]
      split_ifs <;> omega

/-- There is no free slot exactly when every slot is in use. -/
theorem firstFree_eq_length_iff {slots : List Slot} :
    firstFree used slots = slots.length ↔ slots.countP used = slots.length := by
  unfold firstFree
  rw [List.findIdx_eq_length, List.countP_eq_length]
  simp only [Bool.not_eq_false']

theorem getElem?_put {slots : List Slot} {index : Nat} (within : index ≤ slots.length)
    (slot : Slot) (other : Nat) :
    (put slots index slot)[other]? = if other = index then some slot else slots[other]? := by
  unfold put
  by_cases last : index = slots.length
  · rw [if_pos last, List.getElem?_append]
    by_cases same : other = index
    · simp [same, last]
    · rw [if_neg same]
      split
      · rfl
      · rename_i past
        rw [List.getElem?_eq_none (by simp; omega), List.getElem?_eq_none (by omega)]
  · rw [if_neg last, List.getElem?_set]
    by_cases same : index = other
    · rw [if_pos same, if_pos (by omega), if_pos same.symm]
    · rw [if_neg same, if_neg (Ne.symm same)]

theorem length_put (slots : List Slot) (index : Nat) (slot : Slot) :
    (put slots index slot).length = if index = slots.length then slots.length + 1
      else slots.length := by
  unfold put
  split <;> simp

/-- Filling a free slot, or a new one, puts one more slot in use. -/
theorem countP_put {slots : List Slot} {index : Nat} {slot : Slot}
    (free : ∀ old, slots[index]? = some old → used old = false) (within : index ≤ slots.length)
    (uses : used slot = true) :
    (put slots index slot).countP used = slots.countP used + 1 := by
  unfold put
  by_cases last : index = slots.length
  · rw [if_pos last, List.countP_append, List.countP_singleton, if_pos uses]
  · have bound : index < slots.length := by omega
    rw [if_neg last, List.countP_set bound, free _ (List.getElem?_eq_getElem bound), uses]
    simp

/-- Replacing a slot in use counts it out and the new one in. -/
theorem countP_set_used {slots : List Slot} {index : Nat} {old : Slot}
    (found : slots[index]? = some old) (uses : used old = true) (slot : Slot) :
    (slots.set index slot).countP used + 1 = slots.countP used + (if used slot then 1 else 0) := by
  obtain ⟨bound, rfl⟩ := List.getElem?_eq_some_iff.mp found
  have positive : 0 < slots.countP used := List.countP_pos_iff.mpr ⟨_, List.getElem_mem bound, uses⟩
  rw [List.countP_set bound, uses]
  simp only [if_true]
  omega

/-- There is a slot with this index, and it is in use. -/
def UsedAt (slots : List Slot) (index : Nat) : Prop := (slots[index]?.any used) = true

instance (slots : List Slot) : DecidablePred (UsedAt used slots) := fun _ =>
  inferInstanceAs (Decidable (_ = true))

variable {used}

theorem UsedAt.lt {slots : List Slot} {index : Nat} (here : UsedAt used slots index) :
    index < slots.length := by
  by_contra past
  rw [UsedAt, List.getElem?_eq_none (Nat.le_of_not_lt past)] at here
  cases here

theorem usedAt_iff {slots : List Slot} {index : Nat} :
    UsedAt used slots index ↔ ∃ slot, slots[index]? = some slot ∧ used slot = true :=
  Option.any_eq_true _ _

/-- The first free slot is the least index of one that is not in use. -/
theorem isLeast_firstFree (slots : List Slot) :
    IsLeast {index | ¬ UsedAt used slots index} (firstFree used slots) := by
  refine ⟨fun here => ?_, fun index free => ?_⟩
  · obtain ⟨slot, found, uses⟩ := usedAt_iff.mp here
    exact absurd (firstFree_free used found) (by simp [uses])
  · by_contra before
    have bound : index < slots.length := by
      have := firstFree_le used slots
      omega
    have uses := used_of_lt_firstFree used bound (Nat.lt_of_not_le before)
    exact free (usedAt_iff.mpr ⟨_, List.getElem?_eq_getElem bound, uses⟩)

/-- The slots in use are counted by their indices. -/
theorem count_usedAt (slots : List Slot) :
    Nat.count (UsedAt used slots) slots.length = slots.countP used := by
  induction slots with
  | nil => rfl
  | cons slot rest ih =>
      rw [List.length_cons, Nat.count_succ', List.countP_cons, ← ih]
      rfl

end Slots

end LayraPS4.SlotVector
