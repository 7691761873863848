/-
**Byte order.** A word of a given number of bytes, as a number, and its bytes in memory.

* `memory order width word`: the bytes a host of that byte order keeps the word as.
* `network order width word`: the word whose bytes in the host's memory are the bytes of `word` from
  most to least significant (`memory_network`). Doing it twice gives the word back
  (`network_network`).
* `littleEndian_halves`, `bigEndian_halves`: the bytes of a word of two halves.
-/

import Mathlib.Algebra.Order.Group.Nat
import Mathlib.Tactic.Ring

namespace LayraPS4.Bytes

/-- Whether the least or the most significant byte of a word has the lowest address. -/
inductive ByteOrder
  | little
  | big
  deriving DecidableEq, Repr

/-- The lowest `width` bytes of a number, least significant first. -/
def littleEndian : Nat → Nat → List UInt8
  | 0, _ => []
  | width + 1, word => UInt8.ofNat word :: littleEndian width (word / 256)

/-- The lowest `width` bytes of a number, most significant first. -/
def bigEndian (width word : Nat) : List UInt8 := (littleEndian width word).reverse

/-- The number with these bytes, least significant first. -/
def ofLittleEndian : List UInt8 → Nat
  | [] => 0
  | byte :: bytes => byte.toNat + 256 * ofLittleEndian bytes

/-- The bytes of a word in a host's memory, by address. -/
def memory (order : ByteOrder) (width word : Nat) : List UInt8 :=
  match order with
  | .little => littleEndian width word
  | .big => bigEndian width word

/-- The word with the bytes reversed. -/
def byteSwap (width word : Nat) : Nat := ofLittleEndian (bigEndian width word)

/-- Host order to network order and back. -/
def network (order : ByteOrder) (width word : Nat) : Nat :=
  match order with
  | .little => byteSwap width word
  | .big => word

/-! ### Bytes and numbers -/

@[simp] theorem littleEndian_length (width word : Nat) :
    (littleEndian width word).length = width := by
  induction width generalizing word with
  | zero => rfl
  | succ width ih => rw [littleEndian, List.length_cons, ih]

@[simp] theorem bigEndian_length (width word : Nat) : (bigEndian width word).length = width := by
  rw [bigEndian, List.length_reverse, littleEndian_length]

theorem ofLittleEndian_lt (bytes : List UInt8) : ofLittleEndian bytes < 256 ^ bytes.length := by
  induction bytes with
  | nil => exact Nat.one_pos
  | cons byte bytes ih =>
      have small := byte.toNat_lt
      rw [ofLittleEndian, List.length_cons, Nat.pow_succ]
      omega

/-- Bytes are those of their number. -/
theorem littleEndian_ofLittleEndian {bytes : List UInt8} {width : Nat}
    (length : bytes.length = width) : littleEndian width (ofLittleEndian bytes) = bytes := by
  subst length
  induction bytes with
  | nil => rfl
  | cons byte bytes ih =>
      have small := byte.toNat_lt
      have low : UInt8.ofNat (byte.toNat + 256 * ofLittleEndian bytes) = byte := by
        apply UInt8.toNat_inj.mp
        rw [UInt8.toNat_ofNat']
        omega
      have high : (byte.toNat + 256 * ofLittleEndian bytes) / 256 = ofLittleEndian bytes := by
        omega
      rw [List.length_cons, littleEndian, ofLittleEndian, low, high, ih]

/-- A number below `256 ^ width` is that of its bytes. -/
theorem ofLittleEndian_littleEndian {width word : Nat} (fits : word < 256 ^ width) :
    ofLittleEndian (littleEndian width word) = word := by
  induction width generalizing word with
  | zero =>
      rw [Nat.pow_zero] at fits
      rw [littleEndian, ofLittleEndian]
      omega
  | succ width ih =>
      rw [Nat.pow_succ] at fits
      have low : (UInt8.ofNat word).toNat = word % 256 := UInt8.toNat_ofNat'
      rw [littleEndian, ofLittleEndian, ih (by omega), low]
      omega

theorem littleEndian_injective {width word word' : Nat} (fits : word < 256 ^ width)
    (fits' : word' < 256 ^ width) (same : littleEndian width word = littleEndian width word') :
    word = word' := by
  rw [← ofLittleEndian_littleEndian fits, same, ofLittleEndian_littleEndian fits']

theorem bigEndian_injective {width word word' : Nat} (fits : word < 256 ^ width)
    (fits' : word' < 256 ^ width) (same : bigEndian width word = bigEndian width word') :
    word = word' :=
  littleEndian_injective fits fits' (List.reverse_inj.mp same)

/-! ### Network order -/

theorem littleEndian_byteSwap (width word : Nat) :
    littleEndian width (byteSwap width word) = bigEndian width word :=
  littleEndian_ofLittleEndian (bigEndian_length width word)

theorem byteSwap_lt (width word : Nat) : byteSwap width word < 256 ^ width := by
  have bound := ofLittleEndian_lt (bigEndian width word)
  rwa [bigEndian_length] at bound

theorem byteSwap_byteSwap {width word : Nat} (fits : word < 256 ^ width) :
    byteSwap width (byteSwap width word) = word := by
  rw [byteSwap, bigEndian, littleEndian_byteSwap, bigEndian, List.reverse_reverse]
  exact ofLittleEndian_littleEndian fits

theorem network_lt {order : ByteOrder} {width word : Nat} (fits : word < 256 ^ width) :
    network order width word < 256 ^ width := by
  cases order with
  | little => exact byteSwap_lt width word
  | big => exact fits

/-- **A word in network order has its bytes in memory from most to least significant**, on either
host. -/
theorem memory_network (order : ByteOrder) (width word : Nat) :
    memory order width (network order width word) = bigEndian width word := by
  cases order with
  | little => exact littleEndian_byteSwap width word
  | big => rfl

theorem network_network {order : ByteOrder} {width word : Nat} (fits : word < 256 ^ width) :
    network order width (network order width word) = word := by
  cases order with
  | little => exact byteSwap_byteSwap fits
  | big => rfl

/-! ### Halves -/

theorem littleEndian_halves {width high low : Nat} (fits : low < 256 ^ width) :
    littleEndian (width + width) (high * 256 ^ width + low) =
      littleEndian width low ++ littleEndian width high := by
  suffices ∀ width', littleEndian (width + width') (high * 256 ^ width + low) =
      littleEndian width low ++ littleEndian width' high from this width
  intro width'
  induction width generalizing low with
  | zero =>
      rw [Nat.pow_zero] at fits ⊢
      rw [Nat.zero_add, littleEndian, List.nil_append, show high * 1 + low = high by omega]
  | succ width ih =>
      rw [Nat.pow_succ] at fits
      have word : high * 256 ^ (width + 1) + low = 256 * (high * 256 ^ width) + low := by
        rw [Nat.pow_succ]
        ring
      have byte : UInt8.ofNat (high * 256 ^ (width + 1) + low) = UInt8.ofNat low := by
        apply UInt8.toNat_inj.mp
        rw [UInt8.toNat_ofNat', UInt8.toNat_ofNat', word]
        omega
      have rest : (high * 256 ^ (width + 1) + low) / 256 = high * 256 ^ width + low / 256 := by
        rw [word]
        omega
      rw [Nat.add_right_comm, littleEndian, littleEndian, byte, rest, ih (by omega),
        List.cons_append]

theorem bigEndian_halves {width high low : Nat} (fits : low < 256 ^ width) :
    bigEndian (width + width) (high * 256 ^ width + low) =
      bigEndian width high ++ bigEndian width low := by
  rw [bigEndian, littleEndian_halves fits, List.reverse_append]
  rfl

end LayraPS4.Bytes
