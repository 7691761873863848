/-
**C++ vocabulary.** Pointers that may be null, what is undefined, the two conversions of a signed
32-bit integer that the code relies on, and the few C string functions it calls. A `char` is a byte
and a `std::string` is any list of bytes.
-/

import Mathlib.Data.List.Infix
import Mathlib.Data.List.TakeWhile
import Mathlib.Logic.Function.Basic

namespace LayraPS4.Cxx

/-- What ends an execution: undefined behaviour, and an assertion that fails. -/
inductive Fault
  | nullDereference
  | outOfBounds
  | signedOverflow
  | assertionFailed
  deriving DecidableEq, Repr

/-- A pointer: `nullptr`, or what it points to. -/
abbrev Ptr (α : Type) := Option α

/-- `*pointer`. -/
def deref {α : Type} : Ptr α → Except Fault α
  | none => .error .nullDereference
  | some value => .ok value

/-- `vector[index]`. -/
def subscript {α : Type} (vector : List α) (index : Nat) : Except Fault α :=
  match vector[index]? with
  | none => .error .outOfBounds
  | some value => .ok value

theorem subscript_ok {α : Type} {vector : List α} {index : Nat} {value : α}
    (found : vector[index]? = some value) : subscript vector index = .ok value := by
  rw [subscript, found]

/-! ### Signed 32-bit integers -/

/-- The largest `s32`. -/
def s32Max : Int := 0x7fffffff

/-- The smallest `s32`. -/
def s32Min : Int := -0x80000000

/-- The result of signed 32-bit arithmetic: out of range, it overflows. -/
def checkedS32 (value : Int) : Except Fault Int :=
  if s32Min ≤ value ∧ value ≤ s32Max then .ok value else .error .signedOverflow

theorem checkedS32_ok {value : Int} (low : s32Min ≤ value) (high : value ≤ s32Max) :
    checkedS32 value = .ok value := if_pos ⟨low, high⟩

theorem checkedS32_bind {α : Type} (value : Int) (next : Int → Except Fault α) :
    checkedS32 value >>= next =
      if s32Min ≤ value ∧ value ≤ s32Max then next value else .error .signedOverflow := by
  unfold checkedS32
  split_ifs <;> rfl

/-- The conversion of an `s32` to `size_t`: sign extension, then the unsigned reading. -/
def asSize (value : Int32) : Nat := value.toInt64.toUInt64.toNat

theorem asSize_eq (value : Int32) : asSize value = (value.toInt % 0x10000000000000000).toNat := by
  unfold asSize
  rw [← Int32.toInt_toInt64, ← Int64.toNat_toBitVec, Int64.toInt, BitVec.toInt_eq_toNat_cond]
  have bound := value.toInt64.toBitVec.isLt
  split <;> omega

/-- Converting to `size_t` loses nothing. -/
theorem asSize_injective : Function.Injective asSize := by
  intro first second same
  rw [asSize_eq, asSize_eq] at same
  have := first.toInt_lt
  have := first.le_toInt
  have := second.toInt_lt
  have := second.le_toInt
  exact Int32.toInt_inj.mp (by omega)

theorem asSize_ofNat {index : Nat} (small : index < 0x80000000) :
    asSize (Int32.ofNat index) = index := by
  rw [asSize_eq, Int32.toInt_ofNat_of_lt small]
  omega

/-- `(value < 0) ? -value : value`: the smallest `s32` is its own. -/
def magnitude (value : Int32) : Int32 := if value < 0 then -value else value

theorem lt_zero_iff_msb {value : Int32} : value < 0 ↔ value.toBitVec.msb = true := by
  rw [Int32.lt_iff_toInt_lt, BitVec.msb_eq_toInt, decide_eq_true_iff, Int32.toInt_toBitVec]
  rfl

/-- A flag in the sign bit makes a value negative. -/
theorem or_lt_zero (value : Int32) {flags : Int32} (sign : flags < 0) : value ||| flags < 0 := by
  rw [lt_zero_iff_msb] at sign ⊢
  rw [Int32.toBitVec_or, BitVec.msb_or, sign, Bool.or_true]

/-- Negating a magnitude gives a negative value, that of the smallest `s32` too. -/
theorem neg_magnitude_lt_zero {value : Int32} (nonzero : value ≠ 0) : -magnitude value < 0 := by
  unfold magnitude
  split_ifs with sign
  · rwa [Int32.neg_neg]
  · have nonzero' : value.toInt ≠ (0 : Int32).toInt := fun same => nonzero (Int32.toInt_inj.mp same)
    have zero : (0 : Int32).toInt = 0 := rfl
    have small := value.toInt_lt
    rw [Int32.lt_iff_toInt_lt] at sign ⊢
    rw [Int32.toInt_neg, Int.bmod_eq_of_le (by omega) (by omega)]
    omega

/-! ### Strings -/

/-- A `std::string`, or the contents of a `char` array. -/
abbrev StdString := List UInt8

/-- The bytes of an ASCII literal. -/
def ascii (literal : String) : StdString := literal.toList.map Char.toUInt8

/-- The C string a `char` array starts with: what stands before its first NUL. -/
def cString (data : StdString) : StdString := data.takeWhile (· ≠ 0)

/-- `text.find(needle) != std::string::npos`. -/
def contains (text needle : StdString) : Bool := decide (needle <:+: text)

/-- A text that contains a needle contains what the needle contains. -/
theorem contains_of_contains {text needle shorter : StdString}
    (inside : contains needle shorter = true) (found : contains text needle = true) :
    contains text shorter = true := by
  unfold contains at inside found ⊢
  rw [decide_eq_true_eq] at inside found ⊢
  exact inside.trans found

/-- The line `std::getline` reads first from a file with these bytes. -/
def getline (bytes : StdString) : StdString := bytes.takeWhile (· ≠ 10)

/-- `std::memset(data, 0, sizeof(data))`. -/
def zeroed (data : StdString) : StdString := List.replicate data.length 0

/-- `std::strncpy(data, text, count)`: the C string of `text`, cut at `count` and padded with NULs up
to it. The rest of `data` stays. -/
def strncpy (data text : StdString) (count : Nat) : StdString :=
  let copied := (cString text).take count
  copied ++ List.replicate (count - copied.length) 0 ++ data.drop count

/-- `strncpy` into an array of zeros, with room for a NUL: the C string, cut, and zeros. -/
theorem strncpy_zeroed {data : StdString} (text : StdString) {count : Nat}
    (room : count ≤ data.length) :
    strncpy (zeroed data) text count = (cString text).take count ++
      List.replicate (data.length - min count (cString text).length) 0 := by
  have cut : min count (cString text).length ≤ count := Nat.min_le_left _ _
  unfold strncpy zeroed
  dsimp only
  rw [List.drop_replicate, List.append_assoc, List.replicate_append_replicate, List.length_take]
  congr 2
  omega

/-- A C string is where its text starts. -/
theorem cString_take (text : StdString) {count : Nat} (within : count ≤ (cString text).length) :
    (cString text).take count = text.take count := by
  have cut : (cString text).take count <+: text.take count :=
    (List.takeWhile_prefix _).take count
  have long : (cString text).length ≤ text.length := (List.takeWhile_prefix _).length_le
  refine cut.eq_of_length ?_
  rw [List.length_take, List.length_take]
  omega

/-- `std::strcpy(data, text)`: the C string of `text` and its NUL. The rest of `data` stays. -/
def strcpy (data text : StdString) : StdString :=
  cString text ++ 0 :: data.drop ((cString text).length + 1)

theorem cString_strcpy (data text : StdString) : cString (strcpy data text) = cString text := by
  unfold strcpy cString
  have nonzero : ∀ byte ∈ text.takeWhile (· ≠ 0), decide (byte ≠ 0) = true := by
    intro byte member
    have kept := List.mem_takeWhile_imp member
    exact kept
  rw [List.takeWhile_append_of_pos nonzero, List.takeWhile_cons_of_neg (by decide),
    List.append_nil]

/-- A C string that fits leaves the array its length. -/
theorem strcpy_length {data text : StdString} (fits : (cString text).length < data.length) :
    (strcpy data text).length = data.length := by
  unfold strcpy
  rw [List.length_append, List.length_cons, List.length_drop]
  omega

end LayraPS4.Cxx
