/-
**`HTONLL` and `NTOHLL`** (`core/libraries/network/net.h`): the fallback macros for a 64-bit value in
network byte order.

Both convert the two halves with the host's 32-bit function and exchange them. That is what a
little-endian host needs; on a big-endian host, where `htonl` changes nothing, it leaves the halves
exchanged.
-/

import LayraPS4.Library.ByteOrder

namespace LayraPS4.Net

open Bytes

/-- `htonl`: the host's conversion of 32 bits to network order. -/
def htonl (order : ByteOrder) (hostlong : UInt32) : UInt32 :=
  UInt32.ofNat (network order 4 hostlong.toNat)

/-- `ntohl`, which does the same. -/
def ntohl (order : ByteOrder) (netlong : UInt32) : UInt32 :=
  UInt32.ofNat (network order 4 netlong.toNat)

/-- The body of both macros: `((uint64_t)convert(x & 0xFFFFFFFFUL) << 32) | convert(x >> 32)`. -/
def convertHalves (convert : UInt32 → UInt32) (x : UInt64) : UInt64 :=
  ((convert (x &&& 0xFFFFFFFF).toUInt32).toUInt64 <<< 32) ||| (convert (x >>> 32).toUInt32).toUInt64

def htonll (order : ByteOrder) (x : UInt64) : UInt64 := convertHalves (htonl order) x

def ntohll (order : ByteOrder) (x : UInt64) : UInt64 := convertHalves (ntohl order) x

/-! ### Halves -/

/-- The high 32 bits. -/
def highHalf (x : UInt64) : UInt32 := (x >>> 32).toUInt32

/-- The low 32 bits. -/
def lowHalf (x : UInt64) : UInt32 := (x &&& 0xFFFFFFFF).toUInt32

theorem highHalf_toNat (x : UInt64) : (highHalf x).toNat = x.toNat / 256 ^ 4 := by
  have bound := x.toNat_lt
  rw [highHalf, UInt64.toNat_toUInt32, UInt64.toNat_shiftRight, Nat.shiftRight_eq_div_pow]
  change x.toNat / 2 ^ 32 % 2 ^ 32 = _
  omega

theorem lowHalf_toNat (x : UInt64) : (lowHalf x).toNat = x.toNat % 256 ^ 4 := by
  rw [lowHalf, UInt64.toNat_toUInt32, UInt64.toNat_and]
  change (x.toNat &&& (2 ^ 32 - 1)) % 2 ^ 32 = _
  rw [Nat.and_two_pow_sub_one_eq_mod]
  omega

/-- A value is its two halves. -/
theorem toNat_halves (x : UInt64) :
    x.toNat = (highHalf x).toNat * 256 ^ 4 + (lowHalf x).toNat := by
  rw [highHalf_toNat, lowHalf_toNat]
  omega

theorem eq_of_halves {x y : UInt64} (high : highHalf x = highHalf y) (low : lowHalf x = lowHalf y) :
    x = y := by
  apply UInt64.toNat_inj.mp
  rw [toNat_halves x, toNat_halves y, high, low]

/-- **The halves are exchanged**, each converted. -/
theorem convertHalves_toNat (convert : UInt32 → UInt32) (x : UInt64) :
    (convertHalves convert x).toNat =
      (convert (lowHalf x)).toNat * 256 ^ 4 + (convert (highHalf x)).toNat := by
  have fits := (convert (highHalf x)).toNat_lt
  have fits' := (convert (lowHalf x)).toNat_lt
  change ((convert (lowHalf x)).toUInt64 <<< 32 ||| (convert (highHalf x)).toUInt64).toNat = _
  rw [UInt64.toNat_or, UInt64.toNat_shiftLeft, UInt32.toNat_toUInt64, UInt32.toNat_toUInt64]
  change (_ <<< 32) % 2 ^ 64 ||| _ = _
  rw [Nat.mod_eq_of_lt (by rw [Nat.shiftLeft_eq]; omega), ← Nat.shiftLeft_add_eq_or_of_lt fits,
    Nat.shiftLeft_eq]
  rfl

@[simp] theorem highHalf_convertHalves (convert : UInt32 → UInt32) (x : UInt64) :
    highHalf (convertHalves convert x) = convert (lowHalf x) := by
  have fits := (convert (highHalf x)).toNat_lt
  apply UInt32.toNat_inj.mp
  rw [highHalf_toNat, convertHalves_toNat]
  omega

@[simp] theorem lowHalf_convertHalves (convert : UInt32 → UInt32) (x : UInt64) :
    lowHalf (convertHalves convert x) = convert (highHalf x) := by
  have fits := (convert (highHalf x)).toNat_lt
  apply UInt32.toNat_inj.mp
  rw [lowHalf_toNat, convertHalves_toNat]
  omega

/-! ### The host's conversion -/

theorem word_lt (word : UInt32) : word.toNat < 256 ^ 4 := word.toNat_lt

theorem htonl_toNat (order : ByteOrder) (hostlong : UInt32) :
    (htonl order hostlong).toNat = network order 4 hostlong.toNat :=
  UInt32.toNat_ofNat_of_lt' (network_lt (word_lt hostlong))

@[simp] theorem htonl_htonl (order : ByteOrder) (hostlong : UInt32) :
    htonl order (htonl order hostlong) = hostlong := by
  apply UInt32.toNat_inj.mp
  rw [htonl_toNat, htonl_toNat, network_network (word_lt hostlong)]

/-- **The two macros undo each other** on either host. -/
theorem convertHalves_convertHalves (order : ByteOrder) (x : UInt64) :
    convertHalves (htonl order) (convertHalves (htonl order) x) = x :=
  eq_of_halves (by simp) (by simp)

/-! ### The bytes on the wire -/

/-- The network bytes of a value: those of its high half, then those of its low half. -/
theorem bigEndian_eq (x : UInt64) :
    bigEndian 8 x.toNat = bigEndian 4 (highHalf x).toNat ++ bigEndian 4 (lowHalf x).toNat := by
  rw [toNat_halves x]
  exact bigEndian_halves (word_lt _)

theorem memory_htonl (order : ByteOrder) (hostlong : UInt32) :
    memory order 4 (htonl order hostlong).toNat = bigEndian 4 hostlong.toNat := by
  rw [htonl_toNat, memory_network]

/-- A little-endian host keeps the high half of what `HTONLL` exchanged behind the low one. -/
theorem memory_htonll_little (x : UInt64) :
    memory .little 8 (htonll .little x).toNat = bigEndian 8 x.toNat := by
  rw [bigEndian_eq, ← memory_htonl .little, ← memory_htonl .little, htonll, convertHalves_toNat]
  exact littleEndian_halves (word_lt _)

/-- A big-endian host keeps it in front. -/
theorem memory_htonll_big (x : UInt64) :
    memory .big 8 (htonll .big x).toNat =
      bigEndian 4 (lowHalf x).toNat ++ bigEndian 4 (highHalf x).toNat := by
  rw [← memory_htonl .big, ← memory_htonl .big, htonll, convertHalves_toNat]
  exact bigEndian_halves (word_lt _)

theorem memory_htonll_big_iff (x : UInt64) :
    memory .big 8 (htonll .big x).toNat = bigEndian 8 x.toNat ↔ highHalf x = lowHalf x := by
  rw [memory_htonll_big, bigEndian_eq]
  constructor
  · intro same
    obtain ⟨first, _⟩ := List.append_inj same (by simp)
    have halves := bigEndian_injective (word_lt _) (word_lt _) first
    exact UInt32.toNat_inj.mp halves.symm
  · intro same
    rw [same]

/-- The macros are a codec between 64-bit values and network byte order. -/
structure Codec (order : ByteOrder) (x : UInt64) : Prop where
  /-- The bytes of `HTONLL(x)` in memory are those of `x` from most to least significant. -/
  bytes : memory order 8 (htonll order x).toNat = bigEndian 8 x.toNat
  ntohll_htonll : ntohll order (htonll order x) = x
  htonll_ntohll : htonll order (ntohll order x) = x

/-- **When the macros are a codec**: on a little-endian host for every value, on a big-endian host
for the values whose halves are equal. -/
theorem codec_iff (order : ByteOrder) (x : UInt64) :
    Codec order x ↔ order = .little ∨ highHalf x = lowHalf x := by
  have undone := convertHalves_convertHalves order x
  rcases order with _ | _
  · exact iff_of_true ⟨memory_htonll_little x, undone, undone⟩ (.inl rfl)
  · constructor
    · intro codec
      exact .inr ((memory_htonll_big_iff x).mp codec.bytes)
    · rintro (impossible | same)
      · cases impossible
      · exact ⟨(memory_htonll_big_iff x).mpr same, undone, undone⟩

/-- A big-endian host sends the number 1 as 2 to the power of 32. -/
theorem one_sent_as_two_pow :
    memory .big 8 (htonll .big 1).toNat = [0, 0, 0, 1, 0, 0, 0, 0] ∧
      bigEndian 8 (1 : UInt64).toNat = [0, 0, 0, 0, 0, 0, 0, 1] ∧ ¬ Codec .big 1 := by
  refine ⟨by decide, by decide, ?_⟩
  rintro ⟨bytes, _, _⟩
  exact absurd bytes (by decide)

end LayraPS4.Net
