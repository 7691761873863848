/-
**ASCII case.** Texts are lists of bytes; only the letters `A` to `Z` and `a` to `z` have a case.

`CaseVariants` relates the spellings of one text. Its lower-case spelling contains every lower-case
needle that any of them contains (`contains_lower`); the converse fails, which is what makes a
case-sensitive search of a case-insensitive text miss.
-/

import LayraPS4.Library.Cxx

namespace LayraPS4.Cxx

/-- A byte in lower case. -/
def lowerByte (byte : UInt8) : UInt8 := if 65 ≤ byte ∧ byte ≤ 90 then byte + 32 else byte

/-- A text in lower case. -/
def lower (text : StdString) : StdString := text.map lowerByte

/-- The two texts differ in the case of letters only. -/
def CaseVariants (first second : StdString) : Prop := lower first = lower second

instance (first second : StdString) : Decidable (CaseVariants first second) :=
  inferInstanceAs (Decidable (_ = _))

/-- A lower-case needle is found in lower case in every spelling it is found in. -/
theorem contains_lower {text needle : StdString} (lowerCase : lower needle = needle)
    (found : contains text needle = true) : contains (lower text) needle = true := by
  unfold contains at found ⊢
  rw [decide_eq_true_eq] at found ⊢
  rw [← lowerCase]
  exact found.map lowerByte

end LayraPS4.Cxx
