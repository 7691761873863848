/-
**Traces that open and close.**

A trace is a sequence of brackets of several kinds. `check` reads one with a stack of what is open and
stops at a bracket that closes something else than the last kind opened. A trace is `Nested` when it
reads from nothing open to nothing open.

* `check_below`: what is open below does not matter.
* `Nested.append`, `Nested.enclose`: how nested traces are put together.
* `nested_flatMap_iff`: traces that are nested or cannot be read at all, one after the other.
-/

import Mathlib.Data.List.Basic

namespace LayraPS4.Brackets

inductive Bracket (Kind : Type)
  | opens (kind : Kind)
  | closes (kind : Kind)
  deriving DecidableEq, Repr

variable {Kind : Type} [DecidableEq Kind]

/-- What is open after the trace, the last opened first. -/
def check : List Kind → List (Bracket Kind) → Option (List Kind)
  | stack, [] => some stack
  | stack, .opens kind :: rest => check (kind :: stack) rest
  | [], .closes _ :: _ => none
  | last :: stack, .closes kind :: rest => if last = kind then check stack rest else none

def Nested (trace : List (Bracket Kind)) : Prop := check [] trace = some []

instance (trace : List (Bracket Kind)) : Decidable (Nested trace) :=
  inferInstanceAs (Decidable (_ = _))

section Check

variable {stack after below : List Kind} {trace rest : List (Bracket Kind)} {kind : Kind}

theorem check_append (stack : List Kind) (trace rest : List (Bracket Kind)) :
    check stack (trace ++ rest) = (check stack trace).bind fun after => check after rest := by
  induction trace generalizing stack with
  | nil => rfl
  | cons bracket trace ih =>
      cases bracket with
      | opens kind => exact ih (kind :: stack)
      | closes kind =>
          cases stack with
          | nil => rfl
          | cons last stack =>
              rw [List.cons_append, check, check]
              split_ifs
              · exact ih stack
              · rfl

/-- A trace that can be read is read the same way with more open below. -/
theorem check_below (read : check stack trace = some after) (below : List Kind) :
    check (stack ++ below) trace = some (after ++ below) := by
  induction trace generalizing stack with
  | nil =>
      cases read
      rfl
  | cons bracket trace ih =>
      cases bracket with
      | opens kind => exact @ih (kind :: stack) read
      | closes kind =>
          cases stack with
          | nil => cases read
          | cons last stack =>
              rw [check] at read
              rw [List.cons_append, check]
              split_ifs at read ⊢
              exact ih read

/-- A nested trace leaves what is open. -/
theorem Nested.check_append (nested : Nested trace) (stack : List Kind)
    (rest : List (Bracket Kind)) : check stack (trace ++ rest) = check stack rest := by
  have read := check_below nested stack
  rw [List.nil_append] at read
  rw [Brackets.check_append, read]
  rfl

theorem Nested.nil : Nested ([] : List (Bracket Kind)) := rfl

theorem Nested.append (first : Nested trace) (second : Nested rest) : Nested (trace ++ rest) :=
  (first.check_append [] rest).trans second

theorem Nested.enclose (nested : Nested trace) (kind : Kind) :
    Nested (.opens kind :: (trace ++ [.closes kind])) := by
  show check [kind] (trace ++ [.closes kind]) = some []
  rw [nested.check_append]
  exact if_pos rfl

theorem Nested.flatMap {α : Type} {traces : α → List (Bracket Kind)} {parts : List α}
    (nested : ∀ part ∈ parts, Nested (traces part)) : Nested (parts.flatMap traces) := by
  induction parts with
  | nil => exact .nil
  | cons part parts ih =>
      obtain ⟨here, later⟩ := List.forall_mem_cons.mp nested
      rw [List.flatMap_cons]
      exact here.append (ih later)

/-- **One trace after the other.** Where each trace is nested or cannot be read, all of them together
are nested exactly when each is. -/
theorem nested_flatMap_iff {α : Type} {traces : α → List (Bracket Kind)} {parts : List α}
    (decided : ∀ part ∈ parts, Nested (traces part) ∨ check [] (traces part) = none) :
    Nested (parts.flatMap traces) ↔ ∀ part ∈ parts, Nested (traces part) := by
  refine ⟨fun all => ?_, Nested.flatMap⟩
  induction parts with
  | nil => exact List.forall_mem_nil _
  | cons part parts ih =>
      obtain ⟨here, later⟩ := List.forall_mem_cons.mp decided
      rw [List.flatMap_cons] at all
      rcases here with nested | unreadable
      · exact List.forall_mem_cons.mpr ⟨nested, ih later ((nested.check_append [] _).symm.trans all)⟩
      · rw [Nested, Brackets.check_append, unreadable] at all
        cases all

end Check

end LayraPS4.Brackets
