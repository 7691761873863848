/-
**Tables of independent objects.**

A table maps keys to objects. An object is created under a key that is not in use, is asked for one
operation at a time, and is deleted; what an operation does to an object is a `Kind`. Nothing done
under one key touches another.

A system `Simulates` such a table when every step it takes is a move of the table. Over its runs:

* `accounted`: the keys handed out and not yet deleted are distinct, and are exactly the keys in
  use;
* `life`: between its creation and its deletion an object goes through its own operations only
  (`Life`), so what holds of it is proved by induction on its life, with no table in sight.
-/

import LayraPS4.Library.Runs
import Mathlib.Data.List.Nodup
import Mathlib.Logic.Function.Basic

namespace LayraPS4.ObjectTable

open Runs

/-- What an operation answers and makes of an object; `none` where it has no defined behaviour. -/
structure Kind (Object Op Reply : Type) where
  act : Op → Object → Option (Reply × Object)

/-- The objects in use, by their keys. -/
abbrev Table (Key Object : Type) := Key → Option Object

inductive Move (Key Object Op Reply : Type)
  | create (key : Key) (object : Object)
  | ask (key : Key) (op : Op) (reply : Reply)
  | delete (key : Key)
  | idle

variable {Key Object Op Reply State Action Answer Failure : Type} [DecidableEq Key]

/-- The moves of a table. -/
inductive Kind.Step (K : Kind Object Op Reply) :
    Table Key Object → Move Key Object Op Reply → Table Key Object → Prop
  | create {table : Table Key Object} {key : Key} (object : Object) : table key = none →
      K.Step table (.create key object) (Function.update table key (some object))
  | ask {table : Table Key Object} {key : Key} {op : Op} {reply : Reply} {object next : Object} :
      table key = some object → K.act op object = some (reply, next) →
      K.Step table (.ask key op reply) (Function.update table key (some next))
  | delete {table : Table Key Object} {key : Key} {object : Object} : table key = some object →
      K.Step table (.delete key) (Function.update table key none)
  | idle {table : Table Key Object} : K.Step table .idle table

/-- The key a move is about. -/
def Move.key? : Move Key Object Op Reply → Option Key
  | .create key _ => some key
  | .ask key _ _ => some key
  | .delete key => some key
  | .idle => none

/-- **The frame of a move**: it changes the table at its own key only. -/
theorem Kind.Step.frame {K : Kind Object Op Reply} {table next : Table Key Object}
    {move : Move Key Object Op Reply} (step : K.Step table move next) {key : Key}
    (other : move.key? ≠ some key) : next key = table key := by
  cases step with
  | create _ _ => exact Function.update_of_ne (fun same => other (congrArg some same.symm)) _ _
  | ask _ _ => exact Function.update_of_ne (fun same => other (congrArg some same.symm)) _ _
  | delete _ => exact Function.update_of_ne (fun same => other (congrArg some same.symm)) _ _
  | idle => rfl

/-- **Only its deletion** takes an object out of the table. -/
theorem Kind.Step.freed {K : Kind Object Op Reply} {table next : Table Key Object}
    {move : Move Key Object Op Reply} (step : K.Step table move next) {key : Key} {object : Object}
    (before : table key = some object) (after : next key = none) : move = .delete key := by
  by_cases about : move.key? = some key
  · cases step with
    | create _ fresh =>
        cases about
        rw [fresh] at before
        cases before
    | ask _ _ =>
        cases about
        rw [Function.update_self] at after
        cases after
    | delete _ =>
        cases about
        rfl
    | idle => cases about
  · rw [step.frame about, before] at after
    cases after

/-- An object that is asked for an operation does it. -/
theorem Kind.Step.asked {K : Kind Object Op Reply} {table next : Table Key Object} {key : Key}
    {op : Op} {reply : Reply} (step : K.Step table (.ask key op reply) next) :
    ∃ object after, table key = some object ∧ K.act op object = some (reply, after) ∧
      next key = some after := by
  cases step with
  | ask found acted => exact ⟨_, _, found, acted, Function.update_self _ _ _⟩

/-- Every step the system takes is a move of the table it is viewed as. -/
structure Simulates (M : System State Action Answer Failure) (K : Kind Object Op Reply)
    (Key : Type) [DecidableEq Key] where
  view : State → Table Key Object
  move : Transition State Action Answer → Move Key Object Op Reply
  start : ∀ state, M.start state → ∀ key, view state key = none
  step : ∀ t older, M.Run older t.pre → M.step t.pre t.action = .ok (t.answer, t.post) →
    K.Step (view t.pre) (move t) (view t.post)

/-! ### The keys in use -/

/-- The key a move creates an object under. -/
def Move.created? : Move Key Object Op Reply → Option Key
  | .create key _ => some key
  | _ => none

/-- The key a move deletes. -/
def Move.deleted? : Move Key Object Op Reply → Option Key
  | .delete key => some key
  | _ => none

/-- The keys created and not yet deleted, by moves given newest first. -/
def liveKeys : List (Move Key Object Op Reply) → List Key
  | [] => []
  | move :: older =>
      match move.created?, move.deleted? with
      | some key, _ => key :: liveKeys older
      | none, some key => (liveKeys older).erase key
      | none, none => liveKeys older

/-- How many of the moves create an object. -/
def creations (moves : List (Move Key Object Op Reply)) : Nat :=
  moves.countP fun move => move.created?.isSome

/-- How many of the moves delete an object. -/
def deletions (moves : List (Move Key Object Op Reply)) : Nat :=
  moves.countP fun move => move.deleted?.isSome

/-- The keys in use are the live ones, each once, and as many as were created and not deleted. -/
structure Accounted (moves : List (Move Key Object Op Reply)) (table : Table Key Object) :
    Prop where
  nodup : (liveKeys moves).Nodup
  mem : ∀ key, key ∈ liveKeys moves ↔ table key ≠ none
  count : (liveKeys moves).length + deletions moves = creations moves

theorem Accounted.step {K : Kind Object Op Reply} {moves : List (Move Key Object Op Reply)}
    {table next : Table Key Object} {move : Move Key Object Op Reply}
    (accounted : Accounted moves table) (step : K.Step table move next) :
    Accounted (move :: moves) next := by
  obtain ⟨nodup, mem, count⟩ := accounted
  cases step with
  | @create key object fresh =>
      refine ⟨List.nodup_cons.mpr ⟨fun used => (mem key).mp used fresh, nodup⟩, fun other => ?_, ?_⟩
      · by_cases same : other = key
        · subst same
          simp [liveKeys, Move.created?]
        · simp [liveKeys, Move.created?, same, mem other]
      · show (liveKeys moves).length + 1 + deletions (_ :: moves) = creations (_ :: moves)
        simp only [creations, deletions, List.countP_cons, Move.created?, Move.deleted?,
          Option.isSome_some, Option.isSome_none, Bool.false_eq_true, if_true, if_false] at count ⊢
        omega
  | @ask key op reply object after present acts =>
      refine ⟨nodup, fun other => ?_, by
        simpa [creations, deletions, liveKeys, Move.created?, Move.deleted?] using count⟩
      show other ∈ liveKeys moves ↔ _
      by_cases same : other = key
      · subst same
        simp [mem other, present]
      · simp [Function.update_of_ne same, mem other]
  | @delete key object present =>
      have used : key ∈ liveKeys moves := (mem key).mpr (by simp [present])
      refine ⟨nodup.erase key, fun other => ?_, ?_⟩
      · show other ∈ (liveKeys moves).erase key ↔ _
        rw [nodup.mem_erase_iff, mem other]
        by_cases same : other = key
        · subst same
          simp
        · simp [same]
      · have positive : 0 < (liveKeys moves).length := List.length_pos_of_mem used
        show ((liveKeys moves).erase key).length + deletions (_ :: moves) = creations (_ :: moves)
        simp only [creations, deletions, List.countP_cons, Move.created?, Move.deleted?,
          List.length_erase_of_mem used, Option.isSome_some, Option.isSome_none,
          Bool.false_eq_true, if_true, if_false] at count ⊢
        omega
  | idle => exact ⟨nodup, mem, by
        simpa [creations, deletions, liveKeys, Move.created?, Move.deleted?] using count⟩

section Runs

variable {M : System State Action Answer Failure} {K : Kind Object Op Reply}
  (S : Simulates M K Key)

namespace Simulates

/-- The moves of a run. -/
def moves (history : History State Action Answer) : List (Move Key Object Op Reply) :=
  history.map S.move

theorem accounted {history : History State Action Answer} {state : State}
    (run : M.Run history state) : Accounted (S.moves history) (S.view state) := by
  refine run.history_invariant (fun history state => Accounted (S.moves history) (S.view state))
    ?_ ?_
  · intro state begins
    exact ⟨List.nodup_nil, fun key => by simp [moves, liveKeys, S.start state begins key], rfl⟩
  · intro t older earlier accounted taken
    exact accounted.step (S.step t older earlier taken)

/-! ### The life of one object -/

/-- What one object goes through: the steps that ask it, and the steps that are not about it. -/
inductive Life (key : Key) (born : Object) : History State Action Answer → Object → Prop
  | born : Life key born [] born
  | ask {history : History State Action Answer} {t : Transition State Action Answer} {op : Op}
      {reply : Reply} {object next : Object} : Life key born history object →
      S.view t.pre key = some object → S.move t = .ask key op reply →
      K.act op object = some (reply, next) → S.view t.post key = some next →
      Life key born (t :: history) next
  | other {history : History State Action Answer} {t : Transition State Action Answer}
      {object : Object} : Life key born history object → S.view t.pre key = some object →
      (S.move t).key? ≠ some key → S.view t.post key = some object →
      Life key born (t :: history) object

/-- **Between its creation and its deletion** an object only goes through its own operations. -/
theorem life {newer older : History State Action Answer} {t : Transition State Action Answer}
    {state : State} {key : Key} {born : Object} (run : M.Run (newer ++ t :: older) state)
    (present : S.view t.post key = some born) (kept : ∀ u ∈ newer, S.move u ≠ .delete key) :
    ∃ object, S.view state key = some object ∧ S.Life key born newer object := by
  refine run.after (fun newer state => (∀ u ∈ newer, S.move u ≠ .delete key) →
    ∃ object, S.view state key = some object ∧ S.Life key born newer object) ?_ ?_ kept
  · exact fun _ => ⟨born, present, .born⟩
  · intro u later earlier before taken kept
    obtain ⟨object, here, lived⟩ := before fun v member => kept v (List.mem_cons_of_mem _ member)
    have step := S.step u _ earlier taken
    by_cases about : (S.move u).key? = some key
    · generalize moved : S.move u = move at step about
      generalize after : S.view u.post = table at step ⊢
      cases step with
      | create _ fresh =>
          cases about
          rw [fresh] at here
          cases here
      | ask found acts =>
          cases about
          cases found.symm.trans here
          refine ⟨_, Function.update_self _ _ _, lived.ask here moved acts ?_⟩
          rw [after, Function.update_self]
      | delete _ =>
          cases about
          exact absurd moved (kept u List.mem_cons_self)
      | idle => cases about
    · have same := (step.frame about).trans here
      exact ⟨object, same, lived.other here about same⟩

end Simulates

end Runs

end LayraPS4.ObjectTable
