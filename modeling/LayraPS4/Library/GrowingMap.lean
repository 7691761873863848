/-
**Maps that only grow.**

Every state shows a map, from keys to what they stand for. A step that `AddsFresh` gives at most one
key a value, a key that stood for nothing, and leaves the others. `Grown` is what a run of such steps
comes to: no key is added twice, and a key stands for what the step that added it gave it.

* `Grown.of_run`: the run lemma.
* `Grown.keys_eq`, `Grown.card_eq`: the keys at the end, where a state shows a finite set of keys.
-/

import LayraPS4.Library.Runs
import Mathlib.Data.List.Basic
import Mathlib.Data.Finset.Card

namespace LayraPS4.GrowingMap

open Runs

variable {State Action Answer Failure Key Value : Type} {M : System State Action Answer Failure}

/-- At most one key is given a value, and it is a fresh one. -/
structure AddsFresh (shows : State → Key → Option Value) (added : Option Key)
    (before after : State) : Prop where
  fresh : ∀ key ∈ added, shows before key = none
  present : ∀ key ∈ added, shows after key ≠ none
  others : ∀ key ∉ added, shows after key = shows before key

/-- The map at the end of a history that started with the map `first`. -/
structure Grown (shows : State → Key → Option Value)
    (added : Transition State Action Answer → Option Key) (first : Key → Option Value)
    (history : History State Action Answer) (state : State) : Prop where
  nodup : (history.filterMap added).Nodup
  fresh : ∀ key ∈ history.filterMap added, first key = none
  present : ∀ key ∈ history.filterMap added, shows state key ≠ none
  kept : ∀ t ∈ history, ∀ key ∈ added t, shows state key = shows t.post key
  others : ∀ key ∉ history.filterMap added, shows state key = first key

section Runs

variable {shows : State → Key → Option Value} {added : Transition State Action Answer → Option Key}
  {first : Key → Option Value} {history : History State Action Answer} {state : State}

/-- A step that adds no key. -/
theorem AddsFresh.nothing {before after : State} (same : shows after = shows before) :
    AddsFresh shows none before after :=
  ⟨nofun, nofun, fun key _ => congrFun same key⟩

/-- What a fresh key is added to keeps its keys. -/
theorem AddsFresh.kept {key? : Option Key} {before after : State}
    (adds : AddsFresh shows key? before after) {key : Key} (here : shows before key ≠ none) :
    shows after key = shows before key :=
  adds.others key fun new => here (adds.fresh key new)

theorem Grown.nil (same : shows state = first) : Grown shows added first [] state :=
  ⟨List.nodup_nil, nofun, nofun, nofun, fun key _ => congrFun same key⟩

/-- **One more step.** -/
theorem Grown.cons {t : Transition State Action Answer}
    (grown : Grown shows added first history t.pre) (adds : AddsFresh shows (added t) t.pre t.post) :
    Grown shows added first (t :: history) t.post := by
  have keys : ∀ key, key ∈ (t :: history).filterMap added ↔
      key ∈ added t ∨ key ∈ history.filterMap added := by
    intro key
    simp only [List.mem_filterMap, List.mem_cons, exists_eq_or_imp, Option.mem_def]
  have older : ∀ key ∈ history.filterMap added, shows t.post key = shows t.pre key :=
    fun key member => adds.kept (grown.present key member)
  refine ⟨?_, ?_, ?_, ?_, ?_⟩
  · rcases new : added t with _ | key
    · rw [List.filterMap_cons_none new]
      exact grown.nodup
    · rw [List.filterMap_cons_some new]
      exact List.nodup_cons.mpr
        ⟨fun member => grown.present key member (adds.fresh key new), grown.nodup⟩
  · intro key member
    by_cases old : key ∈ history.filterMap added
    · exact grown.fresh key old
    · rw [← grown.others key old]
      exact adds.fresh key (((keys key).mp member).resolve_right old)
  · intro key member
    rcases (keys key).mp member with new | old
    · exact adds.present key new
    · rw [older key old]
      exact grown.present key old
  · intro u member key new
    rcases List.mem_cons.mp member with rfl | before
    · rfl
    · rw [older key (List.mem_filterMap.mpr ⟨u, before, new⟩)]
      exact grown.kept u before key new
  · intro key outside
    rw [keys, not_or] at outside
    rw [adds.others key outside.1, grown.others key outside.2]

/-- **A run of steps that add fresh keys.** -/
theorem Grown.of_run (run : M.Run history state) (base : ∀ s, M.start s → shows s = first)
    (adds : ∀ t ∈ history, AddsFresh shows (added t) t.pre t.post) :
    Grown shows added first history state := by
  induction run with
  | start begins => exact .nil (base _ begins)
  | step _ _ ih =>
      obtain ⟨here, before⟩ := List.forall_mem_cons.mp adds
      exact (ih before).cons here

end Runs

/-! ### Sets of keys -/

section Sets

variable [DecidableEq Key] {keys : State → Finset Key}
  {added : Transition State Action Answer → Option Key} {first : Finset Key}
  {history : History State Action Answer} {state : State}

/-- A set as a map: its elements stand for something. -/
def asMap (keys : Finset Key) (key : Key) : Option Unit := if key ∈ keys then some () else none

theorem asMap_ne_none {keys : Finset Key} {key : Key} : asMap keys key ≠ none ↔ key ∈ keys := by
  unfold asMap
  split_ifs with member <;> simp [member]

theorem asMap_eq_none {keys : Finset Key} {key : Key} : asMap keys key = none ↔ key ∉ keys :=
  not_iff_not.mp (by rw [not_not]; exact asMap_ne_none)

theorem asMap_congr {before after : Finset Key} {key : Key} :
    asMap after key = asMap before key ↔ (key ∈ after ↔ key ∈ before) := by
  unfold asMap
  split_ifs with now then_ then_ <;> simp [now, then_]

/-- A set that grows by one fresh element. -/
theorem AddsFresh.insert {before after : State} {key : Key} (fresh : key ∉ keys before)
    (grows : keys after = Insert.insert key (keys before)) :
    AddsFresh (fun state => asMap (keys state)) (some key) before after := by
  refine ⟨?_, ?_, ?_⟩
  · rintro _ ⟨⟩
    exact asMap_eq_none.mpr fresh
  · rintro _ ⟨⟩
    rw [asMap_ne_none, grows]
    exact Finset.mem_insert_self key _
  · intro other different
    rw [asMap_congr, grows, Finset.mem_insert]
    exact or_iff_right fun same => different (congrArg some same.symm)

theorem Grown.keys_eq
    (grown : Grown (fun state => asMap (keys state)) added (asMap first) history state) :
    keys state = first ∪ (history.filterMap added).toFinset := by
  ext key
  rw [Finset.mem_union, List.mem_toFinset]
  by_cases new : key ∈ history.filterMap added
  · exact iff_of_true (asMap_ne_none.mp (grown.present key new)) (.inr new)
  · rw [or_iff_left new]
    exact asMap_congr.mp (grown.others key new)

theorem Grown.card_eq
    (grown : Grown (fun state => asMap (keys state)) added (asMap first) history state) :
    (keys state).card = first.card + (history.filterMap added).length := by
  have apart : Disjoint first (history.filterMap added).toFinset := by
    rw [Finset.disjoint_right]
    intro key member
    exact asMap_eq_none.mp (grown.fresh key (List.mem_toFinset.mp member))
  rw [grown.keys_eq, Finset.card_union_of_disjoint apart, List.toFinset_card_of_nodup grown.nodup]

end Sets

end LayraPS4.GrowingMap
