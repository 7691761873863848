/-
**What a `ThemeManager` is for.**

A `ThemeBook` is a map from names to themes in which every theme stands under its own name, and a
current theme. Registering adds a theme under a name that is free; choosing a name that stands for a
theme makes that the current one.

* `themeManager_refines`: the manager's list is such a book, the first theme of a name counting.
* `sameBook_iff`: the book is exactly what callers of the manager can tell.
* `frames_unnoticed`: the frames of the dashboard, which lengthen the list each time, change the book
  once.
-/

import LayraPS4.Dashboard.Themes
import LayraPS4.Library.Observation

namespace LayraPS4.Dashboard

open Cxx Runs

/-! ### The calls -/

/-- The public functions of `ThemeManager`. -/
inductive ThemeCall
  | addTheme (theme : Theme)
  | selectTheme (themeName : StdString)
  | getCurrentTheme

/-- Calls of a `ThemeManager`, from one just constructed on. -/
def themeManager : System ThemeManager ThemeCall (Option Theme) Empty where
  start manager := manager.themes = []
  step manager
    | .addTheme theme => .ok (none, manager.addTheme theme)
    | .selectTheme themeName => .ok (none, manager.selectTheme themeName)
    | .getCurrentTheme => .ok (some manager.getCurrentTheme, manager)

/-! ### The abstract book -/

/-- Themes by their names, and the current one. -/
@[ext] structure ThemeBook where
  named : StdString → Option Theme
  currentTheme : Theme
  ownName : ∀ themeName theme, named themeName = some theme → theme.name = themeName

namespace ThemeBook

/-- A theme comes to stand under its name, if that is free. -/
def register (book : ThemeBook) (theme : Theme) : ThemeBook where
  named themeName :=
    (book.named themeName).or (if theme.name = themeName then some theme else none)
  currentTheme := book.currentTheme
  ownName := by
    intro themeName other stands
    rcases Option.or_eq_some_iff.mp stands with old | ⟨_, new⟩
    · exact book.ownName themeName other old
    · split_ifs at new with same
      cases new
      exact same

/-- The theme of this name, if there is one, becomes the current theme. -/
def choose (book : ThemeBook) (themeName : StdString) : ThemeBook :=
  { book with currentTheme := (book.named themeName).getD book.currentTheme }

end ThemeBook

/-- Calls of the abstract book, from an empty one on. -/
def themeBook : System ThemeBook ThemeCall (Option Theme) Empty where
  start book := ∀ themeName, book.named themeName = none
  step book
    | .addTheme theme => .ok (none, book.register theme)
    | .selectTheme themeName => .ok (none, book.choose themeName)
    | .getCurrentTheme => .ok (some book.currentTheme, book)

/-! ### The manager refines the book -/

/-- The book a manager's list stands for: the first theme of each name. -/
def ThemeManager.book (manager : ThemeManager) : ThemeBook where
  named themeName := manager.themes.find? fun theme => theme.name = themeName
  currentTheme := manager.currentTheme
  ownName := by
    intro themeName theme found
    simpa using List.find?_some found

theorem addTheme_book (manager : ThemeManager) (theme : Theme) :
    (manager.addTheme theme).book = manager.book.register theme := by
  apply ThemeBook.ext
  · funext themeName
    show (manager.themes ++ [theme]).find? _ = _
    rw [List.find?_append, List.find?_singleton]
    simp only [decide_eq_true_eq]
    rfl
  · rfl

theorem selectTheme_book (manager : ThemeManager) (themeName : StdString) :
    (manager.selectTheme themeName).book = manager.book.choose themeName := by
  apply ThemeBook.ext
  · show (fun _ => (manager.selectTheme themeName).themes.find? _) = _
    rw [selectTheme_themes]
    rfl
  · show (manager.selectTheme themeName).currentTheme = (manager.themes.find? _).getD _
    unfold ThemeManager.selectTheme
    rcases manager.themes.find? _ with _ | theme
    · rfl
    · rfl

/-- **The manager refines the book.** -/
theorem themeManager_refines : Refines themeManager themeBook (fun _ => True) ThemeManager.book where
  start := by
    intro manager begins
    refine ⟨trivial, fun themeName => ?_⟩
    show manager.themes.find? _ = none
    rw [show manager.themes = [] from begins]
    rfl
  keep _ _ _ _ _ _ := trivial
  step := by
    intro manager call _
    rcases call with theme | themeName | _
    · exact congrArg (fun book => Except.ok (none, book)) (addTheme_book manager theme).symm
    · exact congrArg (fun book => Except.ok (none, book)) (selectTheme_book manager themeName).symm
    · rfl

/-! ### What callers can tell -/

section Probes

variable {manager manager' : ThemeManager}

theorem alike_current (alike : Indistinguishable themeManager manager manager') :
    manager.currentTheme = manager'.currentTheme := by
  have taken (manager : ThemeManager) : themeManager.step manager .getCurrentTheme =
      .ok (some manager.currentTheme, manager) := rfl
  exact Option.some.inj (alike.both (taken manager) (taken manager')).1

/-- A theme is added and its name selected: the current theme is then the one the name stood for, or
else the new one. -/
theorem probe_current (manager : ThemeManager) (theme : Theme) :
    ((manager.addTheme theme).selectTheme theme.name).currentTheme =
      (manager.book.named theme.name).getD theme := by
  have book := selectTheme_book (manager.addTheme theme) theme.name
  rw [addTheme_book] at book
  calc ((manager.addTheme theme).selectTheme theme.name).currentTheme
      = ((manager.book.register theme).choose theme.name).currentTheme :=
        congrArg ThemeBook.currentTheme book
    _ = (manager.book.named theme.name).getD theme := by
        show ((manager.book.named theme.name).or (if theme.name = theme.name then _ else _)).getD _ = _
        rw [if_pos rfl]
        rcases manager.book.named theme.name with _ | first
        · rfl
        · rfl

theorem alike_probe (alike : Indistinguishable themeManager manager manager') (theme : Theme) :
    (manager.book.named theme.name).getD theme = (manager'.book.named theme.name).getD theme := by
  have added (manager : ThemeManager) : themeManager.step manager (.addTheme theme) =
      .ok (none, manager.addTheme theme) := rfl
  have selected (manager : ThemeManager) : themeManager.step manager (.selectTheme theme.name) =
      .ok (none, manager.selectTheme theme.name) := rfl
  have alike := (alike.both (added manager) (added manager')).2
  have alike := (alike.both (selected _) (selected _)).2
  rw [← probe_current, ← probe_current]
  exact alike_current alike

/-- Two themes of one name. -/
def probe (themeName : StdString) (shade : Nat) : Theme :=
  { name := themeName
    backgroundColor := ⟨shade, shade, shade, 100⟩
    buttonColor := ⟨0, 0, 0, 0⟩
    buttonHoverColor := ⟨0, 0, 0, 0⟩ }

/-- What two different defaults do not tell apart is the same. -/
theorem eq_of_getD {α : Type} {value value' : Option α} {first second : α}
    (different : first ≠ second) (atFirst : value.getD first = value'.getD first)
    (atSecond : value.getD second = value'.getD second) : value = value' := by
  cases value with
  | none =>
      cases value' with
      | none => rfl
      | some _ => exact absurd (atFirst.trans atSecond.symm) different
  | some _ =>
      cases value' with
      | none => exact absurd (atFirst.symm.trans atSecond) different
      | some _ => exact congrArg some atFirst

theorem alike_named (alike : Indistinguishable themeManager manager manager')
    (themeName : StdString) : manager.book.named themeName = manager'.book.named themeName := by
  have different : probe themeName 0 ≠ probe themeName 1 := by simp [probe]
  exact eq_of_getD different (alike_probe alike (probe themeName 0))
    (alike_probe alike (probe themeName 1))

/-- **The book is all there is to tell.** Two managers answer every sequence of calls alike if and only
if every name stands for the same theme in both, and they have the same current theme. -/
theorem sameBook_iff (manager manager' : ThemeManager) :
    Indistinguishable themeManager manager manager' ↔ manager.book = manager'.book := by
  refine ⟨fun alike => ?_, themeManager_refines.indistinguishable trivial trivial⟩
  apply ThemeBook.ext
  · funext themeName
    exact alike_named alike themeName
  · exact alike_current alike

end Probes

/-! ### The frames of the dashboard -/

section Frames

/-- A list goes on with nothing new: whatever is looked for, it is found before. -/
theorem find?_append_of_subset {α : Type} {found : α → Bool} {first rest : List α}
    (known : rest ⊆ first) : (first ++ rest).find? found = first.find? found := by
  rw [List.find?_append]
  rcases here : first.find? found with _ | value
  · rw [Option.none_or, List.find?_eq_none]
    exact fun value member => List.find?_eq_none.mp here value (known member)
  · rfl

/-- **What the frames come to.** After any frames but none, however long the list has become, no
sequence of calls tells the manager from one with each theme once. -/
theorem frames_unnoticed {frames : List Frame} {manager : ThemeManager}
    (run : dashboard.Run frames manager) (some_frame : frames ≠ []) :
    manager.themes.length = 2 * frames.length ∧
      Indistinguishable themeManager manager ⟨[defaultTheme, darkTheme], manager.currentTheme⟩ := by
  refine ⟨themes_length run, themeManager_refines.indistinguishable trivial trivial ?_⟩
  obtain ⟨frame, older, rfl⟩ := List.exists_cons_of_ne_nil some_frame
  have listed := themes_eq run
  rw [List.length_cons, List.replicate_succ, List.flatten_cons] at listed
  apply ThemeBook.ext
  · funext themeName
    show manager.themes.find? (fun theme => theme.name = themeName) =
      [defaultTheme, darkTheme].find? fun theme => theme.name = themeName
    rw [listed]
    apply find?_append_of_subset
    intro theme member
    obtain ⟨pair, repeated, here⟩ := List.mem_flatten.mp member
    rw [List.eq_of_mem_replicate repeated] at here
    exact here
  · rfl

/-- Two frames. -/
theorem frames_unnoticed_session :
    ∃ frames manager, dashboard.Run frames manager ∧ frames.length = 2 ∧
      manager.themes.length = 2 * frames.length ∧
      Indistinguishable themeManager manager ⟨[defaultTheme, darkTheme], manager.currentTheme⟩ := by
  have run : dashboard.Run _ _ :=
    .of_exec (show dashboard.start ⟨[], darkTheme⟩ from rfl)
      [⟨false, fun _ => false⟩, ⟨true, fun index => index = 1⟩] rfl
  exact ⟨_, _, run, rfl, frames_unnoticed run (List.cons_ne_nil _ _)⟩

end Frames

end LayraPS4.Dashboard
