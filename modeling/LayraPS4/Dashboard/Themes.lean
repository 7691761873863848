/-
**The themes of the dashboard** (`main.cpp`): `ThemeManager`, and what `RenderPS4Dashboard` does
with the global `themeManager` in each frame of the main loop.

A frame registers both themes, selects the one named `Default`, pushes the background colour of the
current theme, and then shows the menu, where a click selects a theme. Of ImGui the model keeps which
menu items it reports clicked, any number in a frame. A colour's floats are kept in hundredths, the
unit the code's literals are written in.

* `pushed_default`: every frame pushes the same background.
* `backgrounds_follow_choice_iff`: when the pushed backgrounds are those the clicks ask for.
* `themes_listed_once_iff`: when the menu has no theme twice.
-/

import LayraPS4.Library.Cxx
import LayraPS4.Library.Runs
import Mathlib.Data.List.Perm.Subperm

namespace LayraPS4.Dashboard

open Cxx Runs

/-- A colour, its components in hundredths. -/
structure ImVec4 where
  x : Nat
  y : Nat
  z : Nat
  w : Nat
  deriving DecidableEq, Repr

structure Theme where
  name : StdString
  backgroundColor : ImVec4
  buttonColor : ImVec4
  buttonHoverColor : ImVec4
  deriving DecidableEq, Repr

structure ThemeManager where
  themes : List Theme
  currentTheme : Theme
  deriving DecidableEq, Repr

namespace ThemeManager

def addTheme (manager : ThemeManager) (theme : Theme) : ThemeManager :=
  { manager with themes := manager.themes ++ [theme] }

/-- The first theme of that name becomes the current one; without one nothing changes. -/
def selectTheme (manager : ThemeManager) (themeName : StdString) : ThemeManager :=
  match manager.themes.find? fun theme => theme.name = themeName with
  | some theme => { manager with currentTheme := theme }
  | none => manager

def getCurrentTheme (manager : ThemeManager) : Theme := manager.currentTheme

end ThemeManager

/-! ### A frame -/

def defaultTheme : Theme :=
  { name := ascii "Default"
    backgroundColor := ⟨6, 8, 12, 95⟩
    buttonColor := ⟨16, 29, 48, 40⟩
    buttonHoverColor := ⟨26, 59, 98, 100⟩ }

def darkTheme : Theme :=
  { name := ascii "Dark"
    backgroundColor := ⟨2, 2, 2, 95⟩
    buttonColor := ⟨8, 8, 8, 40⟩
    buttonHoverColor := ⟨12, 12, 12, 100⟩ }

/-- What ImGui reports in a frame: whether the menu is open, and for each of its items whether it
was clicked. -/
structure ThemesMenu where
  beginMenu : Bool
  menuItem : Nat → Bool

/-- The loop of the menu, over the items from `index` on. -/
def themesLoop (menuItem : Nat → Bool) : Nat → List Theme → ThemeManager → ThemeManager
  | _, [], manager => manager
  | index, theme :: rest, manager =>
      themesLoop menuItem (index + 1) rest
        (if menuItem index then manager.selectTheme theme.name else manager)

/-- Both themes are registered at the start of the frame. -/
def registerThemes (manager : ThemeManager) : ThemeManager :=
  (manager.addTheme defaultTheme).addTheme darkTheme

/-- `RenderPS4Dashboard`: the background colour it pushes and the manager it leaves. -/
def renderPS4Dashboard (themeManager : ThemeManager) (menu : ThemesMenu) : ImVec4 × ThemeManager :=
  let themeManager := registerThemes themeManager
  let themeManager := themeManager.selectTheme (ascii "Default")
  -- `currentTheme` is a reference, read here and not after the menu
  let pushed := themeManager.getCurrentTheme.backgroundColor
  (pushed, if menu.beginMenu then themesLoop menu.menuItem 0 themeManager.themes themeManager
    else themeManager)

/-- The frames of the main loop after the boot sequence. The constructor of `themeManager` leaves the
list empty; the current theme is not read before it is set. -/
def dashboard : System ThemeManager ThemesMenu ImVec4 Empty where
  start manager := manager.themes = []
  step manager menu := .ok (renderPS4Dashboard manager menu)

abbrev Frame := Transition ThemeManager ThemesMenu ImVec4

/-! ### What a frame does -/

@[simp] theorem selectTheme_themes (manager : ThemeManager) (themeName : StdString) :
    (manager.selectTheme themeName).themes = manager.themes := by
  unfold ThemeManager.selectTheme
  split <;> rfl

@[simp] theorem themesLoop_themes (menuItem : Nat → Bool) (index : Nat) (themes : List Theme)
    (manager : ThemeManager) :
    (themesLoop menuItem index themes manager).themes = manager.themes := by
  induction themes generalizing index manager with
  | nil => rfl
  | cons theme rest ih =>
      rw [themesLoop, ih]
      split <;> simp

theorem registerThemes_themes (manager : ThemeManager) :
    (registerThemes manager).themes = manager.themes ++ [defaultTheme, darkTheme] :=
  List.append_assoc ..

/-- The menu goes over the registered themes, which the frame leaves as they are. -/
theorem renderPS4Dashboard_themes (manager : ThemeManager) (menu : ThemesMenu) :
    (renderPS4Dashboard manager menu).2.themes = manager.themes ++ [defaultTheme, darkTheme] := by
  unfold renderPS4Dashboard
  dsimp only
  split <;> simp [registerThemes_themes]

theorem answer_eq {frame : Frame}
    (taken : dashboard.step frame.pre frame.action = .ok (frame.answer, frame.post)) :
    frame.answer = (renderPS4Dashboard frame.pre frame.action).1 :=
  congrArg Prod.fst (Except.ok.inj taken).symm

theorem post_eq {frame : Frame}
    (taken : dashboard.step frame.pre frame.action = .ok (frame.answer, frame.post)) :
    frame.post = (renderPS4Dashboard frame.pre frame.action).2 :=
  congrArg Prod.snd (Except.ok.inj taken).symm

/-- Every theme of the list is one of the two. -/
def Registered (themes : List Theme) : Prop :=
  ∀ theme ∈ themes, theme = defaultTheme ∨ theme = darkTheme

theorem Registered.extend {manager : ThemeManager}
    (registered : Registered manager.themes) : Registered (registerThemes manager).themes := by
  intro theme member
  rw [registerThemes_themes] at member
  rcases List.mem_append.mp member with old | new
  · exact registered theme old
  · simpa using new

theorem default_mem (manager : ThemeManager) : defaultTheme ∈ (registerThemes manager).themes := by
  simp [registerThemes_themes]

/-- A registered theme is known by its name. -/
theorem Registered.eq_of_name {themes : List Theme} (registered : Registered themes)
    {theme other : Theme} (member : theme ∈ themes) (member' : other ∈ themes)
    (named : other.name = theme.name) : other = theme := by
  have distinct : defaultTheme.name ≠ darkTheme.name := by decide
  rcases registered theme member with rfl | rfl <;> rcases registered other member' with rfl | rfl
  · rfl
  · exact absurd named.symm distinct
  · exact absurd named distinct
  · rfl

/-- Selecting a registered theme by its name makes it the current one. -/
theorem Registered.selectTheme {manager : ThemeManager} (registered : Registered manager.themes)
    {theme : Theme} (member : theme ∈ manager.themes) :
    (manager.selectTheme theme.name).currentTheme = theme := by
  rcases found : manager.themes.find? fun other => other.name = theme.name with _ | other
  · exact absurd (List.find?_eq_none.mp found theme member) (by simp)
  · have named : other.name = theme.name := by simpa using List.find?_some found
    rw [ThemeManager.selectTheme, found]
    exact registered.eq_of_name member (List.mem_of_find?_eq_some found) named

/-- Before its menu a frame has set the current theme to `Default`. -/
theorem Registered.selectDefault {manager : ThemeManager} (registered : Registered manager.themes) :
    ((registerThemes manager).selectTheme (ascii "Default")).currentTheme = defaultTheme :=
  registered.extend.selectTheme (default_mem manager)

/-- **What a frame pushes**: the background of the default theme. -/
theorem renderPS4Dashboard_pushes {manager : ThemeManager} (registered : Registered manager.themes)
    (menu : ThemesMenu) :
    (renderPS4Dashboard manager menu).1 = defaultTheme.backgroundColor :=
  congrArg Theme.backgroundColor registered.selectDefault

/-! ### Runs of frames -/

section Runs

variable {frames : List Frame} {manager : ThemeManager}

/-- **The list after a number of frames**: both themes once for each. -/
theorem themes_eq (run : dashboard.Run frames manager) :
    manager.themes = (List.replicate frames.length [defaultTheme, darkTheme]).flatten := by
  refine run.history_invariant (fun frames manager =>
    manager.themes = (List.replicate frames.length [defaultTheme, darkTheme]).flatten) ?_ ?_
  · intro manager begins
    exact begins
  · intro frame older _ listed taken
    rw [post_eq taken, renderPS4Dashboard_themes, listed, List.length_cons, List.replicate_succ',
      List.flatten_concat]

theorem registered (run : dashboard.Run frames manager) : Registered manager.themes := by
  intro theme member
  rw [themes_eq run] at member
  obtain ⟨pair, repeated, member⟩ := List.mem_flatten.mp member
  rw [List.eq_of_mem_replicate repeated] at member
  simpa using member

theorem themes_length (run : dashboard.Run frames manager) :
    manager.themes.length = 2 * frames.length := by
  rw [themes_eq run, List.length_flatten, List.map_replicate, List.sum_replicate_nat]
  exact Nat.mul_comm ..

/-- Every frame of a run pushes the same background. -/
theorem pushed_default (run : dashboard.Run frames manager) {frame : Frame}
    (member : frame ∈ frames) : frame.answer = defaultTheme.backgroundColor := by
  obtain ⟨⟨_, earlier⟩, taken⟩ := run.of_mem member
  rw [answer_eq taken, renderPS4Dashboard_pushes (registered earlier)]

/-! ### The chosen theme -/

/-- The item clicked last, among the items from `index` on. -/
def lastClicked (menuItem : Nat → Bool) : Nat → List Theme → Option Theme
  | _, [] => none
  | index, theme :: rest =>
      (lastClicked menuItem (index + 1) rest).or (if menuItem index then some theme else none)

/-- The theme a frame's clicks choose, from the items its menu shows. -/
def clickedTheme (frame : Frame) : Option Theme :=
  if frame.action.beginMenu then
    lastClicked frame.action.menuItem 0 (registerThemes frame.pre).themes
  else none

/-- The theme most recently chosen in the frames, newest first; `Default` before any click. -/
def chosen : List Frame → Theme
  | [] => defaultTheme
  | frame :: older => (clickedTheme frame).getD (chosen older)

/-- From the second frame on, the background pushed is that of the theme chosen before. -/
def FollowsChoice : List Frame → Prop
  | [] => True
  | frame :: older =>
      (older ≠ [] → frame.answer = (chosen older).backgroundColor) ∧ FollowsChoice older

/-- The frame leaves the choice at `Default`: nothing was clicked, or `Default` last. -/
def KeepsDefault (frame : Frame) : Prop :=
  ∀ theme, clickedTheme frame = some theme → theme = defaultTheme

theorem lastClicked_mem {menuItem : Nat → Bool} {index : Nat} {themes : List Theme}
    {theme : Theme} (clicked : lastClicked menuItem index themes = some theme) :
    theme ∈ themes := by
  induction themes generalizing index with
  | nil => cases clicked
  | cons first rest ih =>
      rw [lastClicked, Option.or_eq_some_iff] at clicked
      rcases clicked with later | ⟨_, here⟩
      · exact List.mem_cons_of_mem _ (ih later)
      · split at here
        · cases here
          exact List.mem_cons_self
        · cases here

theorem clickedTheme_mem {frame : Frame} {theme : Theme}
    (clicked : clickedTheme frame = some theme) : theme ∈ (registerThemes frame.pre).themes := by
  unfold clickedTheme at clicked
  split at clicked
  · exact lastClicked_mem clicked
  · cases clicked

/-- The loop of the menu leaves the item clicked last as the current theme. -/
theorem themesLoop_currentTheme {menuItem : Nat → Bool} {index : Nat} {themes : List Theme}
    {manager : ThemeManager} (registered : Registered manager.themes)
    (shown : ∀ theme ∈ themes, theme ∈ manager.themes) :
    (themesLoop menuItem index themes manager).currentTheme =
      (lastClicked menuItem index themes).getD manager.currentTheme := by
  induction themes generalizing index manager with
  | nil => rfl
  | cons theme rest ih =>
      obtain ⟨here, later⟩ := List.forall_mem_cons.mp shown
      rw [themesLoop, lastClicked]
      by_cases clicked : menuItem index = true
      · rw [if_pos clicked, if_pos clicked, ih (by simpa using registered) (by simpa using later),
          registered.selectTheme here]
        cases lastClicked menuItem (index + 1) rest <;> rfl
      · rw [if_neg clicked, if_neg clicked, ih registered later, Option.or_none]

/-- **A click lasts to the end of its frame**: what a frame leaves as the current theme. -/
theorem currentTheme_eq (run : dashboard.Run frames manager) {frame : Frame}
    (member : frame ∈ frames) :
    frame.post.currentTheme = (clickedTheme frame).getD defaultTheme := by
  obtain ⟨⟨_, earlier⟩, taken⟩ := run.of_mem member
  have known := registered earlier
  rw [post_eq taken]
  unfold renderPS4Dashboard clickedTheme
  dsimp only
  split
  · rw [themesLoop_currentTheme (by simpa using known.extend) (fun _ => id),
      selectTheme_themes, known.selectDefault]
  · exact known.selectDefault

theorem chosen_default {frames : List Frame} (kept : ∀ frame ∈ frames, KeepsDefault frame) :
    chosen frames = defaultTheme := by
  induction frames with
  | nil => rfl
  | cons frame older ih =>
      obtain ⟨here, before⟩ := List.forall_mem_cons.mp kept
      rw [chosen, ih before]
      rcases clicked : clickedTheme frame with _ | theme
      · rfl
      · exact here theme clicked

/-- What a frame chooses over a choice of `Default` has its background only if it is `Default`. -/
theorem keepsDefault_of_background {frame : Frame} (registered : Registered frame.pre.themes)
    (same : defaultTheme.backgroundColor =
      ((clickedTheme frame).getD defaultTheme).backgroundColor) : KeepsDefault frame := by
  intro theme clicked
  rw [clicked] at same
  rcases registered.extend theme (clickedTheme_mem clicked) with rfl | rfl
  · rfl
  · exact absurd same (by decide)

/-- **When the backgrounds follow the choice**: exactly in the runs in which no frame but the last
leaves the choice at another theme than `Default`. -/
theorem backgrounds_follow_choice_iff (run : dashboard.Run frames manager) :
    FollowsChoice frames ↔ ∀ frame ∈ frames.tail, KeepsDefault frame := by
  induction run with
  | start => simp [FollowsChoice]
  | @step older manager next menu pushed earlier taken ih =>
      have default : pushed = defaultTheme.backgroundColor :=
        pushed_default (earlier.step taken) List.mem_cons_self
      rw [FollowsChoice, ih, List.tail_cons, default]
      rcases older with _ | ⟨frame, older⟩
      · simp
      rw [List.tail_cons, List.forall_mem_cons, chosen]
      refine and_congr_left fun kept => ?_
      rw [chosen_default kept]
      constructor
      · intro same
        exact keepsDefault_of_background (registered earlier.uncons.1) (same (List.cons_ne_nil _ _))
      · intro keeps _
        rcases clicked : clickedTheme frame with _ | theme
        · rfl
        · exact congrArg Theme.backgroundColor (keeps theme clicked).symm

/-- A click on `Default`, clicks on `Dark` and then `Default` in one frame, and a click on `Dark` in
the last. -/
theorem backgrounds_follow_choice_iff_session :
    ∃ frames manager, dashboard.Run frames manager ∧
      (frames.map fun frame => (List.range 4).filter frame.action.menuItem) = [[1], [1, 2], [0]] ∧
      (FollowsChoice frames ↔ ∀ frame ∈ frames.tail, KeepsDefault frame) ∧
      FollowsChoice frames := by
  have run : dashboard.Run _ _ :=
    .of_exec (show dashboard.start ⟨[], darkTheme⟩ from rfl)
      [⟨true, fun index => index = 0⟩, ⟨true, fun index => index = 1 ∨ index = 2⟩,
        ⟨true, fun index => index = 1⟩] rfl
  have follows := backgrounds_follow_choice_iff run
  refine ⟨_, _, run, by decide, follows, follows.mpr ?_⟩
  exact List.forall_mem_cons.mpr ⟨fun _ clicked => (Option.some.inj clicked).symm,
    List.forall_mem_cons.mpr ⟨fun _ clicked => (Option.some.inj clicked).symm,
      List.forall_mem_nil _⟩⟩

/-- A click on `Dark`, and the next frame pushes the background of `Default`. -/
theorem dark_not_shown :
    ∃ frames manager, dashboard.Run frames manager ∧ chosen frames.tail = darkTheme ∧
      frames.head?.map (·.answer) = some defaultTheme.backgroundColor ∧
      ¬ FollowsChoice frames := by
  have run : dashboard.Run _ _ :=
    .of_exec (show dashboard.start ⟨[], darkTheme⟩ from rfl)
      [⟨true, fun index => index = 1⟩, ⟨false, fun _ => false⟩] rfl
  refine ⟨_, _, run, by decide, by decide, ?_⟩
  rintro ⟨follows, _⟩
  exact absurd (follows (List.cons_ne_nil _ _)) (by decide)

/-! ### The list of the menu -/

theorem names_nodup_length {themes : List Theme} (registered : Registered themes)
    (once : (themes.map Theme.name).Nodup) : themes.length ≤ 2 := by
  have names : themes.map Theme.name ⊆ [defaultTheme.name, darkTheme.name] := by
    intro name member
    obtain ⟨theme, here, rfl⟩ := List.mem_map.mp member
    rcases registered theme here with rfl | rfl <;> simp
  calc themes.length = (themes.map Theme.name).length := (List.length_map _).symm
    _ ≤ _ := (List.subperm_of_subset once names).length_le

/-- **When the list has every theme once**: exactly before the second frame. Each frame adds two
themes to it. -/
theorem themes_listed_once_iff (run : dashboard.Run frames manager) :
    ((manager.themes.map Theme.name).Nodup ↔ frames.length ≤ 1) ∧
      manager.themes.length = 2 * frames.length := by
  have length := themes_length run
  refine ⟨⟨?_, ?_⟩, length⟩
  · intro once
    have short := names_nodup_length (registered run) once
    omega
  · intro few
    rw [themes_eq run]
    have cases : frames.length = 0 ∨ frames.length = 1 := by omega
    rcases cases with none | one
    · rw [none]
      decide
    · rw [one]
      decide

/-- One frame lists both themes once. -/
theorem themes_listed_once_iff_session :
    ∃ frames manager, dashboard.Run frames manager ∧ frames.length = 1 ∧
      ((manager.themes.map Theme.name).Nodup ↔ frames.length ≤ 1) ∧
      manager.themes.length = 2 * frames.length := by
  have run : dashboard.Run _ _ :=
    .of_exec (show dashboard.start ⟨[], darkTheme⟩ from rfl) [⟨false, fun _ => false⟩] rfl
  exact ⟨_, _, run, rfl, themes_listed_once_iff run⟩

/-- The second frame's menu offers both themes twice. -/
theorem themes_listed_twice :
    ∃ frames manager, dashboard.Run frames manager ∧
      manager.themes.map Theme.name =
        [ascii "Default", ascii "Dark", ascii "Default", ascii "Dark"] ∧
      ¬ (manager.themes.map Theme.name).Nodup := by
  have run : dashboard.Run _ _ :=
    .of_exec (show dashboard.start ⟨[], darkTheme⟩ from rfl)
      [⟨false, fun _ => false⟩, ⟨true, fun _ => false⟩] rfl
  exact ⟨_, _, run, rfl, by decide⟩

end Runs

end LayraPS4.Dashboard
