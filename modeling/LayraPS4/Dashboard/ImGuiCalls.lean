/-
**The ImGui calls of a frame** (`main.cpp`).

What `RenderPS4BootSequence` and `RenderPS4Dashboard` begin they end, and what they push they pop,
in the order ImGui asks for. `BeginMenu`, `BeginTabBar` and `BeginTabItem` begin something only where
they return true; ImGui wants the `End` called only then. `RenderPS4Dashboard` looks at the first of
the three.

Calls that begin and end nothing and show nothing (positions, sizes, indentation) are left out.

`frames_nested_iff`: the calls of any frames nest if and only if the tab bar and both of its tabs are
open in every frame of the dashboard.
-/

import LayraPS4.Dashboard.MainLoop
import LayraPS4.Library.Brackets

namespace LayraPS4.Dashboard

open Cxx Brackets

/-! ### The code -/

/-- The calls, with what the `Begin` of a part that may be closed returns. -/
inductive ImGuiCall
  | pushStyleColor (color : ImVec4)
  | popStyleColor
  | pushStyleVar
  | popStyleVar
  | beginWindow (name : StdString)
  | endWindow
  | beginGroup
  | endGroup
  | beginMenu (label : StdString) (opened : Bool)
  | endMenu
  | beginTabBar (strId : StdString) (opened : Bool)
  | endTabBar
  | beginTabItem (label : StdString) (opened : Bool)
  | endTabItem
  | button (label : StdString)
  | menuItem (label : StdString)
  | text (text : StdString)
  | sameLine
  deriving DecidableEq, Repr

/-- What `BeginTabBar` returns, and `BeginTabItem` for each of the two tabs. -/
structure TabBar where
  beginTabBar : Bool
  dashboardTab : Bool
  settingsTab : Bool
  deriving DecidableEq, Repr

def icons : List StdString := [ascii "Store", ascii "Friends", ascii "Settings", ascii "Power"]

def games : List StdString :=
  [ascii "Bloodborne", ascii "Playroom", ascii "The Last of Us Part II"]

def iconCall (icon : StdString) : List ImGuiCall := [.button icon, .sameLine]

def gameCall (game : StdString) : List ImGuiCall :=
  [.beginGroup, .button game, .text game, .endGroup, .sameLine]

def themesCalls (themes : List Theme) (menu : ThemesMenu) : List ImGuiCall :=
  .beginMenu (ascii "Themes") menu.beginMenu ::
    if menu.beginMenu then themes.map (fun theme => .menuItem theme.name) ++ [.endMenu] else []

/-- The values that `BeginTabBar` and `BeginTabItem` return are not looked at. -/
def tabCalls (tabs : TabBar) : List ImGuiCall :=
  [.beginTabBar (ascii "TabBar") tabs.beginTabBar,
    .beginTabItem (ascii "Dashboard") tabs.dashboardTab, .button (ascii "Dashboard"), .endTabItem,
    .beginTabItem (ascii "Settings") tabs.settingsTab, .button (ascii "Settings"), .endTabItem,
    .endTabBar]

/-- `RenderPS4BootSequence`. -/
def bootCalls (windowBg : ImVec4) : List ImGuiCall :=
  [.pushStyleColor windowBg, .beginWindow (ascii "Boot"),
    .text (ascii "LayraPS4 - Booting Orbis OS..."), .endWindow, .popStyleColor]

/-- `RenderPS4Dashboard`. -/
def dashboardCalls (themeManager : ThemeManager) (menu : ThemesMenu) (tabs : TabBar) :
    List ImGuiCall :=
  let registered := registerThemes themeManager
  .pushStyleColor (renderPS4Dashboard themeManager menu).1 :: .pushStyleVar ::
    .beginWindow (ascii "PS4 Dashboard") ::
      (icons.flatMap iconCall ++ games.flatMap gameCall ++ themesCalls registered.themes menu ++
        tabCalls tabs ++ [.endWindow, .popStyleVar, .popStyleColor])

/-- The calls of an iteration of the main loop, and what the tabs report in it. -/
def frameCalls (t : LoopStep) (tabs : TabBar) : List ImGuiCall :=
  match t.answer with
  | .boot windowBg => bootCalls windowBg
  | .dashboard _ => dashboardCalls t.pre.themeManager t.action.menu tabs

/-! ### What ImGui keeps open -/

/-- The kinds of things that are begun and ended, or pushed and popped. -/
inductive Widget
  | styleColor
  | styleVar
  | window
  | group
  | menu
  | tabBar
  | tabItem
  deriving DecidableEq, Repr

/-- What a call begins or ends, for ImGui. A `Begin` that returned false has begun nothing. -/
def ImGuiCall.bracket : ImGuiCall → List (Bracket Widget)
  | .pushStyleColor _ => [.opens .styleColor]
  | .popStyleColor => [.closes .styleColor]
  | .pushStyleVar => [.opens .styleVar]
  | .popStyleVar => [.closes .styleVar]
  | .beginWindow _ => [.opens .window]
  | .endWindow => [.closes .window]
  | .beginGroup => [.opens .group]
  | .endGroup => [.closes .group]
  | .beginMenu _ opened => if opened then [.opens .menu] else []
  | .endMenu => [.closes .menu]
  | .beginTabBar _ opened => if opened then [.opens .tabBar] else []
  | .endTabBar => [.closes .tabBar]
  | .beginTabItem _ opened => if opened then [.opens .tabItem] else []
  | .endTabItem => [.closes .tabItem]
  | .button _ | .menuItem _ | .text _ | .sameLine => []

/-- The brackets of a sequence of calls. -/
def brackets (calls : List ImGuiCall) : List (Bracket Widget) := calls.flatMap ImGuiCall.bracket

/-- The bar and both tabs are open. -/
def TabBar.AllOpen (tabs : TabBar) : Prop :=
  tabs.beginTabBar = true ∧ tabs.dashboardTab = true ∧ tabs.settingsTab = true

/-! ### One frame -/

section Frame

theorem brackets_append (calls more : List ImGuiCall) :
    brackets (calls ++ more) = brackets calls ++ brackets more := List.flatMap_append

theorem brackets_cons (call : ImGuiCall) (calls : List ImGuiCall) :
    brackets (call :: calls) = call.bracket ++ brackets calls := List.flatMap_cons

/-- However many themes there are, and whether it is open or not, the menu nests. -/
theorem nested_themesCalls (themes : List Theme) (menu : ThemesMenu) :
    Nested (brackets (themesCalls themes menu)) := by
  have items : brackets (themes.map fun theme => .menuItem theme.name) = [] := by
    unfold brackets
    rw [List.flatMap_map]
    exact List.flatMap_eq_nil_iff.mpr fun _ _ => rfl
  unfold themesCalls
  rcases menu.beginMenu with _ | _
  · exact Nested.nil
  · rw [if_pos rfl, brackets_cons, brackets_append, items]
    exact Nested.nil.enclose Widget.menu

/-- The bar and its tabs nest if all of them are open, and cannot be read otherwise. -/
theorem check_tabCalls (tabs : TabBar) (rest : List (Bracket Widget)) :
    check [.window, .styleVar, .styleColor] (brackets (tabCalls tabs) ++ rest) =
      if tabs.beginTabBar && tabs.dashboardTab && tabs.settingsTab
      then check [.window, .styleVar, .styleColor] rest else none := by
  rcases tabs with ⟨_ | _, _ | _, _ | _⟩ <;> rfl

theorem nested_bootCalls (windowBg : ImVec4) : Nested (brackets (bootCalls windowBg)) := rfl

/-- **A frame of the dashboard** nests if the tabs are all open, and cannot be read otherwise. -/
theorem check_dashboardCalls (themeManager : ThemeManager) (menu : ThemesMenu) (tabs : TabBar) :
    check [] (brackets (dashboardCalls themeManager menu tabs)) =
      if tabs.beginTabBar && tabs.dashboardTab && tabs.settingsTab then some [] else none := by
  have above : Nested (brackets (icons.flatMap iconCall ++ games.flatMap gameCall)) := by decide
  have here := above.append (nested_themesCalls (registerThemes themeManager).themes menu)
  rw [← brackets_append] at here
  show check [.window, .styleVar, .styleColor] (brackets (_ ++ tabCalls tabs ++ _)) = _
  rw [brackets_append, brackets_append, List.append_assoc, here.check_append, check_tabCalls]
  rfl

/-- One tab of a bar is open at a time, and the `EndTabItem` of the other has nothing to end. -/
example (themeManager : ThemeManager) (menu : ThemesMenu) :
    check [] (brackets (dashboardCalls themeManager menu ⟨true, true, false⟩)) = none :=
  check_dashboardCalls themeManager menu ⟨true, true, false⟩

theorem allOpen_iff (tabs : TabBar) :
    tabs.AllOpen ↔ (tabs.beginTabBar && tabs.dashboardTab && tabs.settingsTab) = true := by
  unfold TabBar.AllOpen
  rw [Bool.and_eq_true, Bool.and_eq_true, and_assoc]

/-- A frame nests, or cannot be read. -/
theorem check_frameCalls (t : LoopStep) (tabs : TabBar) :
    Nested (brackets (frameCalls t tabs)) ∨ check [] (brackets (frameCalls t tabs)) = none := by
  unfold frameCalls Nested
  rcases t.answer with windowBg | windowBg
  · exact .inl (nested_bootCalls windowBg)
  · dsimp only
    rw [check_dashboardCalls]
    split_ifs
    · exact .inl rfl
    · exact .inr rfl

theorem nested_frameCalls_iff (t : LoopStep) (tabs : TabBar) :
    Nested (brackets (frameCalls t tabs)) ↔
      ((∃ windowBg, t.answer = .dashboard windowBg) → tabs.AllOpen) := by
  unfold frameCalls Nested
  rcases t.answer with windowBg | windowBg
  · refine iff_of_true (nested_bootCalls windowBg) ?_
    rintro ⟨_, ⟨⟩⟩
  · dsimp only
    rw [check_dashboardCalls, allOpen_iff]
    split_ifs with opened
    · exact iff_of_true rfl fun _ => opened
    · exact iff_of_false nofun fun always => opened (always ⟨windowBg, rfl⟩)

end Frame

/-! ### Runs -/

/-- **When the calls nest.** The calls of any iterations of the main loop, one after the other, nest if
and only if in each that draws the dashboard the tab bar and both tabs are reported open. -/
theorem frames_nested_iff (frames : List (LoopStep × TabBar)) :
    Nested (brackets (frames.flatMap fun (t, tabs) => frameCalls t tabs)) ↔
      ∀ t tabs, (t, tabs) ∈ frames → (∃ windowBg, t.answer = .dashboard windowBg) →
        tabs.AllOpen := by
  have calls : brackets (frames.flatMap fun (t, tabs) => frameCalls t tabs) =
      frames.flatMap fun (t, tabs) => brackets (frameCalls t tabs) := List.flatMap_assoc
  rw [calls, nested_flatMap_iff fun (t, tabs) _ => check_frameCalls t tabs]
  constructor
  · intro nested t tabs member dashboard
    exact (nested_frameCalls_iff t tabs).mp (nested _ member) dashboard
  · rintro opened ⟨t, tabs⟩ member
    exact (nested_frameCalls_iff t tabs).mpr (opened t tabs member)

end LayraPS4.Dashboard
