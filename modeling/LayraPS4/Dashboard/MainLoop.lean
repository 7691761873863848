/-
**The main loop** (`main.cpp`).

An iteration polls the events and draws a frame: the boot sequence in the first three seconds after the
clock was read before the loop, the dashboard from then on. `RenderPS4BootSequence` has a start of its
own, a `static` that its first call sets; for two seconds from there its background is opaque.

Of SDL the model keeps whether an event is `SDL_QUIT`, and every reading of `SDL_GetTicks`; a colour is
what a frame pushes for its window.

* `frames_forward`: on a clock that does not go back, no frame is followed by one of an earlier stage.
* `loop_ends`: the loop ends with the iteration that polls the first `SDL_QUIT`, whose frame is drawn.
* `dashboard_frames`: the frames of the dashboard are a run of `dashboard`.
-/

import LayraPS4.Dashboard.Themes

namespace LayraPS4.Dashboard

open Cxx Runs

/-! ### The code -/

inductive SdlEvent
  | quit
  | other
  deriving DecidableEq, Repr

/-- The local variables of `main`, the `static` of `RenderPS4BootSequence` (`none` before its first
call), and the global `themeManager`. -/
structure Main where
  done : Bool
  bootStart : UInt64
  start : Option UInt64
  themeManager : ThemeManager

/-- What SDL and ImGui report in an iteration: the events it polls, what `SDL_GetTicks` returns at the
`if`, to the `static` where it is set, and for `now`, and the menu. -/
structure Iteration where
  events : List SdlEvent
  ticks : UInt64
  startTicks : UInt64
  now : UInt64
  menu : ThemesMenu

/-- The frame an iteration draws, with the background it pushes. -/
inductive Drawn
  | boot (windowBg : ImVec4)
  | dashboard (windowBg : ImVec4)
  deriving DecidableEq, Repr

/-- The loop has been left. -/
inductive Ended
  | ended
  deriving DecidableEq, Repr

/-- The loop over `SDL_PollEvent`. -/
def pollEvents : List SdlEvent → Bool → Bool
  | [], done => done
  | ev :: rest, done => pollEvents rest (if ev = .quit then true else done)

/-- `RenderPS4BootSequence`: the background it pushes, and its `static`. -/
def renderPS4BootSequence (start : Option UInt64) (startTicks now : UInt64) :
    ImVec4 × Option UInt64 :=
  let start := start.getD startTicks
  let alpha := if now - start < 2000 then 100 else 0
  (⟨0, 0, 0, alpha⟩, some start)

/-- The body of the loop. -/
def iterate (main : Main) (sdl : Iteration) : Drawn × Main :=
  let main := { main with done := pollEvents sdl.events main.done }
  if sdl.ticks - main.bootStart < 3000 then
    let (windowBg, start) := renderPS4BootSequence main.start sdl.startTicks sdl.now
    (.boot windowBg, { main with start })
  else
    let (windowBg, themeManager) := renderPS4Dashboard main.themeManager sdl.menu
    (.dashboard windowBg, { main with themeManager })

def mainLoop : System Main Iteration Drawn Ended where
  start main := main.done = false ∧ main.start = none ∧ main.themeManager.themes = []
  step main sdl := if main.done then .error .ended else .ok (iterate main sdl)

abbrev LoopStep := Transition Main Iteration Drawn

/-- What an iteration read from the clock, newest first. -/
def readings (t : LoopStep) : List UInt64 :=
  if t.action.ticks - t.pre.bootStart < 3000 then
    t.action.now :: (if t.pre.start = none then [t.action.startTicks] else []) ++ [t.action.ticks]
  else [t.action.ticks]

/-- All readings of a run, newest first, down to the one before the loop. -/
def clock (history : List LoopStep) (main : Main) : List UInt64 :=
  history.flatMap readings ++ [main.bootStart]

/-- `SDL_GetTicks` never returns less than it did before. -/
def ClockForward (history : List LoopStep) (main : Main) : Prop :=
  (clock history main).Pairwise fun later earlier => earlier ≤ later

instance (history : List LoopStep) (main : Main) : Decidable (ClockForward history main) :=
  inferInstanceAs (Decidable (List.Pairwise (fun later earlier : UInt64 => earlier ≤ later) _))

/-- How far a frame is: the opaque boot sequence, the transparent one, and the dashboard. -/
def Drawn.stage : Drawn → Nat
  | .boot windowBg => if windowBg.w = 0 then 1 else 0
  | .dashboard _ => 2

/-! ### One iteration -/

section Iteration

variable {t : LoopStep}

theorem stage_le (drawn : Drawn) : drawn.stage ≤ 2 := by
  rcases drawn with windowBg | windowBg
  · show (if windowBg.w = 0 then 1 else 0) ≤ 2
    split_ifs <;> decide
  · exact le_rfl

theorem pollEvents_eq (events : List SdlEvent) (done : Bool) :
    pollEvents events done = true ↔ done = true ∨ SdlEvent.quit ∈ events := by
  induction events generalizing done with
  | nil => simp [pollEvents]
  | cons ev rest ih =>
      rw [pollEvents, ih, List.mem_cons]
      split_ifs with quit
      · simp [quit]
      · simp [Ne.symm quit]

theorem did_of_step (taken : mainLoop.step t.pre t.action = .ok (t.answer, t.post)) :
    t.pre.done = false ∧ iterate t.pre t.action = (t.answer, t.post) := by
  unfold mainLoop at taken
  dsimp only at taken
  split_ifs at taken with done
  exact ⟨Bool.eq_false_iff.mpr done, Except.ok.inj taken⟩

/-- **An iteration** of the boot sequence, or of the dashboard. -/
theorem iterate_cases (did : iterate t.pre t.action = (t.answer, t.post)) :
    t.post.done = pollEvents t.action.events t.pre.done ∧ t.post.bootStart = t.pre.bootStart ∧
      (t.action.ticks - t.pre.bootStart < 3000 ∧ t.post.themeManager = t.pre.themeManager ∧
          (∃ start, t.pre.start.getD t.action.startTicks = start ∧ t.post.start = some start ∧
            t.answer = .boot ⟨0, 0, 0, if t.action.now - start < 2000 then 100 else 0⟩) ∨
        ¬ t.action.ticks - t.pre.bootStart < 3000 ∧ t.post.start = t.pre.start ∧
          dashboard.step t.pre.themeManager t.action.menu =
            .ok ((renderPS4Dashboard t.pre.themeManager t.action.menu).1, t.post.themeManager) ∧
          t.answer = .dashboard (renderPS4Dashboard t.pre.themeManager t.action.menu).1) := by
  rw [← show _ = t.answer from congrArg Prod.fst did, ← show _ = t.post from congrArg Prod.snd did]
  unfold iterate
  dsimp only
  split_ifs with booting
  · exact ⟨rfl, rfl, .inl ⟨booting, rfl, _, rfl, rfl, rfl⟩⟩
  · exact ⟨rfl, rfl, .inr ⟨booting, rfl, rfl, rfl⟩⟩

end Iteration

/-! ### The stages of a run -/

section Stages

variable {t : LoopStep} {history : List LoopStep} {main : Main}

theorem bootStart_le (forward : ClockForward history main) {reading : UInt64}
    (member : reading ∈ clock history main) : main.bootStart ≤ reading := by
  rcases List.mem_append.mp member with before | last
  · exact (List.pairwise_append.mp forward).2.2 reading before _ List.mem_cons_self
  · rw [List.mem_singleton.mp last]
    exact UInt64.le_refl _

/-- What lies between a reading and one near it is near it. -/
theorem near_of_near {start early late span : UInt64} (first : start ≤ early) (second : early ≤ late)
    (near : late - start < span) : early - start < span := by
  rw [UInt64.le_iff_toNat_le] at first second
  rw [UInt64.lt_iff_toNat_lt] at near ⊢
  rw [UInt64.toNat_sub_of_le _ _ (UInt64.le_iff_toNat_le.mpr (first.trans second))] at near
  rw [UInt64.toNat_sub_of_le _ _ (UInt64.le_iff_toNat_le.mpr first)]
  omega

/-- What the frames so far say about the clock and the `static`. -/
structure Timeline (history : List LoopStep) (main : Main) : Prop where
  started : ∀ start, main.start = some start → start ∈ clock history main
  shown : ∀ t ∈ history, t.answer.stage = 2 →
    ∃ reading ∈ clock history main, ¬ reading - main.bootStart < 3000
  dimmed : ∀ t ∈ history, t.answer.stage = 1 → ∃ start, main.start = some start ∧
    ∃ reading ∈ clock history main, start ≤ reading ∧ ¬ reading - start < 2000
  sorted : (history.map fun t => t.answer.stage).Pairwise fun later earlier => earlier ≤ later

theorem clock_cons (same : t.post.bootStart = t.pre.bootStart) :
    clock (t :: history) t.post = readings t ++ clock history t.pre := by
  unfold clock
  rw [List.flatMap_cons, List.append_assoc, same]

/-- The `static` was read before `now`. -/
theorem start_le_now (booting : t.action.ticks - t.pre.bootStart < 3000) {start : UInt64}
    (set : t.pre.start.getD t.action.startTicks = start)
    (started : ∀ start, t.pre.start = some start → start ∈ clock history t.pre)
    (forward : (readings t ++ clock history t.pre).Pairwise fun later earlier => earlier ≤ later) :
    start ∈ readings t ++ clock history t.pre ∧ start ≤ t.action.now := by
  unfold readings at forward ⊢
  rw [if_pos booting] at forward ⊢
  rcases before : t.pre.start with _ | start'
  · rw [before] at set forward
    rw [← show t.action.startTicks = start from set]
    have inside : t.action.startTicks ∈ [t.action.startTicks] ++ [t.action.ticks] ++
        clock history t.pre := List.mem_cons_self
    exact ⟨List.mem_cons_of_mem _ inside, (List.pairwise_cons.mp forward).1 _ inside⟩
  · rw [before] at set forward
    rw [← show start' = start from set]
    have inside : start' ∈ [] ++ [t.action.ticks] ++ clock history t.pre :=
      List.mem_append_right _ (started start' before)
    exact ⟨List.mem_cons_of_mem _ inside, (List.pairwise_cons.mp forward).1 _ inside⟩

theorem mem_clock_cons (same : t.post.bootStart = t.pre.bootStart) {reading : UInt64} :
    reading ∈ clock (t :: history) t.post ↔ reading ∈ readings t ∨ reading ∈ clock history t.pre := by
  rw [clock_cons same, List.mem_append]

/-- No frame is of a later stage than the dashboard. -/
theorem Timeline.dashboard (timeline : Timeline history t.pre)
    (same : t.post.bootStart = t.pre.bootStart)
    (shown : ¬ t.action.ticks - t.pre.bootStart < 3000) (post : t.post.start = t.pre.start)
    (stage : t.answer.stage = 2) : Timeline (t :: history) t.post := by
  have ticks : t.action.ticks ∈ clock (t :: history) t.post :=
    (mem_clock_cons same).mpr (.inl (by simp [readings, shown]))
  refine ⟨?_, ?_, ?_, ?_⟩
  · rw [post]
    exact fun start known => (mem_clock_cons same).mpr (.inr (timeline.started start known))
  · intro u member dashboard
    rw [same]
    rcases List.mem_cons.mp member with rfl | older
    · exact ⟨_, ticks, shown⟩
    · obtain ⟨reading, here, far⟩ := timeline.shown u older dashboard
      exact ⟨reading, (mem_clock_cons same).mpr (.inr here), far⟩
  · intro u member dimmed
    rw [post]
    rcases List.mem_cons.mp member with rfl | older
    · exact absurd (stage.symm.trans dimmed) (by decide)
    · obtain ⟨start, known, reading, here, far⟩ := timeline.dimmed u older dimmed
      exact ⟨start, known, reading, (mem_clock_cons same).mpr (.inr here), far⟩
  · rw [List.map_cons, List.pairwise_cons]
    refine ⟨?_, timeline.sorted⟩
    intro earlier member
    obtain ⟨u, _, rfl⟩ := List.mem_map.mp member
    rw [stage]
    exact stage_le u.answer

/-- The boot sequence is not drawn after the dashboard. -/
theorem Timeline.not_shown (timeline : Timeline history t.pre)
    (forward : (readings t ++ clock history t.pre).Pairwise fun later earlier => earlier ≤ later)
    (booting : t.action.ticks - t.pre.bootStart < 3000) :
    ∀ u ∈ history, u.answer.stage ≠ 2 := by
  intro u member dashboard
  obtain ⟨_, before, later⟩ := List.pairwise_append.mp forward
  have ticks : t.action.ticks ∈ readings t := by simp [readings, booting]
  obtain ⟨reading, here, far⟩ := timeline.shown u member dashboard
  exact far (near_of_near (bootStart_le before here) (later _ ticks _ here) booting)

/-- After a transparent frame the `static` stays, and the next boot frame is transparent too. -/
theorem Timeline.stays_dimmed (timeline : Timeline history t.pre)
    (forward : (readings t ++ clock history t.pre).Pairwise fun later earlier => earlier ≤ later)
    (booting : t.action.ticks - t.pre.bootStart < 3000) {start : UInt64}
    (set : t.pre.start.getD t.action.startTicks = start) :
    ∀ u ∈ history, u.answer.stage = 1 →
      t.pre.start = some start ∧ ¬ t.action.now - start < 2000 := by
  intro u member dimmed
  obtain ⟨_, _, later⟩ := List.pairwise_append.mp forward
  have now : t.action.now ∈ readings t := by simp [readings, booting]
  obtain ⟨start', known, reading, here, since, far⟩ := timeline.dimmed u member dimmed
  obtain rfl : start' = start := by
    rw [← set, known]
    rfl
  exact ⟨known, fun near => far (near_of_near since (later _ now _ here) near)⟩

/-- A frame of the boot sequence. -/
theorem Timeline.boot (timeline : Timeline history t.pre)
    (same : t.post.bootStart = t.pre.bootStart)
    (forward : (readings t ++ clock history t.pre).Pairwise fun later earlier => earlier ≤ later)
    (booting : t.action.ticks - t.pre.bootStart < 3000) {start : UInt64}
    (set : t.pre.start.getD t.action.startTicks = start) (post : t.post.start = some start)
    (stage : t.answer.stage = if t.action.now - start < 2000 then 0 else 1) :
    Timeline (t :: history) t.post := by
  have now : t.action.now ∈ readings t := by simp [readings, booting]
  obtain ⟨inside, order⟩ := start_le_now booting set timeline.started forward
  have notShown := timeline.not_shown forward booting
  have dim := timeline.stays_dimmed forward booting set
  refine ⟨?_, ?_, ?_, ?_⟩
  · rw [post, clock_cons same]
    rintro _ ⟨⟩
    exact inside
  · intro u member dashboard
    rcases List.mem_cons.mp member with rfl | older
    · rw [stage] at dashboard
      split_ifs at dashboard
      exact absurd dashboard (by decide)
    · exact absurd dashboard (notShown u older)
  · intro u member dimmed
    rcases List.mem_cons.mp member with rfl | older
    · rw [stage] at dimmed
      split_ifs at dimmed with near
      exact ⟨start, post, _, (mem_clock_cons same).mpr (.inl now), order, near⟩
    · obtain ⟨start', known, reading, here, far⟩ := timeline.dimmed u older dimmed
      refine ⟨start', ?_, reading, (mem_clock_cons same).mpr (.inr here), far⟩
      rw [post, ← (dim u older dimmed).1, known]
  · rw [List.map_cons, List.pairwise_cons]
    refine ⟨?_, timeline.sorted⟩
    intro earlier member
    obtain ⟨u, older, rfl⟩ := List.mem_map.mp member
    have notShown := notShown u older
    have dim := dim u older
    have bound := stage_le u.answer
    rw [stage]
    split_ifs with near
    · have notDim : u.answer.stage ≠ 1 := fun dimmed => (dim dimmed).2 near
      omega
    · omega

/-- One more iteration, on a clock that has not gone back. -/
theorem Timeline.cons (timeline : Timeline history t.pre)
    (did : iterate t.pre t.action = (t.answer, t.post)) (forward : ClockForward (t :: history) t.post) :
    Timeline (t :: history) t.post := by
  obtain ⟨_, same, cases⟩ := iterate_cases did
  unfold ClockForward at forward
  rw [clock_cons same] at forward
  obtain ⟨booting, _, start, set, post, drew⟩ | ⟨shown, post, _, drew⟩ := cases
  · refine timeline.boot same forward booting set post ?_
    rw [drew, Drawn.stage]
    split_ifs <;> simp_all
  · refine timeline.dashboard same shown post ?_
    rw [drew]
    rfl

theorem Timeline.of_run (run : mainLoop.Run history main) (forward : ClockForward history main) :
    Timeline history main := by
  refine run.history_invariant (fun history main => ClockForward history main →
    Timeline history main) ?_ ?_ forward
  · rintro main ⟨_, none, _⟩ _
    refine ⟨?_, List.forall_mem_nil _, List.forall_mem_nil _, List.Pairwise.nil⟩
    rw [none]
    exact nofun
  · intro t older _ timeline taken forward
    have did := (did_of_step taken).2
    refine (timeline ?_).cons did forward
    unfold ClockForward at forward
    rw [clock_cons (iterate_cases did).2.1] at forward
    exact (List.pairwise_append.mp forward).2.1

/-- **The stages of a run**: on a clock that does not go back, the opaque boot sequence comes first,
then the transparent one, then the dashboard, and none of them comes again. -/
theorem frames_forward (run : mainLoop.Run history main) (forward : ClockForward history main) :
    (history.map fun t => t.answer.stage).Pairwise fun later earlier => earlier ≤ later :=
  (Timeline.of_run run forward).sorted

end Stages

/-! ### The end of the loop -/

section Runs

variable {history : List LoopStep} {main : Main}

/-- **The loop ends with the first `SDL_QUIT`.** Only the newest iteration of a run can have polled one,
and the loop goes on after it exactly if it did not. -/
theorem loop_ends (run : mainLoop.Run history main) :
    (∀ t ∈ history.tail, SdlEvent.quit ∉ t.action.events) ∧
      (main.done = true ↔ ∃ t ∈ history.head?, SdlEvent.quit ∈ t.action.events) := by
  refine run.history_invariant (fun history main =>
    (∀ t ∈ history.tail, SdlEvent.quit ∉ t.action.events) ∧
      (main.done = true ↔ ∃ t ∈ history.head?, SdlEvent.quit ∈ t.action.events)) ?_ ?_
  · rintro main ⟨goesOn, _⟩
    refine ⟨List.forall_mem_nil _, ?_⟩
    rw [goesOn]
    simp
  · rintro t older _ ⟨before, done⟩ taken
    obtain ⟨goesOn, did⟩ := did_of_step taken
    refine ⟨?_, ?_⟩
    · rcases older with _ | ⟨last, older⟩
      · exact List.forall_mem_nil _
      · rw [goesOn] at done
        have quiet : SdlEvent.quit ∉ last.action.events := fun quit =>
          absurd (done.mpr ⟨last, rfl, quit⟩) (by decide)
        exact List.forall_mem_cons.mpr ⟨quiet, before⟩
    · rw [(iterate_cases did).1, pollEvents_eq, goesOn]
      simp

/-! ### The dashboard in the loop -/

/-- A frame of the dashboard, as a step of `dashboard`. -/
def dashboardFrame (t : LoopStep) : Option Frame :=
  match t.answer with
  | .boot _ => none
  | .dashboard windowBg => some ⟨t.pre.themeManager, t.action.menu, windowBg, t.post.themeManager⟩

/-- **The dashboard's frames** are a run of `dashboard`, whatever was drawn between them. -/
theorem dashboard_frames (run : mainLoop.Run history main) :
    dashboard.Run (history.filterMap dashboardFrame) main.themeManager := by
  refine run.history_invariant (fun history main =>
    dashboard.Run (history.filterMap dashboardFrame) main.themeManager) ?_ ?_
  · rintro main ⟨_, _, none⟩
    exact .start none
  · intro t older _ frames taken
    obtain ⟨_, _, ⟨_, same, _, _, _, drew⟩ | ⟨_, _, drawn, drew⟩⟩ :=
      iterate_cases (did_of_step taken).2
    · rw [List.filterMap_cons_none (by unfold dashboardFrame; rw [drew]), same]
      exact frames
    · rw [List.filterMap_cons_some (by unfold dashboardFrame; rw [drew])]
      exact frames.step drawn

/-- **The themes over a run of the loop**: every frame of the dashboard pushes the background of
`Default`, and the list has grown by both themes for each of them. -/
theorem loop_themes (run : mainLoop.Run history main) :
    (∀ t ∈ history, ∀ windowBg, t.answer = .dashboard windowBg →
        windowBg = defaultTheme.backgroundColor) ∧
      main.themeManager.themes.length = 2 * (history.filterMap dashboardFrame).length := by
  have frames := dashboard_frames run
  refine ⟨fun t member windowBg drew => ?_, themes_length frames⟩
  have here : (⟨t.pre.themeManager, t.action.menu, windowBg, t.post.themeManager⟩ : Frame) ∈
      history.filterMap dashboardFrame :=
    List.mem_filterMap.mpr ⟨t, member, by unfold dashboardFrame; rw [drew]⟩
  exact pushed_default frames here

end Runs

section Session

/-- An iteration of the loop without a click. -/
def sdl (events : List SdlEvent) (ticks : UInt64) : Iteration :=
  ⟨events, ticks, ticks + 1, ticks + 2, ⟨false, fun _ => false⟩⟩

/-- Two frames of the boot sequence, and two of the dashboard; the last polls `SDL_QUIT`. -/
def bootAndQuit : List Iteration :=
  [sdl [] 100, sdl [.other] 2500, sdl [] 3100, sdl [.other, .quit] 3116]

/-- `main`, before the loop. -/
def beforeLoop : Main := ⟨false, 100, none, ⟨[], darkTheme⟩⟩

theorem frames_forward_session :
    ∃ history main, mainLoop.Run history main ∧
      (history.map fun t => t.answer.stage) = [2, 2, 1, 0] ∧
      (history.map fun t => t.answer.stage).Pairwise fun later earlier => earlier ≤ later := by
  have run : mainLoop.Run _ _ :=
    .of_exec (show mainLoop.start beforeLoop from ⟨rfl, rfl, rfl⟩) bootAndQuit rfl
  exact ⟨_, _, run, by decide, frames_forward run (by decide)⟩

end Session

end LayraPS4.Dashboard
