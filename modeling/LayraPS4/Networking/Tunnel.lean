/-
**The LAN Play tunnel over whole runs.**

Three links are meant to hold between the tunnel and the rest of the core: it runs exactly in LAN
Play mode (`TunnelMatchesMode`), it uses the relay of the config in force (`RelayInForce`), and
`Shutdown` leaves none behind (`ShutDown`). Each fails on some runs, and each theorem says on which:

* `tunnelMatchesMode_iff`: `Init` does not restart the tunnel that `Shutdown` stopped in LAN Play
  mode;
* `relayInForce_iff`: `UpdateConfig` starts the tunnel before it stores the new config, and does not
  restart it for a new relay;
* `shutDown_iff`: `Shutdown` returns early on a core that is not initialized, although the tunnel
  can be started on one.

The conditions are read off the calls alone (`modeAfter`, `initializedAfter`,
`shutDownInLanPlay`, `startedUninitialized`: newest call first).
-/

import LayraPS4.Networking.NetworkingCore

namespace LayraPS4.Networking

open Cxx Runs

/-! ### What the calls say -/

/-- The mode in force after these calls. -/
def modeAfter : List PublicCall → Mode
  | [] => .disabled
  | .core (.updateConfig newConfig) :: _ => newConfig.mode
  | _ :: older => modeAfter older

/-- Whether the core is initialized after these calls. -/
def initializedAfter : List PublicCall → Bool
  | [] => false
  | .core .init :: _ => true
  | .core .shutdown :: _ => false
  | _ :: older => initializedAfter older

/-- An initialized core was shut down in LAN Play mode, and that mode has stayed in force. -/
def shutDownInLanPlay : List PublicCall → Prop
  | [] => False
  | .core .shutdown :: older =>
      (initializedAfter older = true ∧ modeAfter older = .lanPlay) ∨ shutDownInLanPlay older
  | .core (.updateConfig newConfig) :: older =>
      newConfig.mode = .lanPlay ∧ shutDownInLanPlay older
  | _ :: older => shutDownInLanPlay older

/-- A tunnel was started while the core was not initialized, and neither has it been stopped nor
the core been initialized since. -/
def startedUninitialized : List PublicCall → Prop
  | [] => False
  | .core .init :: _ => False
  | .core .shutdown :: older => startedUninitialized older
  | .core (.updateConfig newConfig) :: older =>
      if newConfig.mode = .lanPlay then
        if modeAfter older = .lanPlay then startedUninitialized older
        else initializedAfter older = false
      else modeAfter older ≠ .lanPlay ∧ startedUninitialized older
  | .startLANPlayTunnel :: older => initializedAfter older = false
  | .stopLANPlayTunnel :: _ => False

theorem shutDownInLanPlay_mode {calls : List PublicCall} (lost : shutDownInLanPlay calls) :
    modeAfter calls = .lanPlay := by
  induction calls with
  | nil => exact lost.elim
  | cons call older ih =>
      match call, lost with
      | .core .init, lost => exact ih lost
      | .core .shutdown, .inl first => exact first.2
      | .core .shutdown, .inr before => exact ih before
      | .core (.updateConfig _), lost => exact lost.1
      | .startLANPlayTunnel, lost => exact ih lost
      | .stopLANPlayTunnel, lost => exact ih lost

/-- The calls have set this mode, and initialized the core or not. -/
structure Settled (calls : List PublicCall) (core : NetworkingCore) : Prop where
  mode : core.currentConfig.mode = modeAfter calls
  initialized : core.isInitialized = initializedAfter calls

theorem Settled.new : Settled [] .new := ⟨rfl, rfl⟩

theorem Settled.call {calls : List PublicCall} {core : NetworkingCore} (settled : Settled calls core)
    (call : PublicCall) : Settled (call :: calls) (core.publicCall call) := by
  obtain ⟨mode, initialized⟩ := settled
  match call with
  | .core .init =>
      exact ⟨(congrArg Config.mode core.init_config).trans mode, core.init_isInitialized⟩
  | .core .shutdown =>
      exact ⟨(congrArg Config.mode core.shutdown_config).trans mode, core.shutdown_isInitialized⟩
  | .core (.updateConfig newConfig) =>
      exact ⟨rfl, (core.updateConfig_isInitialized newConfig).trans initialized⟩
  | .startLANPlayTunnel =>
      exact ⟨(congrArg Config.mode core.startLANPlayTunnel_config).trans mode,
        core.startLANPlayTunnel_isInitialized.trans initialized⟩
  | .stopLANPlayTunnel =>
      exact ⟨(congrArg Config.mode core.stopLANPlayTunnel_config).trans mode,
        core.stopLANPlayTunnel_isInitialized.trans initialized⟩

/-! ### The tunnel and the mode -/

section Mode

/-- The calls of a run of `Init`, `Shutdown` and `UpdateConfig`. -/
def coreCalls (history : History NetworkingCore CoreCall Unit) : List PublicCall :=
  history.map fun t => .core t.action

/-- On an initialized core the tunnel runs exactly in LAN Play mode. -/
def TunnelMatchesMode (core : NetworkingCore) : Prop :=
  core.isInitialized = true →
    (core.lanPlayTunnelHandle ≠ none ↔ core.currentConfig.mode = .lanPlay)

/-- Without the two tunnel operations, the tunnel is stopped exactly outside LAN Play mode and
after a `Shutdown` in it. -/
structure CoreSettled (calls : List PublicCall) (core : NetworkingCore) : Prop
    extends Settled calls core where
  stopped : core.lanPlayTunnelHandle = none ↔
    modeAfter calls ≠ .lanPlay ∨ shutDownInLanPlay calls

theorem CoreSettled.new : CoreSettled [] .new :=
  { Settled.new with stopped := by simp [NetworkingCore.new, modeAfter] }

theorem CoreSettled.call {calls : List PublicCall} {core : NetworkingCore}
    (settled : CoreSettled calls core) (call : CoreCall) :
    CoreSettled (.core call :: calls) (core.call call) := by
  refine { settled.toSettled.call (.core call) with stopped := ?_ }
  obtain ⟨⟨mode, initialized⟩, stopped⟩ := settled
  cases call with
  | init =>
      show core.init.lanPlayTunnelHandle = none ↔ _
      rw [core.init_handle]
      exact stopped
  | shutdown =>
      show core.shutdown.lanPlayTunnelHandle = none ↔ modeAfter calls ≠ .lanPlay ∨
        (initializedAfter calls = true ∧ modeAfter calls = .lanPlay) ∨ shutDownInLanPlay calls
      rw [core.shutdown_handle, initialized]
      cases up : initializedAfter calls with
      | true => simp [← or_assoc, Classical.em, or_comm]
      | false => simpa using stopped
  | updateConfig newConfig =>
      show (core.updateConfig newConfig).lanPlayTunnelHandle = none ↔
        newConfig.mode ≠ .lanPlay ∨ (newConfig.mode = .lanPlay ∧ shutDownInLanPlay calls)
      rw [core.updateConfig_handle, mode]
      by_cases target : newConfig.mode = .lanPlay <;>
        by_cases source : modeAfter calls = .lanPlay
      · simpa [target, source] using stopped
      · -- the switch into LAN Play: the tunnel was not running, and is started
        have idle : core.lanPlayTunnelHandle = none := stopped.mpr (.inl source)
        have kept : ¬ shutDownInLanPlay calls := mt shutDownInLanPlay_mode source
        simp [target, source, core.startLANPlayTunnel_stopped idle, kept]
      · simp [target, source]
      · simpa [target, source] using stopped

/-- A step of a run of `Init`, `Shutdown` and `UpdateConfig`. -/
theorem coreSystem_post {t : Transition NetworkingCore CoreCall Unit}
    (taken : coreSystem.step t.pre t.action = .ok (t.answer, t.post)) :
    t.post = t.pre.call t.action := (congrArg Prod.snd (Except.ok.inj taken)).symm

theorem coreSettled {history : History NetworkingCore CoreCall Unit} {core : NetworkingCore}
    (run : coreSystem.Run history core) : CoreSettled (coreCalls history) core := by
  refine run.history_invariant (fun history core => CoreSettled (coreCalls history) core) ?_ ?_
  · rintro core rfl
    exact .new
  · intro t older _ settled taken
    rw [coreSystem_post taken]
    exact settled.call t.action

/-- `UpdateConfig` keeps the tunnel in step with the mode. -/
theorem updateConfig_matches {core : NetworkingCore} (newConfig : Config)
    (inStep : core.lanPlayTunnelHandle ≠ none ↔ core.currentConfig.mode = .lanPlay) :
    (core.updateConfig newConfig).lanPlayTunnelHandle ≠ none ↔ newConfig.mode = .lanPlay := by
  rw [core.updateConfig_handle]
  by_cases target : newConfig.mode = .lanPlay <;>
    by_cases source : core.currentConfig.mode = .lanPlay
  · simpa [target, source] using inStep.mpr source
  · have idle : core.lanPlayTunnelHandle = none := not_not.mp (mt inStep.mp source)
    simp [target, source, core.startLANPlayTunnel_stopped idle]
  · simp [target, source]
  · simpa [target, source] using mt inStep.mp source

/-- An `Init` that finds LAN Play mode in force finds its tunnel running. -/
def InitFindsTunnel (t : Transition NetworkingCore CoreCall Unit) : Prop :=
  t.action = .init → t.pre.currentConfig.mode = .lanPlay → t.pre.lanPlayTunnelHandle ≠ none

theorem tunnelMatchesMode_iff_initFindsTunnel {history : History NetworkingCore CoreCall Unit}
    {core : NetworkingCore} (run : coreSystem.Run history core) :
    (∀ t ∈ history, TunnelMatchesMode t.post) ↔ ∀ t ∈ history, InitFindsTunnel t := by
  refine run.good_iff
    (fun core => core.lanPlayTunnelHandle ≠ none → core.currentConfig.mode = .lanPlay) _ _
    ?_ ?_ ?_ ?_
  · intro older core earlier running
    obtain ⟨⟨mode, _⟩, stopped⟩ := coreSettled earlier
    rw [mode]
    exact not_not.mp fun other => running (stopped.mpr (.inl other))
  · rintro core rfl up
    cases up
  · intro t inMode good taken safe up
    rw [coreSystem_post taken] at up ⊢
    cases action : t.action with
    | init =>
        simp only [NetworkingCore.call, NetworkingCore.init_handle, NetworkingCore.init_config]
        exact ⟨inMode, safe action⟩
    | shutdown => simp [action, NetworkingCore.call] at up
    | updateConfig newConfig =>
        simp only [action, NetworkingCore.call, NetworkingCore.updateConfig_isInitialized] at up
        exact updateConfig_matches newConfig (good up)
  · intro t _ _ taken notSafe good
    unfold InitFindsTunnel at notSafe
    push Not at notSafe
    obtain ⟨action, mode, stopped⟩ := notSafe
    rw [coreSystem_post taken, action] at good
    exact (good (NetworkingCore.init_isInitialized _)).mpr
      ((congrArg Config.mode (NetworkingCore.init_config _)).trans mode)
      ((NetworkingCore.init_handle _).trans stopped)

/-- **The tunnel and the mode.** In every state of a run the tunnel of an initialized core runs
exactly in LAN Play mode, if and only if no `Init` of the run comes after a `Shutdown` in LAN Play
mode that no `UpdateConfig` has left since. -/
theorem tunnelMatchesMode_iff {history : History NetworkingCore CoreCall Unit}
    {core : NetworkingCore} (run : coreSystem.Run history core) :
    (∀ t ∈ history, TunnelMatchesMode t.post) ↔
      ∀ newer t older, history = newer ++ t :: older → t.action = .init →
        ¬ shutDownInLanPlay (coreCalls older) := by
  rw [tunnelMatchesMode_iff_initFindsTunnel run]
  have settled : ∀ newer t older, history = newer ++ t :: older →
      CoreSettled (coreCalls older) t.pre := by
    rintro newer t older rfl
    exact coreSettled run.split.uncons.1
  constructor
  · intro safe newer t older parts action lost
    obtain ⟨⟨mode, _⟩, stopped⟩ := settled newer t older parts
    have member : t ∈ history := by
      rw [parts]
      exact List.mem_append_right _ List.mem_cons_self
    exact safe t member action (mode.trans (shutDownInLanPlay_mode lost)) (stopped.mpr (.inr lost))
  · intro never t member action mode stopped
    obtain ⟨newer, older, parts⟩ := List.append_of_mem member
    have here := settled newer t older parts
    rcases here.stopped.mp stopped with other | lost
    · exact other (here.mode.symm.trans mode)
    · exact never newer t older parts action lost

/-- `Init` after a `Shutdown` in LAN Play mode: the core is initialized, the mode is still LAN Play,
and no tunnel runs. -/
theorem restarted_without_tunnel :
    ∃ history core, coreSystem.Run history core ∧
      (history.map fun t => t.action) =
        [.init, .shutdown, .updateConfig { mode := .lanPlay }, .init] ∧
      ¬ TunnelMatchesMode core := by
  refine ⟨_, _, .of_exec rfl [.init, .updateConfig { mode := .lanPlay }, .shutdown, .init] rfl,
    rfl, fun inStep => ?_⟩
  exact (inStep rfl).mpr rfl rfl

theorem tunnelMatchesMode_iff_session :
    ∃ history core, coreSystem.Run history core ∧
      (history.map fun t => t.action) =
        [.init, .updateConfig { mode := .disabled }, .shutdown,
          .updateConfig { mode := .lanPlay }, .init] ∧
      ((∀ t ∈ history, TunnelMatchesMode t.post) ↔
        ∀ newer t older, history = newer ++ t :: older → t.action = .init →
          ¬ shutDownInLanPlay (coreCalls older)) := by
  have run : coreSystem.Run _ _ := .of_exec rfl [.init, .updateConfig { mode := .lanPlay },
    .shutdown, .updateConfig { mode := .disabled }, .init] rfl
  exact ⟨_, _, run, rfl, tunnelMatchesMode_iff run⟩

end Mode

/-! ### The tunnel and its relay -/

section Relay

/-- A running tunnel uses the relay of the config in force. -/
def RelayInForce (core : NetworkingCore) : Prop :=
  ∀ tunnel, core.lanPlayTunnelHandle = some tunnel →
    tunnel.relay = core.currentConfig.lanPlayRelayAddress

/-- An `UpdateConfig` into LAN Play mode that starts the tunnel, or finds it running, brings no new
relay. -/
def KeepsRelay (t : Transition NetworkingCore CoreCall Unit) : Prop :=
  ∀ newConfig, t.action = .updateConfig newConfig → newConfig.mode = .lanPlay →
    (t.pre.currentConfig.mode ≠ .lanPlay ∨ t.pre.lanPlayTunnelHandle ≠ none) →
      newConfig.lanPlayRelayAddress = t.pre.currentConfig.lanPlayRelayAddress

/-- Switching into LAN Play mode starts the tunnel with the relay of the config being replaced. -/
theorem updateConfig_switch {core : NetworkingCore} {newConfig : Config}
    (idle : core.lanPlayTunnelHandle = none) (source : core.currentConfig.mode ≠ .lanPlay)
    (target : newConfig.mode = .lanPlay) :
    (core.updateConfig newConfig).lanPlayTunnelHandle =
      some ⟨core.currentConfig.lanPlayRelayAddress⟩ := by
  rw [core.updateConfig_handle, if_pos target, if_neg source, core.startLANPlayTunnel_stopped idle]

/-- **The tunnel and its relay.** In every state of a run the running tunnel uses the relay of the
config in force, if and only if every `UpdateConfig` into LAN Play mode that starts the tunnel or
finds it running carries the relay address already in force. -/
theorem relayInForce_iff {history : History NetworkingCore CoreCall Unit} {core : NetworkingCore}
    (run : coreSystem.Run history core) :
    (∀ t ∈ history, RelayInForce t.post) ↔ ∀ t ∈ history, KeepsRelay t := by
  refine run.good_iff
    (fun core => core.currentConfig.mode ≠ .lanPlay → core.lanPlayTunnelHandle = none) _ _
    ?_ ?_ ?_ ?_
  · intro older core earlier other
    obtain ⟨⟨mode, _⟩, stopped⟩ := coreSettled earlier
    exact stopped.mpr (.inl (mode ▸ other))
  · rintro core rfl tunnel running
    cases running
  · intro t idle good taken safe tunnel running
    rw [coreSystem_post taken] at running ⊢
    cases action : t.action with
    | init =>
        simp only [action, NetworkingCore.call, NetworkingCore.init_handle] at running
        simpa [NetworkingCore.call] using good tunnel running
    | shutdown =>
        simp only [action, NetworkingCore.call, NetworkingCore.shutdown_handle] at running
        split at running
        · cases running
        · simpa [NetworkingCore.call] using good tunnel running
    | updateConfig newConfig =>
        simp only [action, NetworkingCore.call] at running ⊢
        show tunnel.relay = newConfig.lanPlayRelayAddress
        have keeps := safe newConfig action
        by_cases target : newConfig.mode = .lanPlay <;>
          by_cases source : t.pre.currentConfig.mode = .lanPlay
        · rw [NetworkingCore.updateConfig_handle, if_pos target, if_pos source] at running
          rw [keeps target (.inr (by simp [running])), good tunnel running]
        · rw [updateConfig_switch (idle source) source target] at running
          cases running
          exact (keeps target (.inl source)).symm
        · rw [NetworkingCore.updateConfig_handle, if_neg target, if_pos source] at running
          cases running
        · rw [NetworkingCore.updateConfig_handle, if_neg target, if_neg source, idle source]
            at running
          cases running
  · intro t idle before taken notSafe good
    unfold KeepsRelay at notSafe
    push Not at notSafe
    obtain ⟨newConfig, action, target, started, changed⟩ := notSafe
    rw [coreSystem_post taken, action] at good
    apply changed
    by_cases source : t.pre.currentConfig.mode = .lanPlay
    · obtain ⟨tunnel, running⟩ := Option.ne_none_iff_exists'.mp
        (started.resolve_left (not_not.mpr source))
      have kept : (t.pre.updateConfig newConfig).lanPlayTunnelHandle = some tunnel := by
        rw [NetworkingCore.updateConfig_handle, if_pos target, if_pos source, running]
      exact (good tunnel kept).symm.trans (before tunnel running)
    · exact (good _ (updateConfig_switch (idle source) source target)).symm

/-- One `UpdateConfig` into LAN Play mode with a relay of its own: the tunnel runs with the relay of
the config it replaced. -/
theorem started_with_old_relay :
    ∃ history core, coreSystem.Run history core ∧
      (history.map fun t => t.action) = [.updateConfig
        { mode := .lanPlay, lanPlayRelayAddress := ascii "relay.local:11451" }] ∧
      ¬ RelayInForce core := by
  refine ⟨_, _, .of_exec rfl [.updateConfig
    { mode := .lanPlay, lanPlayRelayAddress := ascii "relay.local:11451" }] rfl, rfl, fun same => ?_⟩
  exact absurd (same _ rfl) (by decide)

theorem relayInForce_iff_session :
    ∃ history core, coreSystem.Run history core ∧
      (history.map fun t => t.action) = [.updateConfig { mode := .lanPlay }, .init] ∧
      ((∀ t ∈ history, RelayInForce t.post) ↔ ∀ t ∈ history, KeepsRelay t) := by
  have run : coreSystem.Run _ _ := .of_exec rfl [.init, .updateConfig { mode := .lanPlay }] rfl
  exact ⟨_, _, run, rfl, relayInForce_iff run⟩

end Relay

/-! ### The tunnel and `Shutdown` -/

section Shutdown

/-- The calls of a run of the public operations. -/
def calls (history : History NetworkingCore PublicCall Unit) : List PublicCall :=
  history.map fun t => t.action

/-- What `Shutdown` is to leave: a core that is not initialized, and no tunnel. -/
def ShutDown (core : NetworkingCore) : Prop :=
  core.isInitialized = false ∧ core.lanPlayTunnelHandle = none

/-- A tunnel runs on a core that is not initialized exactly when the calls started one there. -/
structure PublicSettled (calls : List PublicCall) (core : NetworkingCore) : Prop
    extends Settled calls core where
  orphan : core.isInitialized = false ∧ core.lanPlayTunnelHandle ≠ none ↔
    startedUninitialized calls

theorem PublicSettled.new : PublicSettled [] .new :=
  { Settled.new with orphan := by simp [NetworkingCore.new, startedUninitialized] }

/-- Starting the tunnel leaves it running. -/
theorem startLANPlayTunnel_ne_none (core : NetworkingCore) :
    core.startLANPlayTunnel.lanPlayTunnelHandle ≠ none := by
  cases handle : core.lanPlayTunnelHandle with
  | none => simp [core.startLANPlayTunnel_stopped handle]
  | some tunnel => simp [core.startLANPlayTunnel_running handle]

theorem PublicSettled.call {calls : List PublicCall} {core : NetworkingCore}
    (settled : PublicSettled calls core) (call : PublicCall) :
    PublicSettled (call :: calls) (core.publicCall call) := by
  refine { settled.toSettled.call call with orphan := ?_ }
  obtain ⟨⟨mode, initialized⟩, orphan⟩ := settled
  match call with
  | .core .init =>
      show core.init.isInitialized = false ∧ core.init.lanPlayTunnelHandle ≠ none ↔ False
      simp
  | .core .shutdown =>
      show core.shutdown.isInitialized = false ∧ core.shutdown.lanPlayTunnelHandle ≠ none ↔
        startedUninitialized calls
      rw [← orphan, core.shutdown_isInitialized, core.shutdown_handle]
      cases core.isInitialized <;> simp
  | .core (.updateConfig newConfig) =>
      show (core.updateConfig newConfig).isInitialized = false ∧
          (core.updateConfig newConfig).lanPlayTunnelHandle ≠ none ↔
        if newConfig.mode = .lanPlay then
          if modeAfter calls = .lanPlay then startedUninitialized calls
          else initializedAfter calls = false
        else modeAfter calls ≠ .lanPlay ∧ startedUninitialized calls
      rw [core.updateConfig_isInitialized, core.updateConfig_handle, ← orphan, ← initialized,
        ← mode]
      have started := startLANPlayTunnel_ne_none core
      split_ifs <;> simp_all
  | .startLANPlayTunnel =>
      show core.startLANPlayTunnel.isInitialized = false ∧
        core.startLANPlayTunnel.lanPlayTunnelHandle ≠ none ↔ initializedAfter calls = false
      rw [core.startLANPlayTunnel_isInitialized, initialized]
      exact and_iff_left (startLANPlayTunnel_ne_none core)
  | .stopLANPlayTunnel =>
      show core.stopLANPlayTunnel.isInitialized = false ∧
        core.stopLANPlayTunnel.lanPlayTunnelHandle ≠ none ↔ False
      simp

theorem publicSystem_post {t : Transition NetworkingCore PublicCall Unit}
    (taken : publicSystem.step t.pre t.action = .ok (t.answer, t.post)) :
    t.post = t.pre.publicCall t.action := (congrArg Prod.snd (Except.ok.inj taken)).symm

theorem publicSettled {history : History NetworkingCore PublicCall Unit} {core : NetworkingCore}
    (run : publicSystem.Run history core) : PublicSettled (calls history) core := by
  refine run.history_invariant (fun history core => PublicSettled (calls history) core) ?_ ?_
  · rintro core rfl
    exact .new
  · intro t older _ settled taken
    rw [publicSystem_post taken]
    exact settled.call t.action

/-- `Shutdown` does its work on every core but one that runs a tunnel without being initialized. -/
theorem shutdown_shutDown_iff {calls : List PublicCall} {core : NetworkingCore}
    (settled : PublicSettled calls core) : ShutDown core.shutdown ↔ ¬ startedUninitialized calls := by
  unfold ShutDown
  rw [← settled.orphan, core.shutdown_isInitialized, core.shutdown_handle]
  cases core.isInitialized <;> simp

/-- **The tunnel and `Shutdown`.** Over a run of the five public operations and the destruction that
ends it, every `Shutdown` leaves a core that is not initialized and runs no tunnel, if and only if
none comes after a tunnel was started on a core that was not initialized, with the tunnel not
stopped and the core not initialized since. -/
theorem shutDown_iff {history : History NetworkingCore PublicCall Unit} {core : NetworkingCore}
    (run : publicSystem.Run history core) :
    ((∀ t ∈ history, t.action = .core .shutdown → ShutDown t.post) ∧ ShutDown core.destroy) ↔
      (∀ newer t older, history = newer ++ t :: older → t.action = .core .shutdown →
        ¬ startedUninitialized (calls older)) ∧ ¬ startedUninitialized (calls history) := by
  refine and_congr ?_ (shutdown_shutDown_iff (publicSettled run))
  have each : ∀ newer t older, history = newer ++ t :: older → t.action = .core .shutdown →
      (ShutDown t.post ↔ ¬ startedUninitialized (calls older)) := by
    rintro newer t older rfl action
    obtain ⟨earlier, taken, _⟩ := run.split.uncons
    rw [publicSystem_post taken, action]
    exact shutdown_shutDown_iff (publicSettled earlier)
  constructor
  · intro clean newer t older parts action
    have member : t ∈ history := by
      rw [parts]
      exact List.mem_append_right _ List.mem_cons_self
    exact (each newer t older parts action).mp (clean t member action)
  · intro never t member action
    obtain ⟨newer, older, parts⟩ := List.append_of_mem member
    exact (each newer t older parts action).mpr (never newer t older parts action)

/-- A tunnel started before `Init` survives `Shutdown`. -/
theorem shutdown_leaves_tunnel :
    ∃ history core, publicSystem.Run history core ∧
      (history.map fun t => t.action) = [.core .shutdown, .startLANPlayTunnel] ∧
      ¬ ShutDown core := by
  refine ⟨_, _, .of_exec rfl [.startLANPlayTunnel, .core .shutdown] rfl, rfl, fun clean => ?_⟩
  cases clean.2

theorem shutDown_iff_session :
    ∃ history core, publicSystem.Run history core ∧
      (history.map fun t => t.action) =
        [.core .shutdown, .core .init, .startLANPlayTunnel] ∧
      (((∀ t ∈ history, t.action = .core .shutdown → ShutDown t.post) ∧ ShutDown core.destroy) ↔
        (∀ newer t older, history = newer ++ t :: older → t.action = .core .shutdown →
          ¬ startedUninitialized (calls older)) ∧ ¬ startedUninitialized (calls history)) := by
  have run : publicSystem.Run _ _ :=
    .of_exec rfl [.startLANPlayTunnel, .core .init, .core .shutdown] rfl
  exact ⟨_, _, run, rfl, shutDown_iff run⟩

end Shutdown

end LayraPS4.Networking
