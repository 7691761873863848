/-
**The states of a `NetworkingCore`** (`core/networking/networking.cpp`).

`reachable_iff`: the emulator's own calls reach exactly the states in which a running tunnel means LAN
Play mode, with whatever relay the tunnel uses and whatever relay is in force; with the two tunnel
operations every state is reached. Four calls are enough for either.
-/

import LayraPS4.Networking.Tunnel

namespace LayraPS4.Networking

open Cxx Runs

/-! ### Runs by their calls -/

section Calls

variable {Call : Type} {M : System NetworkingCore Call Unit Empty}
  {call : NetworkingCore → Call → NetworkingCore}

/-- A run that makes these calls. -/
theorem run_of_calls (starts : M.start .new)
    (steps : ∀ core next, M.step core next = .ok ((), call core next)) (calls : List Call) :
    ∃ history, M.Run history (calls.foldl call .new) ∧ history.length = calls.length := by
  induction calls using List.reverseRecOn with
  | nil => exact ⟨[], .start starts, rfl⟩
  | append_singleton calls last ih =>
      obtain ⟨history, run, length⟩ := ih
      rw [List.foldl_append, List.length_append, ← length]
      exact ⟨_, run.step (steps _ last), rfl⟩

theorem coreRun_of_calls (calls : List CoreCall) :
    ∃ history, coreSystem.Run history (calls.foldl NetworkingCore.call .new) ∧
      history.length = calls.length :=
  run_of_calls rfl (fun _ _ => rfl) calls

theorem publicRun_of_calls (calls : List PublicCall) :
    ∃ history, publicSystem.Run history (calls.foldl NetworkingCore.publicCall .new) ∧
      history.length = calls.length :=
  run_of_calls rfl (fun _ _ => rfl) calls

end Calls

/-! ### Calls for a state -/

/-- A config outside LAN Play mode, with this relay. -/
def configWithRelay (relay : StdString) : Config := { lanPlayRelayAddress := relay }

/-- `Init`, if it is wanted. -/
def initCalls (isInitialized : Bool) : List CoreCall := if isInitialized then [.init] else []

/-- The calls that lead to a state, where a running tunnel means LAN Play mode. -/
def coreCallsFor (core : NetworkingCore) : List CoreCall :=
  match core.lanPlayTunnelHandle with
  | some tunnel =>
      [.updateConfig (configWithRelay tunnel.relay), .updateConfig core.currentConfig] ++
        initCalls core.isInitialized
  | none => [.init, .updateConfig core.currentConfig, .shutdown] ++ initCalls core.isInitialized

/-- The calls that lead to any state. -/
def publicCallsFor (core : NetworkingCore) : List PublicCall :=
  match core.lanPlayTunnelHandle with
  | some tunnel =>
      [.core (.updateConfig (configWithRelay tunnel.relay)), .startLANPlayTunnel,
        .core (.updateConfig core.currentConfig)] ++ (initCalls core.isInitialized).map .core
  | none => (coreCallsFor core).map .core

section States

variable {core : NetworkingCore}

theorem foldl_initCalls (before : NetworkingCore) (isInitialized : Bool)
    (down : before.isInitialized = false) :
    (initCalls isInitialized).foldl NetworkingCore.call before =
      { before with isInitialized := isInitialized } := by
  unfold initCalls
  cases isInitialized with
  | true =>
      show before.init = _
      rw [NetworkingCore.init, down]
      rfl
  | false =>
      show before = _
      rw [← down]

theorem foldl_map_core (calls : List CoreCall) (before : NetworkingCore) :
    (calls.map PublicCall.core).foldl NetworkingCore.publicCall before =
      calls.foldl NetworkingCore.call before := List.foldl_map

/-- A config in LAN Play mode starts the tunnel with the relay of the config before it. -/
theorem update_twice {newConfig : Config} (relay : StdString) (target : newConfig.mode = .lanPlay) :
    (NetworkingCore.new.updateConfig (configWithRelay relay)).updateConfig newConfig =
      ⟨newConfig, false, some ⟨relay⟩⟩ := by
  have source : (NetworkingCore.new.updateConfig (configWithRelay relay)) =
      ⟨configWithRelay relay, false, none⟩ := rfl
  rw [source, NetworkingCore.updateConfig]
  simp [configWithRelay, target, NetworkingCore.startLANPlayTunnel]

/-- `Shutdown` stops the tunnel and leaves the mode. -/
theorem shutdown_after_update (newConfig : Config) :
    ((NetworkingCore.new.init.updateConfig newConfig).shutdown) = ⟨newConfig, false, none⟩ := by
  have up : (NetworkingCore.new.init.updateConfig newConfig).isInitialized = true :=
    NetworkingCore.updateConfig_isInitialized _ _
  have handle := NetworkingCore.shutdown_handle (NetworkingCore.new.init.updateConfig newConfig)
  rw [if_pos up] at handle
  have config := NetworkingCore.shutdown_config (NetworkingCore.new.init.updateConfig newConfig)
  have down := NetworkingCore.shutdown_isInitialized
    (NetworkingCore.new.init.updateConfig newConfig)
  rcases shut : (NetworkingCore.new.init.updateConfig newConfig).shutdown with ⟨_, _, _⟩
  rw [shut] at handle config down
  dsimp only at handle config down
  rw [handle, config, down]
  rfl

theorem coreCallsFor_reaches
    (lanPlay : core.lanPlayTunnelHandle ≠ none → core.currentConfig.mode = .lanPlay) :
    (coreCallsFor core).foldl NetworkingCore.call .new = core := by
  rcases core with ⟨config, isInitialized, _ | ⟨⟨relay⟩⟩⟩
  · show (initCalls isInitialized).foldl NetworkingCore.call
      (NetworkingCore.new.init.updateConfig config).shutdown = _
    rw [shutdown_after_update, foldl_initCalls _ _ rfl]
  · show (initCalls isInitialized).foldl NetworkingCore.call
      ((NetworkingCore.new.updateConfig (configWithRelay relay)).updateConfig config) = _
    rw [update_twice relay (lanPlay (Option.some_ne_none _)), foldl_initCalls _ _ rfl]

theorem publicCallsFor_reaches (core : NetworkingCore) :
    (publicCallsFor core).foldl NetworkingCore.publicCall .new = core := by
  rcases core with ⟨config, isInitialized, _ | ⟨⟨relay⟩⟩⟩
  · show ((coreCallsFor ⟨config, isInitialized, none⟩).map _).foldl _ _ = _
    rw [foldl_map_core]
    exact coreCallsFor_reaches fun running => absurd rfl running
  · show ((initCalls isInitialized).map _).foldl _
      ((⟨configWithRelay relay, false, some ⟨relay⟩⟩ : NetworkingCore).updateConfig config) = _
    have kept : (⟨configWithRelay relay, false, some ⟨relay⟩⟩ : NetworkingCore).updateConfig config =
        ⟨config, false, some ⟨relay⟩⟩ := by
      rw [NetworkingCore.updateConfig]
      simp [configWithRelay, NetworkingCore.startLANPlayTunnel]
    rw [foldl_map_core, kept, foldl_initCalls _ _ rfl]

theorem length_initCalls (isInitialized : Bool) : (initCalls isInitialized).length ≤ 1 := by
  cases isInitialized <;> decide

theorem length_coreCallsFor (core : NetworkingCore) : (coreCallsFor core).length ≤ 4 := by
  have := length_initCalls core.isInitialized
  unfold coreCallsFor
  rcases core.lanPlayTunnelHandle with _ | tunnel
  · simp only [List.length_append, List.length_cons, List.length_nil]
    omega
  · simp only [List.length_append, List.length_cons, List.length_nil]
    omega

theorem length_publicCallsFor (core : NetworkingCore) : (publicCallsFor core).length ≤ 4 := by
  have := length_initCalls core.isInitialized
  have := length_coreCallsFor core
  unfold publicCallsFor
  rcases core.lanPlayTunnelHandle with _ | tunnel
  · rwa [List.length_map]
  · simp only [List.length_append, List.length_cons, List.length_nil, List.length_map]
    omega

end States

/-- **The states there are.** `Init`, `Shutdown` and `UpdateConfig` lead to a state if and only if its
tunnel, if it runs, does so in LAN Play mode; four calls are enough then. The five public operations
lead to every state, in four calls. -/
theorem reachable_iff (core : NetworkingCore) :
    ((∃ history, coreSystem.Run history core) ↔
      (core.lanPlayTunnelHandle ≠ none → core.currentConfig.mode = .lanPlay)) ∧
    ((∃ history, coreSystem.Run history core) →
      ∃ history, coreSystem.Run history core ∧ history.length ≤ 4) ∧
    ∃ history, publicSystem.Run history core ∧ history.length ≤ 4 := by
  have needed : (∃ history, coreSystem.Run history core) →
      core.lanPlayTunnelHandle ≠ none → core.currentConfig.mode = .lanPlay := by
    rintro ⟨history, run⟩ running
    have settled := coreSettled run
    rw [settled.mode]
    by_contra other
    exact running (settled.stopped.mpr (.inl other))
  have enough (lanPlay : core.lanPlayTunnelHandle ≠ none → core.currentConfig.mode = .lanPlay) :
      ∃ history, coreSystem.Run history core ∧ history.length ≤ 4 := by
    obtain ⟨history, run, length⟩ := coreRun_of_calls (coreCallsFor core)
    rw [coreCallsFor_reaches lanPlay] at run
    exact ⟨history, run, length ▸ length_coreCallsFor core⟩
  refine ⟨⟨needed, fun lanPlay => ?_⟩, fun reached => enough (needed reached), ?_⟩
  · obtain ⟨history, run, _⟩ := enough lanPlay
    exact ⟨history, run⟩
  · obtain ⟨history, run, length⟩ := publicRun_of_calls (publicCallsFor core)
    rw [publicCallsFor_reaches] at run
    exact ⟨history, run, length ▸ length_publicCallsFor core⟩

end LayraPS4.Networking
