/-
**`NetworkingCore`** (`core/networking/networking.cpp`): the networking configuration and the LAN
Play tunnel.

`lan_play_tunnel_handle` holds the dummy pointer `(void*)1` while the tunnel runs and its deleter
does nothing, so the model keeps in its place the relay address the tunnel was started with: the
address `StartLANPlayTunnel` reads from `current_config`.

`coreSystem` runs `Init`, `Shutdown` and `UpdateConfig`; `publicSystem` adds the two tunnel
operations, which are public as well.
-/

import LayraPS4.Library.Cxx
import LayraPS4.Library.Runs

namespace LayraPS4.Networking

open Cxx Runs

inductive Mode
  | disabled
  | lanPlay
  | unofficialServer
  deriving DecidableEq, Repr

structure Config where
  mode : Mode := .disabled
  lanPlayRelayAddress : StdString := ascii "switch.lan-play.com:11451"
  guestIp : StdString := ascii "10.13.0.1"
  ezfnServerAddress : StdString := []
  gtavServerAddress : StdString := []
  spoofPsn : Bool := false
  deriving DecidableEq

/-- A running tunnel: the relay it was started with. -/
structure LanPlayTunnel where
  relay : StdString
  deriving DecidableEq

structure NetworkingCore where
  currentConfig : Config := {}
  isInitialized : Bool := false
  lanPlayTunnelHandle : Ptr LanPlayTunnel := none
  deriving DecidableEq

namespace NetworkingCore

/-! ### The operations -/

/-- The constructor. -/
def new : NetworkingCore := {}

def startLANPlayTunnel (core : NetworkingCore) : NetworkingCore :=
  match core.lanPlayTunnelHandle with
  | some _ => core
  | none => { core with lanPlayTunnelHandle := some ⟨core.currentConfig.lanPlayRelayAddress⟩ }

def stopLANPlayTunnel (core : NetworkingCore) : NetworkingCore :=
  match core.lanPlayTunnelHandle with
  | none => core
  | some _ => { core with lanPlayTunnelHandle := none }

def init (core : NetworkingCore) : NetworkingCore :=
  if core.isInitialized then core else { core with isInitialized := true }

def shutdown (core : NetworkingCore) : NetworkingCore :=
  if !core.isInitialized then core
  else { core.stopLANPlayTunnel with isInitialized := false }

/-- The destructor. -/
def destroy (core : NetworkingCore) : NetworkingCore := core.shutdown

/-- The tunnel is started or stopped before the new config is stored. -/
def updateConfig (core : NetworkingCore) (newConfig : Config) : NetworkingCore :=
  let switched :=
    if core.currentConfig.mode = .lanPlay ∧ newConfig.mode ≠ .lanPlay then core.stopLANPlayTunnel
    else if core.currentConfig.mode ≠ .lanPlay ∧ newConfig.mode = .lanPlay then
      core.startLANPlayTunnel
    else core
  { switched with currentConfig := newConfig }

/-! ### What the operations do to each field -/

@[simp] theorem startLANPlayTunnel_config (core : NetworkingCore) :
    core.startLANPlayTunnel.currentConfig = core.currentConfig := by
  unfold startLANPlayTunnel
  split <;> rfl

@[simp] theorem startLANPlayTunnel_isInitialized (core : NetworkingCore) :
    core.startLANPlayTunnel.isInitialized = core.isInitialized := by
  unfold startLANPlayTunnel
  split <;> rfl

theorem startLANPlayTunnel_running {core : NetworkingCore} {tunnel : LanPlayTunnel}
    (running : core.lanPlayTunnelHandle = some tunnel) :
    core.startLANPlayTunnel.lanPlayTunnelHandle = some tunnel := by
  simp [startLANPlayTunnel, running]

theorem startLANPlayTunnel_stopped {core : NetworkingCore}
    (stopped : core.lanPlayTunnelHandle = none) :
    core.startLANPlayTunnel.lanPlayTunnelHandle =
      some ⟨core.currentConfig.lanPlayRelayAddress⟩ := by
  simp [startLANPlayTunnel, stopped]

@[simp] theorem stopLANPlayTunnel_config (core : NetworkingCore) :
    core.stopLANPlayTunnel.currentConfig = core.currentConfig := by
  unfold stopLANPlayTunnel
  split <;> rfl

@[simp] theorem stopLANPlayTunnel_isInitialized (core : NetworkingCore) :
    core.stopLANPlayTunnel.isInitialized = core.isInitialized := by
  unfold stopLANPlayTunnel
  split <;> rfl

@[simp] theorem stopLANPlayTunnel_handle (core : NetworkingCore) :
    core.stopLANPlayTunnel.lanPlayTunnelHandle = none := by
  unfold stopLANPlayTunnel
  split <;> simp_all

@[simp] theorem init_config (core : NetworkingCore) :
    core.init.currentConfig = core.currentConfig := by
  unfold init
  split <;> rfl

@[simp] theorem init_handle (core : NetworkingCore) :
    core.init.lanPlayTunnelHandle = core.lanPlayTunnelHandle := by
  unfold init
  split <;> rfl

@[simp] theorem init_isInitialized (core : NetworkingCore) : core.init.isInitialized = true := by
  unfold init
  split <;> simp_all

@[simp] theorem shutdown_config (core : NetworkingCore) :
    core.shutdown.currentConfig = core.currentConfig := by
  unfold shutdown
  split <;> simp

@[simp] theorem shutdown_isInitialized (core : NetworkingCore) :
    core.shutdown.isInitialized = false := by
  unfold shutdown
  split <;> simp_all

/-- `Shutdown` leaves the tunnel of a core that is not initialized alone. -/
@[simp] theorem shutdown_handle (core : NetworkingCore) :
    core.shutdown.lanPlayTunnelHandle =
      if core.isInitialized then none else core.lanPlayTunnelHandle := by
  unfold shutdown
  cases core.isInitialized <;> simp

@[simp] theorem updateConfig_config (core : NetworkingCore) (newConfig : Config) :
    (core.updateConfig newConfig).currentConfig = newConfig := rfl

@[simp] theorem updateConfig_isInitialized (core : NetworkingCore) (newConfig : Config) :
    (core.updateConfig newConfig).isInitialized = core.isInitialized := by
  unfold updateConfig
  dsimp only
  split_ifs <;> simp

/-- The four changes of mode, as `UpdateConfig` tells them apart. -/
theorem updateConfig_handle (core : NetworkingCore) (newConfig : Config) :
    (core.updateConfig newConfig).lanPlayTunnelHandle =
      if newConfig.mode = .lanPlay then
        if core.currentConfig.mode = .lanPlay then core.lanPlayTunnelHandle
        else core.startLANPlayTunnel.lanPlayTunnelHandle
      else if core.currentConfig.mode = .lanPlay then none else core.lanPlayTunnelHandle := by
  unfold updateConfig
  dsimp only
  split_ifs <;> simp_all

end NetworkingCore

/-! ### Runs -/

/-- The calls the emulator makes to keep the core in step with its settings. -/
inductive CoreCall
  | init
  | shutdown
  | updateConfig (newConfig : Config)
  deriving DecidableEq

/-- Every public operation that changes the core. -/
inductive PublicCall
  | core (call : CoreCall)
  | startLANPlayTunnel
  | stopLANPlayTunnel
  deriving DecidableEq

def NetworkingCore.call (core : NetworkingCore) : CoreCall → NetworkingCore
  | .init => core.init
  | .shutdown => core.shutdown
  | .updateConfig newConfig => core.updateConfig newConfig

def NetworkingCore.publicCall (core : NetworkingCore) : PublicCall → NetworkingCore
  | .core call => core.call call
  | .startLANPlayTunnel => core.startLANPlayTunnel
  | .stopLANPlayTunnel => core.stopLANPlayTunnel

/-- Runs of `Init`, `Shutdown` and `UpdateConfig` on a constructed core. -/
def coreSystem : System NetworkingCore CoreCall Unit Empty where
  start core := core = .new
  step core call := .ok ((), core.call call)

/-- Runs of all five public operations. -/
def publicSystem : System NetworkingCore PublicCall Unit Empty where
  start core := core = .new
  step core call := .ok ((), core.publicCall call)

end LayraPS4.Networking
