import Nearby.Bwu.Channel
import Nearby.Bwu.Client
import Nearby.Bwu.Handler

/-! The state a `BwuManager` operation acts on: the manager's own fields, the client it
is handed, the channel objects, and the trace of what was called.  The primitive
operations on it come with the lemmas that say which part they touch. -/

namespace Nearby.Bwu

open Proto Lib

/-- `std::time::Duration`, in nanoseconds. -/
abbrev Duration := Nat

/-- The largest `Duration`: `u64::MAX` seconds and 999 999 999 nanoseconds. -/
def Duration.max : Duration := 2 ^ 64 * 10 ^ 9 - 1

def Duration.ofSecs (n : Nat) : Duration := n * 10 ^ 9

/-- The result of a `Duration` operator, which panics on overflow. -/
def Duration.checked (d : Nat) : Option Duration := if d ≤ Duration.max then some d else none

structure BwuConfig where
  supportMultipleBwuMediums : Bool := true
  useExpBackoffInBwuRetry : Bool := true
  bandwidthUpgradeRetryDelay : Duration := 0
  bandwidthUpgradeRetryMaxDelay : Duration := 0
  deriving DecidableEq, Repr

/-- The resolution of zero delays in `BwuManager::new`. -/
def BwuConfig.resolve (config : BwuConfig) : BwuConfig :=
  { config with
    bandwidthUpgradeRetryDelay :=
      if config.bandwidthUpgradeRetryDelay = 0 then
        Duration.ofSecs (if config.useExpBackoffInBwuRetry then 3 else 5)
      else config.bandwidthUpgradeRetryDelay
    bandwidthUpgradeRetryMaxDelay :=
      if config.bandwidthUpgradeRetryMaxDelay = 0 then
        Duration.ofSecs (if config.useExpBackoffInBwuRetry then 300 else 10)
      else config.bandwidthUpgradeRetryMaxDelay }

abbrev EndpointChannelManager := HashMap String ChannelId

structure BwuManager where
  config : BwuConfig
  ecm : EndpointChannelManager := ∅
  handlers : HashMap Medium BaseBwuHandler
  medium : Medium := .unknownMedium
  endpointIdToBwuMedium : HashMap String Medium := ∅
  inProgressUpgrades : HashSet String := ∅
  previousEndpointChannels : HashMap String ChannelId := ∅
  successfullyUpgradedEndpoints : HashSet String := ∅
  retryUpgradeAlarms : HashMap String Duration := ∅
  retryDelays : HashMap String Duration := ∅

structure World extends BwuManager where
  client : ClientProxy
  channels : ChannelId → ChannelState := fun _ => {}
  trace : List Event := []

/-- `BwuManager::new` with handlers for `mediums`, next to a new client. -/
def World.new (config : BwuConfig) (mediums : List Medium) (localEndpointId : String) : World where
  config := config.resolve
  handlers := mediums.foldr (fun m handlers => handlers.insert m {}) ∅
  client := .new localEndpointId

namespace World

def emit (s : World) (x : Event) : World := { s with trace := x :: s.trace }

def emitAll (s : World) (xs : List Event) : World := xs.foldl emit s

def modifyChannel (s : World) (c : ChannelId) (f : ChannelState → ChannelState) : World :=
  { s with channels := Function.update s.channels c (f (s.channels c)) }

def write (env : Env) (s : World) (owner : Option String) (c : ChannelId) (data : Payload) :
    Exception × World :=
  let result := env.write s.trace c data
  (result, s.emit (.write owner c data (s.channels c).paused (s.channels c).encrypted result))

def read (env : Env) (s : World) (c : ChannelId) : Except Exception Bytes × World :=
  (env.read s.trace c, s.emit (.read c))

def close (s : World) (c : ChannelId) : World :=
  (s.modifyChannel c ChannelState.doClose).emit (.close c)

def closeWithReason (s : World) (c : ChannelId) (reason : DisconnectionReason) : World :=
  (s.modifyChannel c ChannelState.doClose).emit (.closeWithReason c reason)

def pause (s : World) (c : ChannelId) : World :=
  (s.modifyChannel c fun st => { st with paused := true }).emit (.pause c)

def resume (s : World) (c : ChannelId) : World :=
  (s.modifyChannel c fun st => { st with paused := false }).emit (.resume c)

def setLocalEndpointId (s : World) (c : ChannelId) (localEndpointId : String) : World :=
  (s.modifyChannel c fun st => { st with localEndpointId := localEndpointId }).emit
    (.setLocalEndpointId c localEndpointId)

def disableEncryption (s : World) (c : ChannelId) : World :=
  (s.modifyChannel c fun st => { st with encrypted := false }).emit (.disableEncryption c)

/-! ### `EndpointChannelManager` -/

def getChannelForEndpoint (s : World) (endpointId : String) : Option ChannelId :=
  s.ecm.lookup endpointId

def registerChannelForEndpoint (s : World) (endpointId : String) (c : ChannelId) : World :=
  { s with ecm := s.ecm.insert endpointId c }.emit (.registered endpointId c)

/-- The encryption flag is accepted and not used. -/
def replaceChannelForEndpoint (s : World) (endpointId : String) (c : ChannelId)
    (_enableEncryption : Bool) : World :=
  { s with ecm := s.ecm.insert endpointId c }

def unregisterChannelForEndpoint (s : World) (endpointId : String) : World :=
  { s with ecm := s.ecm.erase endpointId }

def getConnectedEndpointsCount (s : World) : Nat := s.ecm.len

def isWifiLanConnected (env : Env) (s : World) : Bool :=
  s.ecm.entries.any fun x => env.medium x.2 = .wifiLan

/-! ### The manager's books -/

def getBwuMediumForEndpoint (s : World) (endpointId : String) : Medium :=
  if s.config.supportMultipleBwuMediums then
    (s.endpointIdToBwuMedium.lookup endpointId).getD .unknownMedium
  else s.medium

def setBwuMediumForEndpoint (s : World) (endpointId : String) (medium : Medium) : World :=
  if s.config.supportMultipleBwuMediums then
    { s with endpointIdToBwuMedium := s.endpointIdToBwuMedium.insert endpointId medium }
  else { s with medium := medium }

def hasHandlerForMedium (s : World) (medium : Medium) : Bool :=
  medium ≠ .unknownMedium && decide (medium ∈ s.handlers)

def cancelRetryUpgradeAlarm (s : World) (endpointId : String) : World :=
  { s with retryUpgradeAlarms := s.retryUpgradeAlarms.erase endpointId }

def enterInProgress (s : World) (endpointId : String) : World :=
  { s with inProgressUpgrades := s.inProgressUpgrades.insert endpointId () }.emit
    (.started endpointId)

def leaveInProgress (s : World) (endpointId : String) : World :=
  { s with inProgressUpgrades := s.inProgressUpgrades.erase endpointId }

/-- `previous_endpoint_channels.insert`. -/
def park (s : World) (endpointId : String) (c : ChannelId) : World :=
  { s with previousEndpointChannels := s.previousEndpointChannels.insert endpointId c }.emit
    (.parked endpointId c)

def unpark (s : World) (endpointId : String) : World :=
  { s with previousEndpointChannels := s.previousEndpointChannels.erase endpointId }

/-- `successfully_upgraded_endpoints.insert`. -/
def latch (s : World) (endpointId : String) : World :=
  { s with successfullyUpgradedEndpoints := s.successfullyUpgradedEndpoints.insert endpointId () }

def unlatch (s : World) (endpointId : String) : World :=
  { s with successfullyUpgradedEndpoints := s.successfullyUpgradedEndpoints.erase endpointId }

def onBandwidthChanged (s : World) (endpointId : String) (medium : Medium) : World :=
  { s with client := s.client.onBandwidthChanged endpointId medium }.emit
    (.bandwidthChanged endpointId medium)

/-! ### Handlers.  The source unwraps the lookup after `has_handler_for_medium`. -/

/-- Run a revert operation of the handler of `medium` and pass on what it reverts. -/
def revertHandler (s : World) (medium : Medium)
    (revert : BaseBwuHandler → List String × BaseBwuHandler) : World :=
  match s.handlers.lookup medium with
  | none => s
  | some h =>
    { s with handlers := s.handlers.insert medium (revert h).2 }.emitAll
      ((revert h).1.map (.handleRevert medium))

def revertInitiatorState (s : World) (medium : Medium) : World :=
  (s.emit (.revertInitiatorState medium)).revertHandler medium BaseBwuHandler.revertInitiatorState

def initializeUpgradedMediumForEndpoint (env : Env) (s : World) (medium : Medium)
    (serviceId endpointId : String) : Bytes × World :=
  match s.handlers.lookup medium with
  | none => ([], s)
  | some h =>
    let upgradeServiceId := wrapInitiatorUpgradeServiceId serviceId
    let bytes := env.handleInitialize s.trace medium upgradeServiceId endpointId
    let s := s.emit (.handleInitialize medium upgradeServiceId endpointId bytes)
    if bytes = [] then (bytes, s)
    else
      (bytes, { s with
        handlers := s.handlers.insert medium (h.recordActive upgradeServiceId endpointId) })

/-! ### What they touch -/

theorem setBwuMediumForEndpoint_frame (s : World) (e : String) (m : Medium) :
    s.setBwuMediumForEndpoint e m = { s with
      medium := (s.setBwuMediumForEndpoint e m).medium
      endpointIdToBwuMedium := (s.setBwuMediumForEndpoint e m).endpointIdToBwuMedium } := by
  rw [setBwuMediumForEndpoint]
  split <;> rfl

theorem getBwuMediumForEndpoint_set (s : World) (e : String) (m : Medium) :
    (s.setBwuMediumForEndpoint e m).getBwuMediumForEndpoint e = m := by
  rw [setBwuMediumForEndpoint]
  split
  case isTrue h => simp [getBwuMediumForEndpoint, h]
  case isFalse h => simp [getBwuMediumForEndpoint, h]

theorem initializeUpgradedMediumForEndpoint_frame (env : Env) (s : World) (m : Medium)
    (u e : String) :
    (s.initializeUpgradedMediumForEndpoint env m u e).2 = { s with
      handlers := (s.initializeUpgradedMediumForEndpoint env m u e).2.handlers
      trace := (s.initializeUpgradedMediumForEndpoint env m u e).2.trace } := by
  rw [initializeUpgradedMediumForEndpoint]
  split
  case h_1 => rfl
  case h_2 =>
    dsimp only
    split <;> rfl

theorem emitAll_eq (s : World) (xs : List Event) :
    s.emitAll xs = { s with trace := xs.reverse ++ s.trace } := by
  induction xs generalizing s with
  | nil => rfl
  | cons x xs ih =>
    change (s.emit x).emitAll xs = _
    rw [ih]
    simp [emit]

theorem revertHandler_of_lookup {s : World} {m : Medium} {h : BaseBwuHandler}
    (hm : s.handlers.lookup m = some h) (revert : BaseBwuHandler → List String × BaseBwuHandler) :
    s.revertHandler m revert =
      { s with
        handlers := s.handlers.insert m (revert h).2
        trace := ((revert h).1.map (.handleRevert m)).reverse ++ s.trace } := by
  rw [revertHandler, hm]
  dsimp only
  rw [emitAll_eq]

theorem revertHandler_eq (s : World) (m : Medium)
    (revert : BaseBwuHandler → List String × BaseBwuHandler) :
    s.revertHandler m revert = s ∨ ∃ h, s.handlers.lookup m = some h ∧
      s.revertHandler m revert =
        { s with
          handlers := s.handlers.insert m (revert h).2
          trace := ((revert h).1.map (.handleRevert m)).reverse ++ s.trace } := by
  cases hm : s.handlers.lookup m with
  | none => exact .inl (by rw [revertHandler, hm])
  | some h => exact .inr ⟨h, rfl, revertHandler_of_lookup hm revert⟩

theorem hasHandlerForMedium_iff {s : World} {m : Medium} :
    s.hasHandlerForMedium m = true ↔ m ≠ .unknownMedium ∧ ∃ h, s.handlers.lookup m = some h := by
  simp only [hasHandlerForMedium, Bool.and_eq_true, decide_eq_true_eq]
  exact and_congr_right fun _ => ⟨HashMap.lookup_of_mem, fun ⟨_, h⟩ => HashMap.mem_of_lookup h⟩

theorem revertHandler_frame (s : World) (m : Medium)
    (revert : BaseBwuHandler → List String × BaseBwuHandler) :
    s.revertHandler m revert = { s with
      handlers := (s.revertHandler m revert).handlers
      trace := (s.revertHandler m revert).trace } := by
  rcases revertHandler_eq s m revert with h | ⟨_, -, h⟩ <;> rw [h]

theorem revertInitiatorState_frame (s : World) (m : Medium) :
    s.revertInitiatorState m = { s with
      handlers := (s.revertInitiatorState m).handlers
      trace := (s.revertInitiatorState m).trace } := by
  rw [revertInitiatorState, revertHandler_frame]
  rfl

end World

end Nearby.Bwu
