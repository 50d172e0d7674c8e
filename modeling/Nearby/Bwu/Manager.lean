import Nearby.Bwu.World

/-! `manager.rs`: the bandwidth-upgrade state machine.  The mutual recursion of
`initiate_bwu_for_endpoint`, `process_upgrade_failure_event` and
`try_next_best_upgrade_mediums` need not end, so it runs on fuel. -/

namespace Nearby.Bwu

open Proto Lib

/-- How an operation can fail to return. -/
inductive Abort : Type
  | outOfFuel
  | panic
  deriving DecidableEq, Repr

/-! ### Reverting -/

namespace World

def revertBwuMediumForEndpoint (s : World) (serviceId endpointId : String) : World :=
  let medium := s.getBwuMediumForEndpoint endpointId
  if ¬ s.config.supportMultipleBwuMediums then
    let s := { s with medium := .unknownMedium }
    if s.hasHandlerForMedium medium then
      s.revertInitiatorState medium
    else s
  else
    let s := { s with endpointIdToBwuMedium := s.endpointIdToBwuMedium.erase endpointId }
    if ¬ s.hasHandlerForMedium medium then s
    else if ¬ isInitiatorUpgradeServiceId serviceId then
      -- Responder: only these two have to leave an access point.
      if medium = .wifiHotspot ∨ medium = .wifiDirect then
        s.revertHandler medium (·.revertResponderState serviceId)
      else s
    else s.revertHandler medium (·.revertInitiatorStateForEndpoint serviceId endpointId)

theorem revertBwuMediumForEndpoint_frame (s : World) (u e : String) :
    s.revertBwuMediumForEndpoint u e = { s with
      medium := (s.revertBwuMediumForEndpoint u e).medium
      endpointIdToBwuMedium := (s.revertBwuMediumForEndpoint u e).endpointIdToBwuMedium
      handlers := (s.revertBwuMediumForEndpoint u e).handlers
      trace := (s.revertBwuMediumForEndpoint u e).trace } := by
  have hcoarse := revertInitiatorState_frame { s with medium := .unknownMedium }
  have hfine := revertHandler_frame
    { s with endpointIdToBwuMedium := s.endpointIdToBwuMedium.erase e }
  simp only [revertBwuMediumForEndpoint]
  split
  case isTrue =>
    split
    case isTrue => rw [hcoarse]
    case isFalse => rfl
  case isFalse =>
    split
    case isTrue => rfl
    case isFalse =>
      split
      case isTrue =>
        split
        case isTrue => rw [hfine]
        case isFalse => rfl
      case isFalse => rw [hfine]

theorem revertBwuMediumForEndpoint_rule {R : World → World → Prop}
    (trans : ∀ {s t v}, R s t → R t v → R s v)
    (books : ∀ s medium mediums, R s { s with medium := medium, endpointIdToBwuMedium := mediums })
    (emit : ∀ s m, R s (s.emit (.revertInitiatorState m)))
    (revert : ∀ s m f, R s (s.revertHandler m f)) (s : World) (u e : String) :
    R s (s.revertBwuMediumForEndpoint u e) := by
  have hcoarse : R s { s with medium := .unknownMedium } := books s _ s.endpointIdToBwuMedium
  have hfine : R s { s with endpointIdToBwuMedium := s.endpointIdToBwuMedium.erase e } :=
    books s s.medium _
  simp only [revertBwuMediumForEndpoint]
  split
  case isTrue =>
    split
    case isTrue => exact trans (trans hcoarse (emit _ _)) (revert _ _ _)
    case isFalse => exact hcoarse
  case isFalse =>
    split
    case isTrue => exact hfine
    case isFalse =>
      split
      case isTrue =>
        split
        case isTrue => exact trans hfine (revert _ _ _)
        case isFalse => exact hfine
      case isFalse => exact trans hfine (revert _ _ _)

/-! ### Retries -/

def calculateNextRetryDelay (s : World) (endpointId : String) : Option Duration :=
  let initialDelay := s.config.bandwidthUpgradeRetryDelay
  match s.retryDelays.lookup endpointId with
  | none => some initialDelay
  | some last =>
    (Duration.checked (if s.config.useExpBackoffInBwuRetry then last * 2
      else last + initialDelay)).map (min · s.config.bandwidthUpgradeRetryMaxDelay)

def retryUpgradesAfterDelay (s : World) (endpointId : String) : Except Abort World :=
  match s.calculateNextRetryDelay endpointId with
  | none => .error .panic
  | some delay =>
    let s := s.cancelRetryUpgradeAlarm endpointId
    .ok ({ s with
      retryUpgradeAlarms := s.retryUpgradeAlarms.insert endpointId delay
      retryDelays := s.retryDelays.insert endpointId delay }.emit
        (.retryScheduled endpointId delay))

theorem retryUpgradesAfterDelay_next {s t : World} {e : String}
    (h : s.retryUpgradesAfterDelay e = .ok t) :
    ∃ delay, s.calculateNextRetryDelay e = some delay ∧ t = { s with
      retryUpgradeAlarms := (s.retryUpgradeAlarms.erase e).insert e delay
      retryDelays := s.retryDelays.insert e delay
      trace := .retryScheduled e delay :: s.trace } := by
  rw [retryUpgradesAfterDelay] at h
  split at h
  case h_1 => cases h
  case h_2 delay hdelay =>
    cases h
    exact ⟨delay, hdelay, rfl⟩

theorem retryUpgradesAfterDelay_ok {s t : World} {e : String}
    (h : s.retryUpgradesAfterDelay e = .ok t) :
    ∃ delay, t = { s with
      retryUpgradeAlarms := (s.retryUpgradeAlarms.erase e).insert e delay
      retryDelays := s.retryDelays.insert e delay
      trace := .retryScheduled e delay :: s.trace } := by
  obtain ⟨delay, -, ht⟩ := retryUpgradesAfterDelay_next h
  exact ⟨delay, ht⟩

def stripOutUnavailableMediums (s : World) (mediums : List Medium) : List Medium :=
  mediums.filter s.hasHandlerForMedium

def chooseBestUpgradeMedium (s : World) (endpointId : String) (mediums : List Medium) : Medium :=
  let available := s.stripOutUnavailableMediums mediums
  let current := s.getBwuMediumForEndpoint endpointId
  if current = .unknownMedium then available.head?.getD .unknownMedium
  else if current ∈ available then current
  else .unknownMedium

def currentMedium (env : Env) (s : World) (endpointId : String) : Medium :=
  ((s.getChannelForEndpoint endpointId).map env.medium).getD .unknownMedium

def tryNextBestUpgradeMediums (env : Env)
    (initiate : World → String → Medium → Except Abort World)
    (s : World) (endpointId : String) (upgradeMediums : List Medium) : Except Abort World :=
  let nextMedium := s.chooseBestUpgradeMedium endpointId upgradeMediums
  let currentMedium := s.currentMedium env endpointId
  if currentMedium ≠ .wifiLan ∧
      (nextMedium = currentMedium ∨ nextMedium = .unknownMedium ∨ upgradeMediums = []) then
    s.retryUpgradesAfterDelay endpointId
  else if ¬ s.hasHandlerForMedium nextMedium then .ok s
  else initiate (s.setBwuMediumForEndpoint endpointId nextMedium) endpointId nextMedium

/-! ### Failure of an upgrade we initiated -/

/-- The loop that drops everything up to and including `last`.  `untried` starts as a
copy of the list walked; `remove(0)` of an empty vector would panic. -/
def dropTried (last : Medium) : (allPossible untried : List Medium) → Option (List Medium)
  | [], untried => some untried
  | _ :: _, [] => none
  | medium :: allPossible, _ :: untried =>
    if medium = last then some untried else dropTried last allPossible untried

def processUpgradeFailureEvent (env : Env)
    (initiate : World → String → Medium → Except Abort World)
    (s : World) (endpointId : String) (info : UpgradePathInfo) : Except Abort World :=
  let s := s.leaveInProgress endpointId
  if ¬ s.config.supportMultipleBwuMediums ∧ s.getConnectedEndpointsCount > 1 then .ok s
  else
    let serviceId := ((s.getChannelForEndpoint endpointId).map env.serviceId).getD unknownServiceId
    let s :=
      if s.getBwuMediumForEndpoint endpointId ≠ .unknownMedium then
        s.revertBwuMediumForEndpoint (wrapInitiatorUpgradeServiceId serviceId) endpointId
      else s
    let allPossible := s.client.getUpgradeMediums endpointId
    match dropTried (upiMedium info) allPossible allPossible with
    | none => .error .panic
    | some untried => s.tryNextBestUpgradeMediums env initiate endpointId untried

/-! ### Initiator -/

/-- The body of `initiate_bwu_for_endpoint`; `onFailure` is the call of
`process_upgrade_failure_event` on its two failure paths. -/
def initiateBody (env : Env)
    (onFailure : World → String → UpgradePathInfo → Except Abort World)
    (s : World) (endpointId : String) (proposedMedium : Medium) : Except Abort World :=
  let s := s.emit (.initiate endpointId proposedMedium)
  if s.isWifiLanConnected env ∧ proposedMedium = .wifiHotspot then .ok s
  else
    let s := s.setBwuMediumForEndpoint endpointId proposedMedium
    if ¬ s.hasHandlerForMedium proposedMedium then .ok s
    else if endpointId ∈ s.inProgressUpgrades then .ok s
    else
      let s := s.cancelRetryUpgradeAlarm endpointId
      if proposedMedium = s.currentMedium env endpointId then .ok s
      else
        match s.getChannelForEndpoint endpointId with
        | none => .ok s
        | some c =>
          let init := s.initializeUpgradedMediumForEndpoint env proposedMedium
            (env.serviceId c) endpointId
          if init.1 = [] then
            onFailure init.2 endpointId (upgradePathInfoForMedium proposedMedium)
          else
            let w := init.2.write env (some endpointId) c (.offer init.1)
            if ¬ w.1.ok then onFailure w.2 endpointId (upgradePathInfoForMedium proposedMedium)
            else .ok (w.2.enterInProgress endpointId)

def initiateBwuForEndpoint (env : Env) : Nat → World → String → Medium → Except Abort World
  | 0, _, _, _ => .error .outOfFuel
  | fuel + 1, s, endpointId, newMedium =>
    s.initiateBody env
      (fun s => s.processUpgradeFailureEvent env (initiateBwuForEndpoint env fuel))
      endpointId newMedium

def resetUpgradeForEndpoint (s : World) (endpointId : String) : World :=
  s.leaveInProgress endpointId

def fireRetryAlarm (env : Env) (fuel : Nat) (s : World) (endpointId : String) :
    Except Abort World :=
  if endpointId ∉ s.retryUpgradeAlarms then .ok s
  else
    let s := s.cancelRetryUpgradeAlarm endpointId
    if ¬ s.client.isConnectedToEndpoint endpointId then .ok s
    else s.tryNextBestUpgradeMediums env (initiateBwuForEndpoint env fuel) endpointId
      (s.client.getUpgradeMediums endpointId)

/-! ### The converged upgrade protocol -/

def processLastWriteToPriorChannelEvent (env : Env) (s : World) (endpointId : String) : World :=
  match s.previousEndpointChannels.lookup endpointId with
  | none => s.latch endpointId
  | some prev =>
    let w := s.write env (some endpointId) prev (.frame forBwuSafeToClose)
    if ¬ w.1.ok then (w.2.closeWithReason prev .ioError).unpark endpointId else w.2

def runUpgradeProtocol (env : Env) (s : World) (endpointId : String) (newChannel : ChannelId)
    (enableEncryption : Bool) : World :=
  let s := s.setLocalEndpointId newChannel s.client.localEndpointId
  let s := s.pause newChannel
  match s.getChannelForEndpoint endpointId with
  | none => s
  | some oldChannel =>
    let s := s.replaceChannelForEndpoint endpointId newChannel enableEncryption
    let w := s.write env (some endpointId) oldChannel (.frame forBwuLastWrite)
    if ¬ w.1.ok then w.2
    else
      let s := w.2.park endpointId oldChannel
      -- The remote's LAST_WRITE may have come before the old channel was parked.
      if endpointId ∈ s.successfullyUpgradedEndpoints then
        (s.unlatch endpointId).processLastWriteToPriorChannelEvent env endpointId
      else s

def processSafeToClosePriorChannelEvent (env : Env) (s : World) (endpointId : String) : World :=
  match s.previousEndpointChannels.lookup endpointId with
  | none => s
  | some prev =>
    let s := (s.unpark endpointId).disableEncryption prev
    let s := (s.write env (some endpointId) prev (.frame (forDisconnection false false))).2
    let s := (s.read env prev).2
    let s := s.closeWithReason prev .upgraded
    match s.getChannelForEndpoint endpointId with
    | none => s
    | some c =>
      ((s.resume c).onBandwidthChanged endpointId (env.medium c)).leaveInProgress endpointId

/-! ### Responder -/

def runUpgradeFailedProtocol (env : Env) (s : World) (endpointId : String)
    (info : UpgradePathInfo) : World :=
  match s.getChannelForEndpoint endpointId with
  | none => s
  | some c =>
    let w := s.write env (some endpointId) c (.frame (forBwuFailure info))
    if ¬ w.1.ok then w.2.closeWithReason c .ioError
    else
      (if w.2.getBwuMediumForEndpoint endpointId ≠ .unknownMedium then
        w.2.revertBwuMediumForEndpoint (env.serviceId c) endpointId
      else w.2).leaveInProgress endpointId

/-- `previous_endpoint_channels.remove`, and the close of what it returns. -/
def closeParked (s : World) (endpointId : String) (reason : DisconnectionReason) : World :=
  match s.previousEndpointChannels.lookup endpointId with
  | some prev => (s.unpark endpointId).closeWithReason prev reason
  | none => s

/-- The duplicate guard of `process_bwu_path_available_event`: close everything. -/
def closeOutOfSync (s : World) (endpointId : String) : World :=
  let s := s.closeParked endpointId .unfinished
  match s.getChannelForEndpoint endpointId with
  | some cur => (s.resume cur).closeWithReason cur .unfinished
  | none => s

/-- `process_bwu_path_available_event_internal` up to the introduction written on the
new channel. -/
def dialUpgraded (env : Env) (s : World) (endpointId : String) (info : UpgradePathInfo) :
    Option ChannelId × World :=
  let medium := upiMedium info
  if medium ≠ s.getBwuMediumForEndpoint endpointId then (none, s)
  else if ¬ s.hasHandlerForMedium medium then (none, s)
  else
    match s.getChannelForEndpoint endpointId with
    | none => (none, s)
    | some old =>
      let lastLocal :=
        if (s.channels old).localEndpointId = "" then s.client.lastLocalEndpointId
        else (s.channels old).localEndpointId
      let created := env.createUpgraded s.trace medium (env.serviceId old) endpointId info
      let s := s.emit (.createUpgraded medium (env.serviceId old) endpointId info created)
      match created with
      | none => (none, s)
      | some c =>
        let intro := forBwuIntroduction s.client.localEndpointId lastLocal
          (info.supportsDisablingEncryption.getD false)
        let w := s.write env (some endpointId) c (.frame intro)
        if ¬ w.1.ok then (none, w.2.close c) else (some c, w.2)

def readClientIntroductionAckFrame (env : Env) (s : World) (c : ChannelId) : Bool × World :=
  let r := s.read env c
  (match r.1 with
    | .error _ => false
    | .ok data =>
      match env.prost.fromBytes data with
      | .error _ => false
      | .ok frame =>
        (frame.v1.bind (·.bandwidthUpgradeNegotiation)).bind (·.eventType)
          = some EventType.clientIntroductionAck.number,
    r.2)

/-- How far `process_bwu_path_available_event` gets on its own: it returned, or it
dialled `c`, introduced itself there and goes on to wait for the ack. -/
inductive PathAvailable : Type
  | returned (s : World)
  | dialled (c : ChannelId) (s : World)

def beginPathAvailable (env : Env) (s : World) (endpointId : String) (info : UpgradePathInfo) :
    PathAvailable :=
  let upgradeMedium := upiMedium info
  if s.isWifiLanConnected env ∧ upgradeMedium = .wifiHotspot then
    .returned (s.runUpgradeFailedProtocol env endpointId info)
  else if s.client.isIncomingConnection endpointId then .returned s
  else if endpointId ∈ s.inProgressUpgrades then .returned (s.closeOutOfSync endpointId)
  else
    let s :=
      if s.getBwuMediumForEndpoint endpointId = .unknownMedium then
        s.setBwuMediumForEndpoint endpointId upgradeMedium
      else s
    if upgradeMedium ≠ s.getBwuMediumForEndpoint endpointId then
      .returned (s.runUpgradeFailedProtocol env endpointId info)
    else
      let d := s.dialUpgraded env endpointId info
      match d.1 with
      | none => .returned (d.2.runUpgradeFailedProtocol env endpointId info)
      | some c => .dialled c d.2

/-- The rest of it: the ack read, where one is announced, and the upgrade. -/
def finishPathAvailable (env : Env) (s : World) (endpointId : String) (info : UpgradePathInfo)
    (c : ChannelId) : World :=
  let acked :=
    if info.supportsClientIntroductionAck.getD false then s.readClientIntroductionAckFrame env c
    else (true, s)
  if ¬ acked.1 then (acked.2.close c).runUpgradeFailedProtocol env endpointId info
  else
    (acked.2.enterInProgress endpointId).runUpgradeProtocol env endpointId c
      (!info.supportsDisablingEncryption.getD false)

def processBwuPathAvailableEvent (env : Env) (s : World) (endpointId : String)
    (info : UpgradePathInfo) : World :=
  match s.beginPathAvailable env endpointId info with
  | .returned s => s
  | .dialled c s => s.finishPathAvailable env endpointId info c

/-! ### Incoming frames and sockets -/

def onBwuNegotiationFrame (env : Env) (fuel : Nat) (s : World)
    (frame : BandwidthUpgradeNegotiationFrame) (endpointId : String) : Except Abort World :=
  let eventType := (frame.eventType.bind EventType.tryFrom).getD .unknownEventType
  if ¬ s.client.isConnectedToEndpoint endpointId then
    match eventType, frame.upgradePathInfo with
    | .upgradePathAvailable, some info => .ok (s.runUpgradeFailedProtocol env endpointId info)
    | _, _ => .ok s
  else
    match eventType with
    | .upgradePathAvailable =>
      match frame.upgradePathInfo with
      | some info => .ok (s.processBwuPathAvailableEvent env endpointId info)
      | none => .ok s
    | .upgradeFailure =>
      match frame.upgradePathInfo with
      | some info =>
        s.processUpgradeFailureEvent env (initiateBwuForEndpoint env fuel) endpointId info
      | none => .ok s
    | .lastWriteToPriorChannel =>
      if endpointId ∉ s.inProgressUpgrades then .ok s
      else
        .ok ((s.emit (.lastWriteDispatched endpointId)).processLastWriteToPriorChannelEvent
          env endpointId)
    | .safeToClosePriorChannel =>
      if endpointId ∉ s.inProgressUpgrades then .ok s
      else .ok (s.processSafeToClosePriorChannelEvent env endpointId)
    | _ => .ok s

def onIncomingFrame (env : Env) (fuel : Nat) (s : World) (frame : OfflineFrame)
    (endpointId : String) : Except Abort World :=
  if getFrameType frame ≠ .bandwidthUpgradeNegotiation then .ok s
  else
    match frame.v1.bind (·.bandwidthUpgradeNegotiation) with
    | none => .ok s
    | some bwu => s.onBwuNegotiationFrame env fuel bwu endpointId

def decodeClientIntroduction (P : Prost) (data : Bytes) : Option ClientIntroduction :=
  match P.fromBytes data with
  | .error _ => none
  | .ok frame =>
    (frame.v1.bind (·.bandwidthUpgradeNegotiation)).bind fun bwu =>
      if bwu.eventType ≠ some EventType.clientIntroduction.number then none
      else bwu.clientIntroduction

def readClientIntroductionFrame (env : Env) (s : World) (c : ChannelId) :
    Option ClientIntroduction × World :=
  let r := s.read env c
  (match r.1 with
    | .error _ => none
    | .ok data => decodeClientIntroduction env.prost data,
    r.2)

/-- The endpoint an introduced id stands for: itself while its upgrade is in progress,
else the only endpoint whose upgrade is. -/
def attributedEndpoint (s : World) (introducedId : String) : Option String :=
  if introducedId ∈ s.inProgressUpgrades then some introducedId
  else if HashMap.len s.inProgressUpgrades = 1 then HashSet.only? s.inProgressUpgrades
  else none

def onIncomingConnection (env : Env) (s : World) (c : ChannelId) : World :=
  let r := (s.emit (.incoming c)).readClientIntroductionFrame env c
  match r.1 with
  | none => r.2.close c
  | some introduction =>
    let w := r.2.write env none c (.frame forBwuIntroductionAck)
    if ¬ w.1.ok then w.2.close c
    else
      match w.2.attributedEndpoint (introduction.endpointId.getD "") with
      | none => w.2
      | some endpointId =>
        (w.2.cancelRetryUpgradeAlarm endpointId).runUpgradeProtocol env endpointId c
          (!introduction.supportsDisablingEncryption.getD false)

/-! ### Disconnect and shutdown -/

def onEndpointDisconnect (s : World) (serviceId endpointId : String) : World :=
  let medium := s.getBwuMediumForEndpoint endpointId
  let s :=
    if s.hasHandlerForMedium medium then s.emit (.handlerDisconnect medium endpointId) else s
  let s := s.closeParked endpointId .shutdown
  let s := s.leaveInProgress endpointId
  let s := { s with retryDelays := s.retryDelays.erase endpointId }
  let s := (s.cancelRetryUpgradeAlarm endpointId).unlatch endpointId
  if s.config.supportMultipleBwuMediums ∨ s.getConnectedEndpointsCount ≤ 1 then
    s.revertBwuMediumForEndpoint serviceId endpointId
  else s

theorem onEndpointDisconnect_rule {R : World → World → Prop} {e : String} (refl : ∀ s, R s s)
    (trans : ∀ {s t v}, R s t → R t v → R s v)
    (tell : ∀ s m, R s (s.emit (.handlerDisconnect m e)))
    (close : ∀ s, R s (s.closeParked e .shutdown)) (leave : ∀ s, R s (s.leaveInProgress e))
    (forget : ∀ s, R s { s with retryDelays := s.retryDelays.erase e })
    (cancel : ∀ s, R s (s.cancelRetryUpgradeAlarm e)) (unlatch : ∀ s, R s (s.unlatch e))
    (revert : ∀ s u, R s (s.revertBwuMediumForEndpoint u e)) (s : World) (u : String) :
    R s (s.onEndpointDisconnect u e) := by
  unfold onEndpointDisconnect
  extract_lets medium s₁ s₂ s₃ s₄ s₅
  have h₁ : R s s₁ := by
    by_cases hh : s.hasHandlerForMedium medium = true
    · rw [show s₁ = _ from if_pos hh]
      exact tell s medium
    · rw [show s₁ = _ from if_neg hh]
      exact refl s
  have h₅ : R s s₅ :=
    trans (trans (trans (trans (trans h₁ (close s₁)) (leave s₂)) (forget s₃)) (cancel s₄))
      (unlatch _)
  split
  case isTrue => exact trans h₅ (revert s₅ u)
  case isFalse => exact h₅

theorem foldl_revertInitiatorState {R : World → World → Prop} (refl : ∀ s, R s s)
    (trans : ∀ {s t v}, R s t → R t v → R s v) (revert : ∀ s m, R s (s.revertInitiatorState m))
    (ms : List Medium) (s : World) : R s (ms.foldl revertInitiatorState s) := by
  induction ms generalizing s with
  | nil => exact refl s
  | cons m ms ih => exact trans (revert s m) (ih _)

def shutdown (s : World) : World :=
  let s := { s with retryUpgradeAlarms := ∅, retryDelays := ∅ }
  let s := s.handlers.keys.foldl revertInitiatorState s
  { s with
    inProgressUpgrades := ∅
    previousEndpointChannels := ∅
    successfullyUpgradedEndpoints := ∅ }

end World

end Nearby.Bwu
