import Mathlib.Data.List.Basic

/-! The wire messages of `offline_wire_formats.proto`, as prost generates them:
every optional field is an `Option`, every enum field is the raw `i32` it was
decoded from.  Fields that no modelled function reads or sets are left out. -/

namespace Nearby

abbrev Bytes := List UInt8

/-- `location.nearby.proto.connections.Medium`, the domain view of a medium. -/
inductive Medium : Type
  | unknownMedium
  | mdns
  | bluetooth
  | wifiHotspot
  | ble
  | wifiLan
  | wifiAware
  | nfc
  | wifiDirect
  | webRtc
  | bleL2cap
  | usb
  | webRtcNonCellular
  | awdl
  deriving DecidableEq, Repr

/-- `location.nearby.proto.connections.WifiDirectAuthType`. -/
inductive WifiDirectAuthType : Type
  | wifiDirectTypeUnknown
  | wifiDirectWithPassword
  | wifiDirectWithPin
  | wifiDirectWithDeviceName
  deriving DecidableEq, Repr

namespace Proto

/-- `try_from` of a prost enum: the variant carrying the number, if there is one. -/
def tryFromNumber (all : List E) (number : E → Int32) (v : Int32) : Option E :=
  all.find? fun e => number e = v

theorem tryFromNumber_number {all : List E} {number : E → Int32}
    (inj : Function.Injective number) {e : E} (h : e ∈ all) :
    tryFromNumber all number (number e) = some e := by
  induction all with
  | nil => cases h
  | cons a as ih =>
    by_cases ha : number a = number e
    · simp [tryFromNumber, inj ha]
    · have he : e ∈ as := by
        rcases List.mem_cons.mp h with rfl | h
        · exact absurd rfl ha
        · exact h
      simpa [tryFromNumber, List.find?_cons, ha] using ih he

namespace V1

inductive FrameType : Type
  | unknownFrameType
  | connectionRequest
  | connectionResponse
  | payloadTransfer
  | bandwidthUpgradeNegotiation
  | keepAlive
  | disconnection
  | pairedKeyEncryption
  | authenticationMessage
  | authenticationResult
  | autoResume
  | autoReconnect
  | bandwidthUpgradeRetry
  deriving DecidableEq, Repr

def FrameType.all : List FrameType :=
  [.unknownFrameType, .connectionRequest, .connectionResponse, .payloadTransfer,
    .bandwidthUpgradeNegotiation, .keepAlive, .disconnection, .pairedKeyEncryption,
    .authenticationMessage, .authenticationResult, .autoResume, .autoReconnect,
    .bandwidthUpgradeRetry]

def FrameType.number : FrameType → Int32
  | .unknownFrameType => 0
  | .connectionRequest => 1
  | .connectionResponse => 2
  | .payloadTransfer => 3
  | .bandwidthUpgradeNegotiation => 4
  | .keepAlive => 5
  | .disconnection => 6
  | .pairedKeyEncryption => 7
  | .authenticationMessage => 8
  | .authenticationResult => 9
  | .autoResume => 10
  | .autoReconnect => 11
  | .bandwidthUpgradeRetry => 12

def FrameType.tryFrom : Int32 → Option FrameType := tryFromNumber all number

end V1

def versionV1 : Int32 := 1

namespace ConnectionRequest

/-- `ConnectionRequestFrame.Medium`, number for number the domain `Medium`. -/
inductive Medium : Type
  | unknownMedium
  | mdns
  | bluetooth
  | wifiHotspot
  | ble
  | wifiLan
  | wifiAware
  | nfc
  | wifiDirect
  | webRtc
  | bleL2cap
  | usb
  | webRtcNonCellular
  | awdl
  deriving DecidableEq

def Medium.all : List Medium :=
  [.unknownMedium, .mdns, .bluetooth, .wifiHotspot, .ble, .wifiLan, .wifiAware, .nfc,
    .wifiDirect, .webRtc, .bleL2cap, .usb, .webRtcNonCellular, .awdl]

def Medium.number : Medium → Int32
  | .unknownMedium => 0
  | .mdns => 1
  | .bluetooth => 2
  | .wifiHotspot => 3
  | .ble => 4
  | .wifiLan => 5
  | .wifiAware => 6
  | .nfc => 7
  | .wifiDirect => 8
  | .webRtc => 9
  | .bleL2cap => 10
  | .usb => 11
  | .webRtcNonCellular => 12
  | .awdl => 13

def Medium.tryFrom : Int32 → Option Medium := tryFromNumber all number

end ConnectionRequest

namespace Metadata

/-- `MediumMetadata.WifiDirectAuthType`. -/
inductive WifiDirectAuthType : Type
  | wifiDirectTypeUnknown
  | wifiDirectWithPassword
  | wifiDirectWithPin
  | wifiDirectWithDeviceName
  deriving DecidableEq

def WifiDirectAuthType.all : List WifiDirectAuthType :=
  [.wifiDirectTypeUnknown, .wifiDirectWithPassword, .wifiDirectWithPin, .wifiDirectWithDeviceName]

def WifiDirectAuthType.number : WifiDirectAuthType → Int32
  | .wifiDirectTypeUnknown => 0
  | .wifiDirectWithPassword => 1
  | .wifiDirectWithPin => 2
  | .wifiDirectWithDeviceName => 3

def WifiDirectAuthType.tryFrom : Int32 → Option WifiDirectAuthType := tryFromNumber all number

end Metadata

structure MediumRole where
  supportWifiDirectGroupOwner : Option Bool := none
  supportWifiDirectGroupClient : Option Bool := none
  supportWifiHotspotHost : Option Bool := none
  supportWifiHotspotClient : Option Bool := none
  supportWifiAwarePublisher : Option Bool := none
  supportWifiAwareSubscriber : Option Bool := none
  supportAwdlPublisher : Option Bool := none
  supportAwdlSubscriber : Option Bool := none
  deriving DecidableEq, Repr

structure MediumMetadata where
  mediumRole : Option MediumRole := none
  supports5Ghz : Option Bool := none
  bssid : Option String := none
  apFrequency : Option Int32 := none
  supportedWifiDirectAuthTypes : List Int32 := []
  deriving DecidableEq, Repr

structure ConnectionsDevice where
  endpointId : Option String := none
  endpointType : Option Int32 := none
  connectivityInfoList : Option Bytes := none
  endpointInfo : Option Bytes := none
  deriving DecidableEq, Repr

structure PresenceDevice where
  endpointId : Option String := none
  endpointType : Option Int32 := none
  connectivityInfoList : Option Bytes := none
  deviceId : Option Int64 := none
  deviceName : Option String := none
  deviceType : Option Int32 := none
  deviceImageUrl : Option String := none
  discoveryMedium : List Int32 := []
  actions : List Int32 := []
  identityType : List Int64 := []
  deriving DecidableEq, Repr

inductive ConnectionRequest.Device : Type
  | connectionsDevice (dev : ConnectionsDevice)
  | presenceDevice (dev : PresenceDevice)
  deriving DecidableEq, Repr

structure ConnectionRequestFrame where
  endpointId : Option String := none
  endpointName : Option String := none
  nonce : Option Int32 := none
  mediums : List Int32 := []
  endpointInfo : Option Bytes := none
  mediumMetadata : Option MediumMetadata := none
  keepAliveIntervalMillis : Option Int32 := none
  keepAliveTimeoutMillis : Option Int32 := none
  device : Option ConnectionRequest.Device := none
  deriving DecidableEq, Repr

structure OsInfo where
  type : Option Int32 := none
  deriving DecidableEq, Repr

inductive ResponseStatus : Type
  | unknownResponseStatus
  | accept
  | reject
  deriving DecidableEq, Repr

def ResponseStatus.number : ResponseStatus → Int32
  | .unknownResponseStatus => 0
  | .accept => 1
  | .reject => 2

structure ConnectionResponseFrame where
  status : Option Int32 := none
  response : Option Int32 := none
  osInfo : Option OsInfo := none
  multiplexSocketBitmask : Option Int32 := none
  safeToDisconnectVersion : Option Int32 := none
  deriving DecidableEq, Repr

namespace PayloadTransfer

inductive PacketType : Type
  | unknownPacketType
  | data
  | control
  | payloadAck
  deriving DecidableEq, Repr

def PacketType.all : List PacketType := [.unknownPacketType, .data, .control, .payloadAck]

def PacketType.number : PacketType → Int32
  | .unknownPacketType => 0
  | .data => 1
  | .control => 2
  | .payloadAck => 3

def PacketType.tryFrom : Int32 → Option PacketType := tryFromNumber all number

def payloadTypeFile : Int32 := 2

def lastChunk : Int32 := 1

structure PayloadHeader where
  id : Option Int64 := none
  type : Option Int32 := none
  totalSize : Option Int64 := none
  fileName : Option String := none
  parentFolder : Option String := none
  deriving DecidableEq, Repr

structure PayloadChunk where
  flags : Option Int32 := none
  offset : Option Int64 := none
  body : Option Bytes := none
  deriving DecidableEq, Repr

structure ControlMessage where
  event : Option Int32 := none
  offset : Option Int64 := none
  deriving DecidableEq, Repr

end PayloadTransfer

open PayloadTransfer in
structure PayloadTransferFrame where
  packetType : Option Int32 := none
  payloadHeader : Option PayloadHeader := none
  payloadChunk : Option PayloadChunk := none
  controlMessage : Option ControlMessage := none
  deriving DecidableEq, Repr

structure LocationHint where
  location : Option String := none
  format : Option Int32 := none
  deriving DecidableEq, Repr

structure ServiceAddress where
  ipAddress : Option Bytes := none
  port : Option Int32 := none
  deriving DecidableEq, Repr

namespace UpgradePath

/-- `UpgradePathInfo.Medium`: the domain `Medium` without `BLE_L2CAP`. -/
inductive Medium : Type
  | unknownMedium
  | mdns
  | bluetooth
  | wifiHotspot
  | ble
  | wifiLan
  | wifiAware
  | nfc
  | wifiDirect
  | webRtc
  | usb
  | webRtcNonCellular
  | awdl
  deriving DecidableEq, Repr

def Medium.all : List Medium :=
  [.unknownMedium, .mdns, .bluetooth, .wifiHotspot, .ble, .wifiLan, .wifiAware, .nfc,
    .wifiDirect, .webRtc, .usb, .webRtcNonCellular, .awdl]

def Medium.number : Medium → Int32
  | .unknownMedium => 0
  | .mdns => 1
  | .bluetooth => 2
  | .wifiHotspot => 3
  | .ble => 4
  | .wifiLan => 5
  | .wifiAware => 6
  | .nfc => 7
  | .wifiDirect => 8
  | .webRtc => 9
  | .usb => 11
  | .webRtcNonCellular => 12
  | .awdl => 13

def Medium.tryFrom : Int32 → Option Medium := tryFromNumber all number

structure WifiHotspotCredentials where
  ssid : Option String := none
  password : Option String := none
  port : Option Int32 := none
  gateway : Option String := none
  frequency : Option Int32 := none
  addressCandidates : List ServiceAddress := []
  deriving DecidableEq, Repr

structure WifiLanSocket where
  ipAddress : Option Bytes := none
  wifiPort : Option Int32 := none
  addressCandidates : List ServiceAddress := []
  deriving DecidableEq, Repr

structure BluetoothCredentials where
  serviceName : Option String := none
  macAddress : Option String := none
  deriving DecidableEq, Repr

structure WifiAwareCredentials where
  serviceId : Option String := none
  serviceInfo : Option Bytes := none
  password : Option String := none
  deriving DecidableEq, Repr

structure WifiDirectCredentials where
  ssid : Option String := none
  password : Option String := none
  port : Option Int32 := none
  frequency : Option Int32 := none
  gateway : Option String := none
  deviceName : Option String := none
  pin : Option String := none
  deriving DecidableEq, Repr

structure WebRtcCredentials where
  peerId : Option String := none
  locationHint : Option LocationHint := none
  deriving DecidableEq, Repr

structure AwdlCredentials where
  serviceName : Option String := none
  serviceType : Option String := none
  password : Option String := none
  deriving DecidableEq, Repr

structure UpgradePathRequest where
  mediums : List Int32 := []
  mediumMetaData : Option MediumMetadata := none
  deriving DecidableEq, Repr

end UpgradePath

open UpgradePath in
structure UpgradePathInfo where
  medium : Option Int32 := none
  wifiHotspotCredentials : Option WifiHotspotCredentials := none
  wifiLanSocket : Option WifiLanSocket := none
  bluetoothCredentials : Option BluetoothCredentials := none
  wifiAwareCredentials : Option WifiAwareCredentials := none
  wifiDirectCredentials : Option WifiDirectCredentials := none
  webRtcCredentials : Option WebRtcCredentials := none
  awdlCredentials : Option AwdlCredentials := none
  supportsDisablingEncryption : Option Bool := none
  supportsClientIntroductionAck : Option Bool := none
  upgradePathRequest : Option UpgradePathRequest := none
  deriving DecidableEq, Repr

structure ClientIntroduction where
  endpointId : Option String := none
  supportsDisablingEncryption : Option Bool := none
  lastEndpointId : Option String := none
  deriving DecidableEq, Repr

inductive EventType : Type
  | unknownEventType
  | upgradePathAvailable
  | lastWriteToPriorChannel
  | safeToClosePriorChannel
  | clientIntroduction
  | upgradeFailure
  | clientIntroductionAck
  | upgradePathRequest
  deriving DecidableEq, Repr

def EventType.all : List EventType :=
  [.unknownEventType, .upgradePathAvailable, .lastWriteToPriorChannel,
    .safeToClosePriorChannel, .clientIntroduction, .upgradeFailure,
    .clientIntroductionAck, .upgradePathRequest]

def EventType.number : EventType → Int32
  | .unknownEventType => 0
  | .upgradePathAvailable => 1
  | .lastWriteToPriorChannel => 2
  | .safeToClosePriorChannel => 3
  | .clientIntroduction => 4
  | .upgradeFailure => 5
  | .clientIntroductionAck => 6
  | .upgradePathRequest => 7

def EventType.tryFrom : Int32 → Option EventType := tryFromNumber all number

theorem EventType.number_injective : Function.Injective EventType.number := by
  intro a b h
  cases a <;> cases b <;> first | rfl | exact absurd h (by decide)

@[simp] theorem EventType.tryFrom_number (e : EventType) :
    EventType.tryFrom e.number = some e :=
  tryFromNumber_number number_injective (by cases e <;> decide)

structure BandwidthUpgradeNegotiationFrame where
  eventType : Option Int32 := none
  upgradePathInfo : Option UpgradePathInfo := none
  clientIntroduction : Option ClientIntroduction := none
  deriving DecidableEq, Repr

structure KeepAliveFrame where
  ack : Option Bool := none
  seqNum : Option UInt32 := none
  deriving DecidableEq, Repr

structure DisconnectionFrame where
  requestSafeToDisconnect : Option Bool := none
  ackSafeToDisconnect : Option Bool := none
  deriving DecidableEq, Repr

structure V1Frame where
  type : Option Int32 := none
  connectionRequest : Option ConnectionRequestFrame := none
  connectionResponse : Option ConnectionResponseFrame := none
  payloadTransfer : Option PayloadTransferFrame := none
  bandwidthUpgradeNegotiation : Option BandwidthUpgradeNegotiationFrame := none
  keepAlive : Option KeepAliveFrame := none
  disconnection : Option DisconnectionFrame := none
  deriving DecidableEq, Repr

structure OfflineFrame where
  version : Option Int32 := none
  v1 : Option V1Frame := none
  deriving DecidableEq, Repr

end Proto

end Nearby
