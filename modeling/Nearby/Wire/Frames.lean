import Nearby.Lib.Utf8
import Nearby.Wire.Proto

/-! `frames.rs`: the exception codes, the frame builders and the medium conversions.
A builder is kept as the `OfflineFrame` it assembles; `Prost.encode` turns it into the
bytes the source returns. -/

namespace Nearby

open Proto

/-- `nearby::Exception`; `success` is the "no error" value. -/
inductive Exception : Type
  | success
  | failed
  | io
  | interrupted
  | invalidProtocolBuffer
  | execution
  | timeout
  | illegalCharacters
  | noData
  deriving DecidableEq, Repr

def Exception.ok : Exception → Bool
  | .success => true
  | _ => false

@[simp] theorem Exception.ok_iff (x : Exception) : x.ok = true ↔ x = .success := by
  cases x <;> simp [Exception.ok]

/-- prost, the third-party codec: `OfflineFrame::encode` and `OfflineFrame::decode`. -/
structure Prost where
  encode : OfflineFrame → Bytes
  decode : Bytes → Option OfflineFrame

namespace Prost

/-- A codec that knows one frame and its bytes. -/
def knowing (frame : OfflineFrame) (bytes : Bytes) : Prost where
  encode f := if f = frame then bytes else []
  decode b := if b = bytes then some frame else none

theorem encode_knowing (frame : OfflineFrame) (bytes : Bytes) :
    (knowing frame bytes).encode frame = bytes :=
  if_pos rfl

theorem decode_encode_knowing (frame : OfflineFrame) (bytes : Bytes) :
    (knowing frame bytes).decode ((knowing frame bytes).encode frame) = some frame := by
  rw [encode_knowing]
  exact if_pos rfl

end Prost

/-- `InternalPayload::kIndeterminateSize`. -/
def indeterminateSize : Int64 := -1

def statusSuccess : Int32 := 0

def getFrameType (frame : OfflineFrame) : V1.FrameType :=
  if frame.version = some versionV1 then
    match frame.v1 with
    | some v1 => (V1.FrameType.tryFrom (v1.type.getD 0)).getD .unknownFrameType
    | none => .unknownFrameType
  else .unknownFrameType

/-- `encode_v1`, short of the final `encode`: `fill` completes the typed `V1Frame`. -/
def encodeV1 (frameType : V1.FrameType) (fill : V1Frame → V1Frame) : OfflineFrame where
  version := some versionV1
  v1 := some (fill { type := some frameType.number })

/-- `medium_to_upgrade_path_info_medium`: `BLE_L2CAP` collapses to unknown. -/
def mediumToUpgradePathInfoMedium : Medium → UpgradePath.Medium
  | .mdns => .mdns
  | .bluetooth => .bluetooth
  | .wifiHotspot => .wifiHotspot
  | .ble => .ble
  | .wifiLan => .wifiLan
  | .wifiAware => .wifiAware
  | .nfc => .nfc
  | .wifiDirect => .wifiDirect
  | .webRtc => .webRtc
  | .webRtcNonCellular => .webRtcNonCellular
  | .usb => .usb
  | .awdl => .awdl
  | .bleL2cap | .unknownMedium => .unknownMedium

def mediumToConnectionRequestMedium : Medium → ConnectionRequest.Medium
  | .mdns => .mdns
  | .bluetooth => .bluetooth
  | .wifiHotspot => .wifiHotspot
  | .ble => .ble
  | .bleL2cap => .bleL2cap
  | .wifiLan => .wifiLan
  | .wifiAware => .wifiAware
  | .nfc => .nfc
  | .wifiDirect => .wifiDirect
  | .webRtc => .webRtc
  | .webRtcNonCellular => .webRtcNonCellular
  | .usb => .usb
  | .awdl => .awdl
  | .unknownMedium => .unknownMedium

def wfdAuthTypeToMediumMetadataWfdAuthType : WifiDirectAuthType → Metadata.WifiDirectAuthType
  | .wifiDirectWithPassword => .wifiDirectWithPassword
  | .wifiDirectWithDeviceName => .wifiDirectWithDeviceName
  | _ => .wifiDirectTypeUnknown

structure ConnectionInfo where
  localEndpointId : String := ""
  localEndpointInfo : Bytes := []
  nonce : Int32 := 0
  supports5Ghz : Bool := false
  bssid : String := ""
  apFrequency : Int32 := 0
  supportedMediums : List Medium := []
  keepAliveIntervalMillis : Int32 := 0
  keepAliveTimeoutMillis : Int32 := 0
  mediumRole : Option MediumRole := none
  supportedWifiDirectAuthTypes : List WifiDirectAuthType := []

/-- The endpoint info stands in the request twice, once as text. -/
def buildConnectionRequestCommon (connectionInfo : ConnectionInfo) : ConnectionRequestFrame where
  endpointName :=
    if connectionInfo.localEndpointInfo = [] then none
    else some (Lib.Utf8.fromUtf8Lossy connectionInfo.localEndpointInfo)
  endpointInfo :=
    if connectionInfo.localEndpointInfo = [] then none else some connectionInfo.localEndpointInfo
  nonce := some connectionInfo.nonce
  mediumMetadata := some {
    supports5Ghz := some connectionInfo.supports5Ghz
    bssid := if connectionInfo.bssid = "" then none else some connectionInfo.bssid
    apFrequency := some connectionInfo.apFrequency }
  mediums := connectionInfo.supportedMediums.map fun medium =>
    (mediumToConnectionRequestMedium medium).number
  keepAliveIntervalMillis :=
    if connectionInfo.keepAliveIntervalMillis > 0 then some connectionInfo.keepAliveIntervalMillis
    else none
  keepAliveTimeoutMillis :=
    if connectionInfo.keepAliveTimeoutMillis > 0 then some connectionInfo.keepAliveTimeoutMillis
    else none

def forConnectionRequestConnections (protoConnectionsDevice : Option ConnectionsDevice)
    (connectionInfo : ConnectionInfo) (enableDynamicRoleSwitch : Bool) : OfflineFrame :=
  let common := buildConnectionRequestCommon connectionInfo
  -- The `unwrap` of the source: the common part always has its metadata.
  let mm := common.mediumMetadata.getD {}
  let mm :=
    if enableDynamicRoleSwitch then { mm with mediumRole := connectionInfo.mediumRole } else mm
  encodeV1 .connectionRequest fun v1 =>
    { v1 with connectionRequest := some {
        device :=
          match protoConnectionsDevice with
          | some dev => if dev.endpointId.isSome then some (.connectionsDevice dev) else none
          | none => none
        endpointId :=
          if connectionInfo.localEndpointId = "" then none else some connectionInfo.localEndpointId
        endpointName := common.endpointName
        endpointInfo := common.endpointInfo
        nonce := common.nonce
        mediumMetadata := some { mm with
          supportedWifiDirectAuthTypes :=
            connectionInfo.supportedWifiDirectAuthTypes.map fun authType =>
              (wfdAuthTypeToMediumMetadataWfdAuthType authType).number }
        mediums := common.mediums
        keepAliveIntervalMillis := common.keepAliveIntervalMillis
        keepAliveTimeoutMillis := common.keepAliveTimeoutMillis } }

/-- The endpoint id is the device's, present but empty when the device has none. -/
def forConnectionRequestPresence (protoPresenceDevice : PresenceDevice)
    (connectionInfo : ConnectionInfo) : OfflineFrame :=
  let req := buildConnectionRequestCommon connectionInfo
  encodeV1 .connectionRequest fun v1 =>
    { v1 with connectionRequest := some { req with
        endpointId :=
          if connectionInfo.localEndpointId = "" then none
          else some (protoPresenceDevice.endpointId.getD "")
        device := some (.presenceDevice protoPresenceDevice) } }

def forConnectionResponse (status : Int32) (osInfo : OsInfo) (safeToDisconnectVersion : Int32) :
    OfflineFrame :=
  let response : ResponseStatus := if status = statusSuccess then .accept else .reject
  encodeV1 .connectionResponse fun v1 =>
    { v1 with connectionResponse := some {
        status := some status
        response := some response.number
        osInfo := some osInfo
        multiplexSocketBitmask := some 0
        safeToDisconnectVersion := some safeToDisconnectVersion } }

def forPayloadAckPayloadTransfer (payloadId : Int64) : OfflineFrame :=
  encodeV1 .payloadTransfer fun v1 =>
    { v1 with payloadTransfer := some {
        packetType := some PayloadTransfer.PacketType.payloadAck.number
        payloadHeader := some { id := some payloadId, totalSize := some indeterminateSize } } }

def bwuFrame (sub : BandwidthUpgradeNegotiationFrame) : OfflineFrame :=
  encodeV1 .bandwidthUpgradeNegotiation fun v1 =>
    { v1 with bandwidthUpgradeNegotiation := some sub }

def bwuUpgradePathAvailable (info : UpgradePathInfo) : OfflineFrame :=
  bwuFrame { eventType := some EventType.upgradePathAvailable.number, upgradePathInfo := some info }

def forBwuWifiHotspotPathAvailable (credentials : UpgradePath.WifiHotspotCredentials)
    (supportsDisablingEncryption : Bool) : OfflineFrame :=
  bwuUpgradePathAvailable {
    medium := some UpgradePath.Medium.wifiHotspot.number
    supportsClientIntroductionAck := some true
    supportsDisablingEncryption := some supportsDisablingEncryption
    wifiHotspotCredentials := some credentials }

/-- The platform's network tuple, an IPv4 address of 4 bytes or an IPv6 address of 16. -/
structure Frames.ServiceAddress where
  address : Bytes
  port : Int32
  deriving DecidableEq, Repr

def serviceAddressToProto (addr : Frames.ServiceAddress) : ServiceAddress where
  ipAddress := some addr.address
  port := some addr.port

/-- The socket `for_bwu_wifi_lan_path_available` advertises: the last address in the legacy
fields as well, if it is an IPv4 one. -/
def wifiLanSocket (addresses : List Frames.ServiceAddress) : UpgradePath.WifiLanSocket :=
  let candidates := addresses.map serviceAddressToProto
  match addresses.getLast? with
  | none => {}
  | some last =>
    if last.address.length = 4 then
      { ipAddress := some last.address
        wifiPort := some last.port
        addressCandidates := candidates }
    else { addressCandidates := candidates }

def forBwuWifiLanPathAvailable (addresses : List Frames.ServiceAddress) : OfflineFrame :=
  bwuUpgradePathAvailable {
    medium := some UpgradePath.Medium.wifiLan.number
    supportsClientIntroductionAck := some true
    wifiLanSocket := some (wifiLanSocket addresses) }

def forBwuAwdlPathAvailable (serviceName serviceType password : String)
    (supportsDisablingEncryption : Bool) : OfflineFrame :=
  bwuUpgradePathAvailable {
    medium := some UpgradePath.Medium.awdl.number
    supportsClientIntroductionAck := some true
    supportsDisablingEncryption := some supportsDisablingEncryption
    awdlCredentials := some {
      serviceName := some serviceName
      serviceType := some serviceType
      password := some password } }

def forBwuWifiAwarePathAvailable (serviceId : String) (serviceInfo : Bytes) (password : String)
    (supportsDisablingEncryption : Bool) : OfflineFrame :=
  bwuUpgradePathAvailable {
    medium := some UpgradePath.Medium.wifiAware.number
    supportsClientIntroductionAck := some true
    supportsDisablingEncryption := some supportsDisablingEncryption
    wifiAwareCredentials := some {
      serviceId := some serviceId
      serviceInfo := some serviceInfo
      password := if password = "" then none else some password } }

def forBwuWifiDirectPathAvailable (ssid password : String) (port frequency : Int32)
    (supportsDisablingEncryption : Bool) (gateway deviceName pin : String) : OfflineFrame :=
  bwuUpgradePathAvailable {
    medium := some UpgradePath.Medium.wifiDirect.number
    supportsClientIntroductionAck := some true
    supportsDisablingEncryption := some supportsDisablingEncryption
    wifiDirectCredentials := some {
      ssid := some ssid
      password := some password
      port := some port
      frequency := some frequency
      gateway := some gateway
      deviceName := some deviceName
      pin := some pin } }

def forBwuBluetoothPathAvailable (serviceId macAddress : String) : OfflineFrame :=
  bwuUpgradePathAvailable {
    medium := some UpgradePath.Medium.bluetooth.number
    supportsClientIntroductionAck := some true
    bluetoothCredentials := some { serviceName := some serviceId, macAddress := some macAddress } }

def forBwuWebrtcPathAvailable (peerId : String) (locationHint : LocationHint) : OfflineFrame :=
  bwuUpgradePathAvailable {
    medium := some UpgradePath.Medium.webRtc.number
    supportsClientIntroductionAck := some true
    webRtcCredentials := some { peerId := some peerId, locationHint := some locationHint } }

def forBwuFailure (info : UpgradePathInfo) : OfflineFrame :=
  bwuFrame { eventType := some EventType.upgradeFailure.number, upgradePathInfo := some info }

def forBwuLastWrite : OfflineFrame :=
  bwuFrame { eventType := some EventType.lastWriteToPriorChannel.number }

def forBwuSafeToClose : OfflineFrame :=
  bwuFrame { eventType := some EventType.safeToClosePriorChannel.number }

def forBwuIntroduction (endpointId lastEndpointId : String)
    (supportsDisablingEncryption : Bool) : OfflineFrame :=
  bwuFrame {
    eventType := some EventType.clientIntroduction.number
    clientIntroduction := some {
      endpointId := some endpointId
      supportsDisablingEncryption := some supportsDisablingEncryption
      lastEndpointId := if lastEndpointId = "" then none else some lastEndpointId } }

def forBwuIntroductionAck : OfflineFrame :=
  bwuFrame { eventType := some EventType.clientIntroductionAck.number }

def forBwuPathRequest (medium : Medium) (mediums : List Medium) (mediumRole : MediumRole) :
    OfflineFrame :=
  bwuFrame {
    eventType := some EventType.upgradePathRequest.number
    upgradePathInfo := some {
      medium := some (mediumToUpgradePathInfoMedium medium).number
      upgradePathRequest := some {
        mediums := mediums.map fun m => (mediumToUpgradePathInfoMedium m).number
        mediumMetaData := some { mediumRole := some mediumRole } } } }

def forKeepAlive : OfflineFrame :=
  encodeV1 .keepAlive fun v1 => { v1 with keepAlive := some {} }

def forKeepAliveAck (ack : Bool) (seqNum : UInt32) : OfflineFrame :=
  encodeV1 .keepAlive fun v1 =>
    { v1 with keepAlive := some { ack := some ack, seqNum := some seqNum } }

def forDisconnection (requestSafeToDisconnect ackSafeToDisconnect : Bool) : OfflineFrame :=
  encodeV1 .disconnection fun v1 =>
    { v1 with disconnection := some {
        requestSafeToDisconnect := some requestSafeToDisconnect
        ackSafeToDisconnect := some ackSafeToDisconnect } }

@[simp] theorem getFrameType_bwuFrame (sub : BandwidthUpgradeNegotiationFrame) :
    getFrameType (bwuFrame sub) = .bandwidthUpgradeNegotiation := by
  simp only [getFrameType, bwuFrame, encodeV1, if_true]
  rfl

@[simp] theorem getFrameType_forDisconnection (r a : Bool) :
    getFrameType (forDisconnection r a) = .disconnection := by
  simp only [getFrameType, forDisconnection, encodeV1, if_true]
  rfl

def upgradePathInfoMediumToMedium : UpgradePath.Medium → Medium
  | .mdns => .mdns
  | .bluetooth => .bluetooth
  | .wifiHotspot => .wifiHotspot
  | .ble => .ble
  | .wifiLan => .wifiLan
  | .wifiAware => .wifiAware
  | .nfc => .nfc
  | .wifiDirect => .wifiDirect
  | .webRtc => .webRtc
  | .webRtcNonCellular => .webRtcNonCellular
  | .usb => .usb
  | .awdl => .awdl
  | .unknownMedium => .unknownMedium

def connectionRequestMediumToMedium : ConnectionRequest.Medium → Medium
  | .mdns => .mdns
  | .bluetooth => .bluetooth
  | .wifiHotspot => .wifiHotspot
  | .ble => .ble
  | .bleL2cap => .bleL2cap
  | .wifiLan => .wifiLan
  | .wifiAware => .wifiAware
  | .nfc => .nfc
  | .wifiDirect => .wifiDirect
  | .webRtc => .webRtc
  | .webRtcNonCellular => .webRtcNonCellular
  | .usb => .usb
  | .awdl => .awdl
  | .unknownMedium => .unknownMedium

def connectionRequestMediumsToMediums (frame : ConnectionRequestFrame) : List Medium :=
  frame.mediums.map fun intMedium =>
    connectionRequestMediumToMedium
      ((ConnectionRequest.Medium.tryFrom intMedium).getD .unknownMedium)

def mediumMetadataWfdAuthTypeToWfdAuthType : Metadata.WifiDirectAuthType → WifiDirectAuthType
  | .wifiDirectWithPassword => .wifiDirectWithPassword
  | .wifiDirectWithDeviceName => .wifiDirectWithDeviceName
  | _ => .wifiDirectTypeUnknown

def mediumMetadataWfdAuthTypesToWfdAuthTypes (mediumMetadata : MediumMetadata) :
    List WifiDirectAuthType :=
  mediumMetadata.supportedWifiDirectAuthTypes.map fun intType =>
    mediumMetadataWfdAuthTypeToWfdAuthType
      ((Metadata.WifiDirectAuthType.tryFrom intType).getD .wifiDirectTypeUnknown)

def upiMedium (info : UpgradePathInfo) : Medium :=
  upgradePathInfoMediumToMedium
    ((info.medium.bind UpgradePath.Medium.tryFrom).getD .unknownMedium)

def upgradePathInfoForMedium (medium : Medium) : UpgradePathInfo :=
  { medium := some (mediumToUpgradePathInfoMedium medium).number }

end Nearby
