import Nearby.Wire.Frames
import Mathlib.Algebra.Ring.Nat
import Mathlib.Data.List.Infix

/-! `validator.rs`: what `from_bytes` accepts after decoding. -/

namespace Nearby

open Proto PayloadTransfer

namespace Validator

def illegalFileNamePatterns : List String := [":", "/", "\\"]
def illegalParentFolderPatterns : List String := [":", ".."]

def wifiDirectSsidMaxLength : Nat := 32
def wifiPasswordSsidMinLength : Nat := 8
def wifiPasswordSsidMaxLength : Nat := 64
def wifiDirectPinMinLength : Nat := 0
def wifiDirectPinMaxLength : Nat := 16

def utf8Len (cs : List Char) : Nat := (cs.map Char.utf8Size).sum

def withinRange (value min max : Nat) : Bool := value ≥ min && value < max

/-- `u8::is_ascii_digit`, on characters: no byte of a wider character is a digit. -/
def isAsciiDigit (c : Char) : Bool := '0' ≤ c && c ≤ '9'

def isAsciiAlphanumeric (c : Char) : Bool :=
  isAsciiDigit c || ('a' ≤ c && c ≤ 'z') || ('A' ≤ c && c ≤ 'Z')

/-- `str::parse::<u16>` on a string of digits. -/
def parseU16 (cs : List Char) : Option Nat :=
  let n := cs.foldl (fun n c => 10 * n + (c.toNat - '0'.toNat)) 0
  if cs ≠ [] ∧ cs.all isAsciiDigit ∧ n < 2 ^ 16 then some n else none

def isValidIpv4Loop (parts : Nat) : List (List Char) → Bool
  | [] => parts == 4
  | octet :: rest =>
    if parts + 1 > 4 then false
    else if octet = [] || utf8Len octet > 3 || !octet.all isAsciiDigit
        || (parseU16 octet).all (· > 255) then false
    else isValidIpv4Loop (parts + 1) rest

def isValidIpv4 (s : String) : Bool := isValidIpv4Loop 0 (s.toList.splitOn '.')

/-- `matches_wifi_direct_ssid`: `^DIRECT-[a-zA-Z0-9]{2}.*$`. -/
def matchesWifiDirectSsid (s : String) : Bool :=
  match s.toList.dropPrefix? "DIRECT-".toList with
  | some (a :: b :: chars) =>
    isAsciiAlphanumeric a && isAsciiAlphanumeric b && !chars.any (fun c => c = '\n' || c = '\r')
  | _ => false

def hasIllegalCharacters (toValidate : String) (illegalPatterns : List String) : Bool :=
  if toValidate = "" then false
  else illegalPatterns.any fun pat => pat.toList <:+: toValidate.toList

def ensureValidConnectionRequestFrame (frame : ConnectionRequestFrame) : Exception :=
  if frame.endpointId.getD "" = "" then .invalidProtocolBuffer
  else if frame.endpointName.getD "" = "" then .invalidProtocolBuffer
  else .success

/-- For backwards compatibility no fields are null-checked. -/
def ensureValidConnectionResponseFrame (_frame : ConnectionResponseFrame) : Exception := .success

def ensureValidPayloadTransferDataFrame (chunk : PayloadChunk) (totalSize : Int64) : Exception :=
  if chunk.flags.isNone then .invalidProtocolBuffer
  else
    let isLastChunk := chunk.flags.getD 0 &&& lastChunk ≠ 0
    if chunk.body.isNone ∧ ¬ isLastChunk then .invalidProtocolBuffer
    else
      let offset := chunk.offset.getD 0
      if chunk.offset.isNone ∨ offset < 0 then .invalidProtocolBuffer
      else if totalSize ≠ indeterminateSize ∧ totalSize < offset then .invalidProtocolBuffer
      else .success

def ensureValidPayloadTransferControlFrame (control : ControlMessage) (totalSize : Int64) :
    Exception :=
  let offset := control.offset.getD 0
  if control.offset.isNone ∨ offset < 0 then .invalidProtocolBuffer
  else if totalSize ≠ indeterminateSize ∧ totalSize < offset then .invalidProtocolBuffer
  else .success

def ensureValidPayloadTransferFrame (frame : PayloadTransferFrame) : Exception :=
  match frame.payloadHeader with
  | none => .invalidProtocolBuffer
  | some header =>
    let packetType := (frame.packetType.bind PacketType.tryFrom).getD .unknownPacketType
    -- The phone side does not set `total_size` for a PAYLOAD_ACK.
    if packetType = .payloadAck then .success
    else
      let totalSize := header.totalSize.getD 0
      if header.totalSize.isNone ∨ (totalSize < 0 ∧ totalSize ≠ indeterminateSize) then
        .invalidProtocolBuffer
      else if header.type = some payloadTypeFile ∧
          (header.fileName.any (hasIllegalCharacters · illegalFileNamePatterns) ∨
            header.parentFolder.any (hasIllegalCharacters · illegalParentFolderPatterns)) then
        .illegalCharacters
      else if (frame.packetType.bind PacketType.tryFrom).isNone then .invalidProtocolBuffer
      else
        match packetType with
        | .data =>
          match frame.payloadChunk with
          | some chunk => ensureValidPayloadTransferDataFrame chunk totalSize
          | none => .invalidProtocolBuffer
        | .control =>
          match frame.controlMessage with
          | some control => ensureValidPayloadTransferControlFrame control totalSize
          | none => .invalidProtocolBuffer
        | _ => .success

def isValidCandidate (candidate : ServiceAddress) : Bool :=
  match candidate.ipAddress, candidate.port with
  | some ip, some _ => ip.length == 4 || ip.length == 16
  | _, _ => false

def ensureValidBwuWifiHotspotPathAvailable (creds : UpgradePath.WifiHotspotCredentials) :
    Exception :=
  if creds.ssid.isNone then .invalidProtocolBuffer
  else
    match creds.password with
    | none => .invalidProtocolBuffer
    | some p =>
      if !withinRange p.utf8ByteSize wifiPasswordSsidMinLength wifiPasswordSsidMaxLength then
        .invalidProtocolBuffer
      else if creds.gateway.isNone && creds.addressCandidates.isEmpty then .invalidProtocolBuffer
      else
        -- The proto2 default of `gateway`.
        let gateway := creds.gateway.getD "0.0.0.0"
        if gateway ≠ "" && !isValidIpv4 gateway then .invalidProtocolBuffer
        else if creds.addressCandidates.all isValidCandidate then .success
        else .invalidProtocolBuffer

def ensureValidBwuWifiLanPathAvailable (socket : UpgradePath.WifiLanSocket) : Exception :=
  let wifiPort := socket.wifiPort.getD 0
  if (socket.ipAddress.isNone ∨ wifiPort ≤ 0) ∧ socket.addressCandidates = [] then
    .invalidProtocolBuffer
  else .success

def ensureValidBwuWifiAwarePathAvailable (creds : UpgradePath.WifiAwareCredentials) : Exception :=
  if creds.serviceId.isNone then .invalidProtocolBuffer
  else if creds.serviceInfo.isNone then .invalidProtocolBuffer
  else .success

def ensureValidBwuWifiDirectPathAvailable (creds : UpgradePath.WifiDirectCredentials) :
    Exception :=
  if creds.frequency.all (· < -1) then .invalidProtocolBuffer
  else
    let ssidValid := creds.ssid.any fun ssid =>
      ssid.utf8ByteSize < wifiDirectSsidMaxLength && matchesWifiDirectSsid ssid
    let passwordValid := creds.password.any fun p =>
      withinRange p.utf8ByteSize wifiPasswordSsidMinLength wifiPasswordSsidMaxLength
    let deviceNameValid := creds.deviceName.any fun d => d.utf8ByteSize < wifiDirectSsidMaxLength
    let pinValid := creds.pin.any fun p =>
      withinRange p.utf8ByteSize wifiDirectPinMinLength wifiDirectPinMaxLength
    if (ssidValid && passwordValid) || (deviceNameValid && pinValid) then .success
    else .invalidProtocolBuffer

def ensureValidBwuBluetoothPathAvailable (creds : UpgradePath.BluetoothCredentials) : Exception :=
  if creds.serviceName.isNone then .invalidProtocolBuffer
  else if creds.macAddress.isNone then .invalidProtocolBuffer
  else .success

def ensureValidBwuWebRtcPathAvailable (creds : UpgradePath.WebRtcCredentials) : Exception :=
  if creds.peerId.isNone then .invalidProtocolBuffer else .success

/-- A sub-message that must be there, and then pass its own check. -/
def required (sub : Option M) (check : M → Exception) : Exception :=
  match sub with
  | some m => check m
  | none => .invalidProtocolBuffer

def ensureValidBwuPathAvailableFrame (info : UpgradePathInfo) : Exception :=
  match info.medium.bind UpgradePath.Medium.tryFrom with
  | none => .invalidProtocolBuffer
  | some .wifiHotspot =>
    required info.wifiHotspotCredentials ensureValidBwuWifiHotspotPathAvailable
  | some .wifiLan => required info.wifiLanSocket ensureValidBwuWifiLanPathAvailable
  | some .wifiAware => required info.wifiAwareCredentials ensureValidBwuWifiAwarePathAvailable
  | some .wifiDirect => required info.wifiDirectCredentials ensureValidBwuWifiDirectPathAvailable
  | some .bluetooth => required info.bluetoothCredentials ensureValidBwuBluetoothPathAvailable
  | some .webRtc => required info.webRtcCredentials ensureValidBwuWebRtcPathAvailable
  | some _ => .success

def ensureValidBwuClientIntroductionFrame (intro : ClientIntroduction) : Exception :=
  if intro.endpointId.isNone then .invalidProtocolBuffer else .success

def ensureValidBwuNegotiationFrame (frame : BandwidthUpgradeNegotiationFrame) : Exception :=
  match frame.eventType.bind EventType.tryFrom with
  | none => .invalidProtocolBuffer
  | some .upgradePathAvailable => required frame.upgradePathInfo ensureValidBwuPathAvailableFrame
  | some .clientIntroduction =>
    required frame.clientIntroduction ensureValidBwuClientIntroductionFrame
  | some _ => .success

def ensureValidOfflineFrame (frame : OfflineFrame) : Exception :=
  match getFrameType frame with
  | .connectionRequest =>
    required (frame.v1.bind (·.connectionRequest)) ensureValidConnectionRequestFrame
  | .connectionResponse =>
    required (frame.v1.bind (·.connectionResponse)) ensureValidConnectionResponseFrame
  | .payloadTransfer =>
    required (frame.v1.bind (·.payloadTransfer)) ensureValidPayloadTransferFrame
  | .bandwidthUpgradeNegotiation =>
    required (frame.v1.bind (·.bandwidthUpgradeNegotiation)) ensureValidBwuNegotiationFrame
  | _ => .success

end Validator

/-- `from_bytes`: decode, then validate. -/
def Prost.fromBytes (P : Prost) (bytes : Bytes) : Except Exception OfflineFrame :=
  match P.decode bytes with
  | some frame =>
    let ex := Validator.ensureValidOfflineFrame frame
    if ex.ok then .ok frame else .error ex
  | none => .error .invalidProtocolBuffer

theorem Prost.fromBytes_eq_ok {P : Prost} {bytes : Bytes} {frame : OfflineFrame} :
    P.fromBytes bytes = .ok frame ↔
      P.decode bytes = some frame ∧ Validator.ensureValidOfflineFrame frame = .success := by
  rw [Prost.fromBytes]
  cases P.decode bytes with
  | none => simp
  | some f =>
    dsimp only
    split
    case isTrue hv =>
      rw [Exception.ok_iff] at hv
      constructor
      · intro h
        cases h
        exact ⟨rfl, hv⟩
      · rintro ⟨h, -⟩
        cases h
        rfl
    case isFalse hv =>
      rw [Exception.ok_iff] at hv
      refine iff_of_false (by simp) ?_
      rintro ⟨h, hv'⟩
      cases h
      exact hv hv'

theorem Prost.fromBytes_of_decode {P : Prost} {bytes : Bytes} {frame : OfflineFrame}
    (hd : P.decode bytes = some frame)
    (hv : Validator.ensureValidOfflineFrame frame = .success) :
    P.fromBytes bytes = .ok frame :=
  Prost.fromBytes_eq_ok.mpr ⟨hd, hv⟩

end Nearby
