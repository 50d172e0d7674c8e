import Nearby.Wire.Payloads
import Nearby.Wire.Requests

/-! What `from_bytes` accepts, stated frame by frame without the checks of `validator.rs`, and the
error it returns for everything else. -/

namespace Nearby

open Proto

namespace Proto

variable {E : Type} {all : List E} {number : E → Int32}

theorem tryFromNumber_iff (inj : Function.Injective number) (complete : ∀ e, e ∈ all) {v : Int32}
    {e : E} : tryFromNumber all number v = some e ↔ v = number e := by
  constructor
  · intro h
    rw [tryFromNumber] at h
    exact (of_decide_eq_true (List.find?_some h :)).symm
  · rintro rfl
    exact tryFromNumber_number inj (complete e)

theorem bind_tryFromNumber_iff (inj : Function.Injective number) (complete : ∀ e, e ∈ all)
    {v : Option Int32} {e : E} :
    v.bind (tryFromNumber all number) = some e ↔ v = some (number e) := by
  simp only [Option.bind_eq_some_iff, tryFromNumber_iff inj complete, exists_eq_right]

theorem V1.FrameType.tryFrom_iff {v : Int32} {t : V1.FrameType} :
    V1.FrameType.tryFrom v = some t ↔ v = t.number := by
  refine tryFromNumber_iff (fun a b h => ?_) fun t => ?_
  · cases a <;> cases b <;> first | rfl | exact absurd h (by decide)
  · cases t <;> decide

theorem UpgradePath.Medium.bind_tryFrom_iff {v : Option Int32} {m : UpgradePath.Medium} :
    v.bind UpgradePath.Medium.tryFrom = some m ↔ v = some m.number := by
  refine bind_tryFromNumber_iff (fun a b h => ?_) fun m => ?_
  · cases a <;> cases b <;> first | rfl | exact absurd h (by decide)
  · cases m <;> decide

theorem EventType.bind_tryFrom_iff {v : Option Int32} {e : EventType} :
    v.bind EventType.tryFrom = some e ↔ v = some e.number :=
  bind_tryFromNumber_iff number_injective fun e => by cases e <;> decide

end Proto

namespace Validator

/-! ### Specification -/

structure IsFrame (frame : OfflineFrame) (t : V1.FrameType) (v1 : V1Frame) : Prop where
  version : frame.version = some versionV1
  holds : frame.v1 = some v1
  type : v1.type = some t.number

structure RequestWellFormed (req : ConnectionRequestFrame) : Prop where
  endpointId : ∃ id, req.endpointId = some id ∧ id ≠ ""
  endpointName : ∃ name, req.endpointName = some name ∧ name ≠ ""

def LanWellFormed (socket : UpgradePath.WifiLanSocket) : Prop :=
  (socket.ipAddress ≠ none ∧ ∃ port, socket.wifiPort = some port ∧ 0 < port) ∨
    socket.addressCandidates ≠ []

structure AwareWellFormed (creds : UpgradePath.WifiAwareCredentials) : Prop where
  serviceId : creds.serviceId ≠ none
  serviceInfo : creds.serviceInfo ≠ none

/-- A group that can be joined with its passphrase. -/
structure GroupWellFormed (creds : UpgradePath.WifiDirectCredentials) : Prop where
  ssid : ∃ ssid, creds.ssid = some ssid ∧ ssid.utf8ByteSize < 32 ∧ DirectSsid ssid
  password : ∃ p, creds.password = some p ∧ 8 ≤ p.utf8ByteSize ∧ p.utf8ByteSize ≤ 63

/-- A device that can be paired with its pin. -/
structure DeviceWellFormed (creds : UpgradePath.WifiDirectCredentials) : Prop where
  deviceName : ∃ name, creds.deviceName = some name ∧ name.utf8ByteSize < 32
  pin : ∃ pin, creds.pin = some pin ∧ pin.utf8ByteSize < 16

structure WifiDirectWellFormed (creds : UpgradePath.WifiDirectCredentials) : Prop where
  frequency : ∃ f, creds.frequency = some f ∧ -1 ≤ f
  credentials : GroupWellFormed creds ∨ DeviceWellFormed creds

structure BluetoothWellFormed (creds : UpgradePath.BluetoothCredentials) : Prop where
  serviceName : creds.serviceName ≠ none
  macAddress : creds.macAddress ≠ none

/-- The medium is a known one, and for six of them the path to it is described. -/
structure PathWellFormed (info : UpgradePathInfo) : Prop where
  known : ∃ m : UpgradePath.Medium, info.medium = some m.number
  wifiHotspot : info.medium = some UpgradePath.Medium.wifiHotspot.number →
    ∃ creds, info.wifiHotspotCredentials = some creds ∧ HotspotWellFormed creds
  wifiLan : info.medium = some UpgradePath.Medium.wifiLan.number →
    ∃ socket, info.wifiLanSocket = some socket ∧ LanWellFormed socket
  wifiAware : info.medium = some UpgradePath.Medium.wifiAware.number →
    ∃ creds, info.wifiAwareCredentials = some creds ∧ AwareWellFormed creds
  wifiDirect : info.medium = some UpgradePath.Medium.wifiDirect.number →
    ∃ creds, info.wifiDirectCredentials = some creds ∧ WifiDirectWellFormed creds
  bluetooth : info.medium = some UpgradePath.Medium.bluetooth.number →
    ∃ creds, info.bluetoothCredentials = some creds ∧ BluetoothWellFormed creds
  webRtc : info.medium = some UpgradePath.Medium.webRtc.number →
    ∃ creds, info.webRtcCredentials = some creds ∧ creds.peerId ≠ none

/-- The event is a known one; an offer describes its path and an introduction names the
endpoint.  A failure need not say of what. -/
structure NegotiationWellFormed (sub : BandwidthUpgradeNegotiationFrame) : Prop where
  known : ∃ event : EventType, sub.eventType = some event.number
  offer : sub.eventType = some EventType.upgradePathAvailable.number →
    ∃ info, sub.upgradePathInfo = some info ∧ PathWellFormed info
  introduction : sub.eventType = some EventType.clientIntroduction.number →
    ∃ intro, sub.clientIntroduction = some intro ∧ intro.endpointId ≠ none

/-- Four types of frame are looked into; all others, and frames of another version, pass. -/
structure Acceptable (frame : OfflineFrame) : Prop where
  request : ∀ v1, IsFrame frame .connectionRequest v1 →
    ∃ req, v1.connectionRequest = some req ∧ RequestWellFormed req
  response : ∀ v1, IsFrame frame .connectionResponse v1 → v1.connectionResponse ≠ none
  transfer : ∀ v1, IsFrame frame .payloadTransfer v1 →
    ∃ transfer, v1.payloadTransfer = some transfer ∧
      (Acknowledges transfer ∨ ¬ NamesEscape transfer ∧ TransferWellFormed transfer)
  negotiation : ∀ v1, IsFrame frame .bandwidthUpgradeNegotiation v1 →
    ∃ sub, v1.bandwidthUpgradeNegotiation = some sub ∧ NegotiationWellFormed sub

/-! ### The checks -/

theorem request_iff (req : ConnectionRequestFrame) :
    ensureValidConnectionRequestFrame req = .success ↔ RequestWellFormed req := by
  have hget : ∀ v : Option String, v.getD "" ≠ "" ↔ ∃ s, v = some s ∧ s ≠ "" := by
    intro v
    cases v <;> simp
  rw [ensureValidConnectionRequestFrame_iff, hget, hget]
  exact ⟨fun ⟨hid, hname⟩ => ⟨hid, hname⟩, fun ⟨hid, hname⟩ => ⟨hid, hname⟩⟩

theorem lan_iff (socket : UpgradePath.WifiLanSocket) :
    ensureValidBwuWifiLanPathAvailable socket = .success ↔ LanWellFormed socket := by
  have hport : 0 < socket.wifiPort.getD 0 ↔ ∃ port, socket.wifiPort = some port ∧ 0 < port := by
    cases socket.wifiPort with
    | none => simp
    | some port => simp
  rw [ensureValidBwuWifiLanPathAvailable, check_iff, and_iff_left rfl, not_and_or, not_or,
    LanWellFormed, ← hport, Option.isNone_iff_eq_none, Int32.not_le]

theorem aware_iff (creds : UpgradePath.WifiAwareCredentials) :
    ensureValidBwuWifiAwarePathAvailable creds = .success ↔ AwareWellFormed creds := by
  rw [ensureValidBwuWifiAwarePathAvailable, check_iff, check_iff, and_iff_left rfl,
    Option.isNone_iff_eq_none, Option.isNone_iff_eq_none]
  exact ⟨fun ⟨hid, hinfo⟩ => ⟨hid, hinfo⟩, fun ⟨hid, hinfo⟩ => ⟨hid, hinfo⟩⟩

theorem bluetooth_iff (creds : UpgradePath.BluetoothCredentials) :
    ensureValidBwuBluetoothPathAvailable creds = .success ↔ BluetoothWellFormed creds := by
  rw [ensureValidBwuBluetoothPathAvailable, check_iff, check_iff, and_iff_left rfl,
    Option.isNone_iff_eq_none, Option.isNone_iff_eq_none]
  exact ⟨fun ⟨hname, hmac⟩ => ⟨hname, hmac⟩, fun ⟨hname, hmac⟩ => ⟨hname, hmac⟩⟩

theorem webRtc_iff (creds : UpgradePath.WebRtcCredentials) :
    ensureValidBwuWebRtcPathAvailable creds = .success ↔ creds.peerId ≠ none := by
  rw [ensureValidBwuWebRtcPathAvailable, check_iff, and_iff_left rfl, Option.isNone_iff_eq_none]

theorem introduction_iff (intro : ClientIntroduction) :
    ensureValidBwuClientIntroductionFrame intro = .success ↔ intro.endpointId ≠ none := by
  rw [ensureValidBwuClientIntroductionFrame, check_iff, and_iff_left rfl,
    Option.isNone_iff_eq_none]

theorem wifiDirect_iff (creds : UpgradePath.WifiDirectCredentials) :
    ensureValidBwuWifiDirectPathAvailable creds = .success ↔ WifiDirectWellFormed creds := by
  have hlow : ¬ creds.frequency.all (· < -1) = true ↔ ∃ f, creds.frequency = some f ∧ -1 ≤ f := by
    cases creds.frequency <;> simp
  have hssid : (creds.ssid.any fun ssid =>
        ssid.utf8ByteSize < wifiDirectSsidMaxLength && matchesWifiDirectSsid ssid) = true ↔
      ∃ ssid, creds.ssid = some ssid ∧ ssid.utf8ByteSize < 32 ∧ DirectSsid ssid := by
    simp only [Option.any_eq_true, Bool.and_eq_true, matchesWifiDirectSsid_iff, decide_eq_true_iff]
    rfl
  have hpassword : (creds.password.any fun p =>
        withinRange p.utf8ByteSize wifiPasswordSsidMinLength wifiPasswordSsidMaxLength) = true ↔
      ∃ p, creds.password = some p ∧ 8 ≤ p.utf8ByteSize ∧ p.utf8ByteSize ≤ 63 := by
    simp [Option.any_eq_true, withinRange_iff, wifiPasswordSsidMinLength,
      wifiPasswordSsidMaxLength, Nat.lt_succ_iff]
  have hname : (creds.deviceName.any fun d => d.utf8ByteSize < wifiDirectSsidMaxLength) = true ↔
      ∃ name, creds.deviceName = some name ∧ name.utf8ByteSize < 32 := by
    simp only [Option.any_eq_true, decide_eq_true_iff]
    rfl
  have hpin : (creds.pin.any fun p =>
        withinRange p.utf8ByteSize wifiDirectPinMinLength wifiDirectPinMaxLength) = true ↔
      ∃ pin, creds.pin = some pin ∧ pin.utf8ByteSize < 16 := by
    simp [Option.any_eq_true, withinRange_iff, wifiDirectPinMinLength, wifiDirectPinMaxLength]
  rw [ensureValidBwuWifiDirectPathAvailable]
  dsimp only
  rw [check_iff, hlow]
  constructor
  · rintro ⟨hf, h⟩
    refine ⟨hf, ?_⟩
    split at h
    case isFalse => cases h
    case isTrue hvalid =>
      rw [Bool.or_eq_true, Bool.and_eq_true, Bool.and_eq_true, hssid, hpassword, hname, hpin]
        at hvalid
      exact hvalid.imp (fun h => ⟨h.1, h.2⟩) fun h => ⟨h.1, h.2⟩
  · rintro ⟨hf, hcreds⟩
    refine ⟨hf, if_pos ?_⟩
    rw [Bool.or_eq_true, Bool.and_eq_true, Bool.and_eq_true, hssid, hpassword, hname, hpin]
    exact hcreds.imp (fun h => ⟨h.ssid, h.password⟩) fun h => ⟨h.deviceName, h.pin⟩

theorem path_iff (info : UpgradePathInfo) :
    ensureValidBwuPathAvailableFrame info = .success ↔ PathWellFormed info := by
  cases hmedium : info.medium.bind UpgradePath.Medium.tryFrom with
  | none =>
    rw [ensureValidBwuPathAvailableFrame, hmedium]
    refine iff_of_false (by simp) fun h => ?_
    obtain ⟨m, hm⟩ := h.known
    cases hmedium.symm.trans (UpgradePath.Medium.bind_tryFrom_iff.mpr hm)
  | some m =>
    have hm := UpgradePath.Medium.bind_tryFrom_iff.mp hmedium
    have hwf : PathWellFormed info ↔
        (m = .wifiHotspot →
          ∃ creds, info.wifiHotspotCredentials = some creds ∧ HotspotWellFormed creds) ∧
        (m = .wifiLan → ∃ socket, info.wifiLanSocket = some socket ∧ LanWellFormed socket) ∧
        (m = .wifiAware →
          ∃ creds, info.wifiAwareCredentials = some creds ∧ AwareWellFormed creds) ∧
        (m = .wifiDirect →
          ∃ creds, info.wifiDirectCredentials = some creds ∧ WifiDirectWellFormed creds) ∧
        (m = .bluetooth →
          ∃ creds, info.bluetoothCredentials = some creds ∧ BluetoothWellFormed creds) ∧
        (m = .webRtc → ∃ creds, info.webRtcCredentials = some creds ∧ creds.peerId ≠ none) := by
      have hnumber : ∀ m', info.medium = some (UpgradePath.Medium.number m') ↔ m = m' := by
        intro m'
        rw [← UpgradePath.Medium.bind_tryFrom_iff, hmedium, Option.some_inj]
      constructor
      · rintro ⟨-, h₁, h₂, h₃, h₄, h₅, h₆⟩
        simp only [hnumber] at h₁ h₂ h₃ h₄ h₅ h₆
        exact ⟨h₁, h₂, h₃, h₄, h₅, h₆⟩
      · rintro ⟨h₁, h₂, h₃, h₄, h₅, h₆⟩
        refine ⟨⟨m, hm⟩, ?_, ?_, ?_, ?_, ?_, ?_⟩ <;> rwa [hnumber]
    rw [ensureValidBwuPathAvailableFrame, hmedium, hwf]
    cases m with
    | wifiHotspot => simp [required_iff, ensureValidBwuWifiHotspotPathAvailable_iff]
    | wifiLan => simp [required_iff, lan_iff]
    | wifiAware => simp [required_iff, aware_iff]
    | wifiDirect => simp [required_iff, wifiDirect_iff]
    | bluetooth => simp [required_iff, bluetooth_iff]
    | webRtc => simp [required_iff, webRtc_iff]
    | _ => simp

theorem negotiation_iff (sub : BandwidthUpgradeNegotiationFrame) :
    ensureValidBwuNegotiationFrame sub = .success ↔ NegotiationWellFormed sub := by
  cases hevent : sub.eventType.bind EventType.tryFrom with
  | none =>
    rw [ensureValidBwuNegotiationFrame, hevent]
    refine iff_of_false (by simp) fun h => ?_
    obtain ⟨e, he⟩ := h.known
    cases hevent.symm.trans (EventType.bind_tryFrom_iff.mpr he)
  | some e =>
    have hnumber : ∀ e', sub.eventType = some (EventType.number e') ↔ e = e' := by
      intro e'
      rw [← EventType.bind_tryFrom_iff, hevent, Option.some_inj]
    have hwf : NegotiationWellFormed sub ↔
        (e = .upgradePathAvailable →
          ∃ info, sub.upgradePathInfo = some info ∧ PathWellFormed info) ∧
        (e = .clientIntroduction →
          ∃ intro, sub.clientIntroduction = some intro ∧ intro.endpointId ≠ none) := by
      constructor
      · rintro ⟨-, hoffer, hintro⟩
        rw [hnumber] at hoffer hintro
        exact ⟨hoffer, hintro⟩
      · rintro ⟨hoffer, hintro⟩
        refine ⟨⟨e, (hnumber e).mpr rfl⟩, ?_, ?_⟩ <;> rwa [hnumber]
    rw [ensureValidBwuNegotiationFrame, hevent, hwf]
    cases e with
    | upgradePathAvailable => simp [required_iff, path_iff]
    | clientIntroduction => simp [required_iff, introduction_iff]
    | _ => simp

theorem transfer_iff (transfer : PayloadTransferFrame) :
    ensureValidPayloadTransferFrame transfer = .success ↔
      Acknowledges transfer ∨ ¬ NamesEscape transfer ∧ TransferWellFormed transfer := by
  by_cases hack : Acknowledges transfer
  · exact iff_of_true (ensureValidPayloadTransferFrame_ack hack) (.inl hack)
  rw [or_iff_right hack]
  constructor
  · intro h
    have hescape : ¬ NamesEscape transfer := by
      intro hescape
      cases h.symm.trans (ensureValidPayloadTransferFrame_escaping hescape)
    refine ⟨hescape, ?_⟩
    by_contra hwf
    cases h.symm.trans ((ensureValidPayloadTransferFrame_iff hack hescape).2 hwf)
  · rintro ⟨hescape, hwf⟩
    exact (ensureValidPayloadTransferFrame_iff hack hescape).1 hwf

/-! ### The frame -/

section Frame

variable {frame : OfflineFrame} {t : V1.FrameType} {v1 : V1Frame}

theorem IsFrame.getFrameType_eq (h : IsFrame frame t v1) : getFrameType frame = t := by
  rw [getFrameType, if_pos h.version, h.holds]
  dsimp only
  rw [h.type, Option.getD_some, V1.FrameType.tryFrom_iff.mpr rfl, Option.getD_some]

theorem exists_isFrame (ht : t ≠ .unknownFrameType) (h : getFrameType frame = t) :
    ∃ v1, IsFrame frame t v1 := by
  rw [getFrameType] at h
  split at h
  case isFalse => exact absurd h.symm ht
  case isTrue hversion =>
    split at h
    case h_2 => exact absurd h.symm ht
    case h_1 v1 hv1 =>
      refine ⟨v1, hversion, hv1, ?_⟩
      cases htype : V1.FrameType.tryFrom (v1.type.getD 0) with
      | none =>
        rw [htype] at h
        exact absurd h.symm ht
      | some t' =>
        rw [htype, Option.getD_some] at h
        subst h
        -- A missing type reads as `0`, the unknown one.
        cases hsome : v1.type with
        | none =>
          rw [hsome, Option.getD_none] at htype
          have hzero : V1.FrameType.tryFrom 0 = some .unknownFrameType := rfl
          exact absurd (Option.some.inj (htype.symm.trans hzero)) ht
        | some n =>
          rw [hsome, Option.getD_some, V1.FrameType.tryFrom_iff] at htype
          rw [htype]

theorem IsFrame.unique {t' : V1.FrameType} {v1' : V1Frame} (h : IsFrame frame t v1)
    (h' : IsFrame frame t' v1') : t = t' ∧ v1 = v1' :=
  ⟨h.getFrameType_eq.symm.trans h'.getFrameType_eq, Option.some.inj (h.holds.symm.trans h'.holds)⟩

theorem IsFrame.acceptable_iff (h : IsFrame frame t v1) :
    Acceptable frame ↔
      (t = .connectionRequest →
        ∃ req, v1.connectionRequest = some req ∧ RequestWellFormed req) ∧
      (t = .connectionResponse → v1.connectionResponse ≠ none) ∧
      (t = .payloadTransfer → ∃ transfer, v1.payloadTransfer = some transfer ∧
        (Acknowledges transfer ∨ ¬ NamesEscape transfer ∧ TransferWellFormed transfer)) ∧
      (t = .bandwidthUpgradeNegotiation →
        ∃ sub, v1.bandwidthUpgradeNegotiation = some sub ∧ NegotiationWellFormed sub) := by
  constructor
  · rintro ⟨hrequest, hresponse, htransfer, hnegotiation⟩
    refine ⟨?_, ?_, ?_, ?_⟩ <;> rintro rfl
    · exact hrequest v1 h
    · exact hresponse v1 h
    · exact htransfer v1 h
    · exact hnegotiation v1 h
  · rintro ⟨hrequest, hresponse, htransfer, hnegotiation⟩
    refine ⟨?_, ?_, ?_, ?_⟩ <;> intro v1' h' <;> obtain ⟨ht, rfl⟩ := h.unique h'
    · exact hrequest ht
    · exact hresponse ht
    · exact htransfer ht
    · exact hnegotiation ht

theorem acceptable_of_unknown (h : getFrameType frame = .unknownFrameType) : Acceptable frame := by
  refine ⟨?_, ?_, ?_, ?_⟩ <;> intro v1 h' <;> cases h.symm.trans h'.getFrameType_eq

theorem acceptable_iff (frame : OfflineFrame) :
    ensureValidOfflineFrame frame = .success ↔ Acceptable frame := by
  by_cases hunknown : getFrameType frame = .unknownFrameType
  · rw [ensureValidOfflineFrame, hunknown]
    exact iff_of_true rfl (acceptable_of_unknown hunknown)
  obtain ⟨v1, h⟩ := exists_isFrame hunknown rfl
  rw [ensureValidOfflineFrame, h.acceptable_iff, h.holds]
  cases getFrameType frame with
  | connectionRequest => simp [required_iff, request_iff]
  | connectionResponse =>
    simp [required_iff, ensureValidConnectionResponseFrame, Option.ne_none_iff_exists']
  | payloadTransfer => simp [required_iff, transfer_iff]
  | bandwidthUpgradeNegotiation => simp [required_iff, negotiation_iff]
  | _ => simp

end Frame

/-! ### The error -/

theorem request_or (req : ConnectionRequestFrame) :
    ensureValidConnectionRequestFrame req = .success ∨
      ensureValidConnectionRequestFrame req = .invalidProtocolBuffer := by
  rw [ensureValidConnectionRequestFrame]
  split_ifs <;> simp

theorem hotspot_or (creds : UpgradePath.WifiHotspotCredentials) :
    ensureValidBwuWifiHotspotPathAvailable creds = .success ∨
      ensureValidBwuWifiHotspotPathAvailable creds = .invalidProtocolBuffer := by
  rw [ensureValidBwuWifiHotspotPathAvailable]
  cases creds.password with
  | none => split_ifs <;> simp
  | some p =>
    dsimp only
    split_ifs <;> simp

theorem path_or (info : UpgradePathInfo) :
    ensureValidBwuPathAvailableFrame info = .success ∨
      ensureValidBwuPathAvailableFrame info = .invalidProtocolBuffer := by
  rw [ensureValidBwuPathAvailableFrame]
  split
  case h_1 => exact .inr rfl
  case h_2 => exact required_or hotspot_or
  case h_8 => exact .inl rfl
  all_goals
    refine required_or fun m => ?_
    simp only [ensureValidBwuWifiLanPathAvailable, ensureValidBwuWifiAwarePathAvailable,
      ensureValidBwuWifiDirectPathAvailable, ensureValidBwuBluetoothPathAvailable,
      ensureValidBwuWebRtcPathAvailable]
    split_ifs <;> simp

theorem negotiation_or (sub : BandwidthUpgradeNegotiationFrame) :
    ensureValidBwuNegotiationFrame sub = .success ∨
      ensureValidBwuNegotiationFrame sub = .invalidProtocolBuffer := by
  rw [ensureValidBwuNegotiationFrame]
  split
  case h_1 => exact .inr rfl
  case h_2 => exact required_or path_or
  case h_3 =>
    refine required_or fun intro => ?_
    rw [ensureValidBwuClientIntroductionFrame]
    split_ifs <;> simp
  case h_4 => exact .inl rfl

theorem transfer_or {transfer : PayloadTransferFrame} (h : ¬ NamesEscape transfer) :
    ensureValidPayloadTransferFrame transfer = .success ∨
      ensureValidPayloadTransferFrame transfer = .invalidProtocolBuffer := by
  by_cases hack : Acknowledges transfer
  · exact .inl (ensureValidPayloadTransferFrame_ack hack)
  obtain ⟨hgood, hbad⟩ := ensureValidPayloadTransferFrame_iff hack h
  by_cases hwf : TransferWellFormed transfer
  · exact .inl (hgood hwf)
  · exact .inr (hbad hwf)

/-- Some file it names may lead out of the folder it is saved in. -/
def Escapes (frame : OfflineFrame) : Prop :=
  ∃ transfer, Carries frame transfer ∧ NamesEscape transfer

theorem illegalCharacters_of_escapes {frame : OfflineFrame} (h : Escapes frame) :
    ensureValidOfflineFrame frame = .illegalCharacters := by
  obtain ⟨transfer, hcarries, hescape⟩ := h
  rw [ensureValidOfflineFrame_carries hcarries]
  exact ensureValidPayloadTransferFrame_escaping hescape

theorem verdict_or {frame : OfflineFrame} (h : ¬ Escapes frame) :
    ensureValidOfflineFrame frame = .success ∨
      ensureValidOfflineFrame frame = .invalidProtocolBuffer := by
  rw [ensureValidOfflineFrame]
  split
  case h_1 => exact required_or request_or
  case h_2 => exact required_or fun _ => .inl rfl
  case h_3 ht =>
    obtain ⟨v1, hv1⟩ := exists_isFrame (by simp) ht
    rw [hv1.holds, Option.bind_some]
    cases hsub : v1.payloadTransfer with
    | none => exact .inr rfl
    | some transfer =>
      exact transfer_or fun hescape =>
        h ⟨transfer, ⟨v1, hv1.version, hv1.holds, hv1.type, hsub⟩, hescape⟩
  case h_4 => exact required_or negotiation_or
  case h_5 => exact .inl rfl

theorem not_acceptable_of_escapes {frame : OfflineFrame} (h : Escapes frame) :
    ¬ Acceptable frame := by
  rw [← acceptable_iff, illegalCharacters_of_escapes h]
  simp

end Validator

/-! ### `from_bytes` -/

namespace Prost

open Validator

variable {P : Prost} {bytes : Bytes} {frame : OfflineFrame}

theorem fromBytes_accepts (hd : P.decode bytes = some frame) (h : Acceptable frame) :
    P.fromBytes bytes = .ok frame :=
  fromBytes_of_decode hd ((acceptable_iff frame).mpr h)

theorem fromBytes_escapes (hd : P.decode bytes = some frame) (h : Escapes frame) :
    P.fromBytes bytes = .error .illegalCharacters := by
  rw [fromBytes, hd]
  dsimp only
  rw [illegalCharacters_of_escapes h]
  rfl

theorem fromBytes_malformed (hd : P.decode bytes = some frame) (hbad : ¬ Acceptable frame)
    (h : ¬ Escapes frame) : P.fromBytes bytes = .error .invalidProtocolBuffer := by
  rw [← acceptable_iff] at hbad
  rw [fromBytes, hd]
  dsimp only
  rw [(verdict_or h).resolve_left hbad]
  rfl

theorem fromBytes_undecodable (hd : P.decode bytes = none) :
    P.fromBytes bytes = .error .invalidProtocolBuffer := by
  rw [fromBytes, hd]

/-- What comes out of any bytes at all: the frame they decode to when it is acceptable, the one
error for a file that may escape its folder, and the other for all the rest. -/
theorem fromBytes_exact (P : Prost) (bytes : Bytes) :
    (∀ frame, P.fromBytes bytes = .ok frame ↔ P.decode bytes = some frame ∧ Acceptable frame) ∧
    (P.fromBytes bytes = .error .illegalCharacters ↔
      ∃ frame, P.decode bytes = some frame ∧ Escapes frame) ∧
    (P.fromBytes bytes = .error .invalidProtocolBuffer ↔
      ∀ frame, P.decode bytes = some frame → ¬ Acceptable frame ∧ ¬ Escapes frame) ∧
    ∀ e, P.fromBytes bytes = .error e → e = .illegalCharacters ∨ e = .invalidProtocolBuffer := by
  cases hd : P.decode bytes with
  | none => simp [fromBytes_undecodable hd]
  | some frame =>
    by_cases hescapes : Escapes frame
    · simp [fromBytes_escapes hd hescapes, hescapes, not_acceptable_of_escapes hescapes]
    · by_cases hgood : Acceptable frame
      · simp [fromBytes_accepts hd hgood, hescapes, hgood]
      · simp [fromBytes_malformed hd hgood hescapes, hescapes, hgood]

end Prost

end Nearby
