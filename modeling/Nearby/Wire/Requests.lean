import Nearby.Wire.Offers

/-! The two connection requests of `frames.rs`: which of them pass, what the peer reads back from
them and what they have in common. -/

namespace Nearby

open Proto Validator

/-! ### Enums on the wire -/

theorem ConnectionRequest.Medium.tryFrom_number (m : ConnectionRequest.Medium) :
    ConnectionRequest.Medium.tryFrom m.number = some m := by
  cases m <;> decide

theorem Metadata.WifiDirectAuthType.tryFrom_number (t : Metadata.WifiDirectAuthType) :
    Metadata.WifiDirectAuthType.tryFrom t.number = some t := by
  cases t <;> decide

theorem connectionRequestMediumToMedium_medium (m : Medium) :
    connectionRequestMediumToMedium (mediumToConnectionRequestMedium m) = m := by
  cases m <;> rfl

/-- The wire has no use for the deprecated pin. -/
def WifiDirectAuthType.withoutPin : WifiDirectAuthType → WifiDirectAuthType
  | .wifiDirectWithPin => .wifiDirectTypeUnknown
  | t => t

theorem mediumMetadataWfdAuthTypeToWfdAuthType_authType (t : WifiDirectAuthType) :
    mediumMetadataWfdAuthTypeToWfdAuthType (wfdAuthTypeToMediumMetadataWfdAuthType t) =
      t.withoutPin := by
  cases t <;> rfl

theorem connectionRequestMediumsToMediums_map {req : ConnectionRequestFrame}
    {mediums : List Medium}
    (h : req.mediums = mediums.map fun m => (mediumToConnectionRequestMedium m).number) :
    connectionRequestMediumsToMediums req = mediums := by
  rw [connectionRequestMediumsToMediums, h, List.map_map]
  refine List.map_id'' (fun m => ?_) mediums
  rw [Function.comp_apply, ConnectionRequest.Medium.tryFrom_number, Option.getD_some,
    connectionRequestMediumToMedium_medium]

theorem mediumMetadataWfdAuthTypesToWfdAuthTypes_map {mm : MediumMetadata}
    {types : List WifiDirectAuthType}
    (h : mm.supportedWifiDirectAuthTypes =
      types.map fun t => (wfdAuthTypeToMediumMetadataWfdAuthType t).number) :
    mediumMetadataWfdAuthTypesToWfdAuthTypes mm = types.map (·.withoutPin) := by
  rw [mediumMetadataWfdAuthTypesToWfdAuthTypes, h, List.map_map]
  refine List.map_congr_left fun t _ => ?_
  rw [Function.comp_apply, Metadata.WifiDirectAuthType.tryFrom_number, Option.getD_some,
    mediumMetadataWfdAuthTypeToWfdAuthType_authType]

/-! ### Acceptance -/

def connectionRequest (frame : OfflineFrame) : Option ConnectionRequestFrame :=
  frame.v1.bind (·.connectionRequest)

theorem ensureValidConnectionRequestFrame_iff (req : ConnectionRequestFrame) :
    ensureValidConnectionRequestFrame req = .success ↔
      req.endpointId.getD "" ≠ "" ∧ req.endpointName.getD "" ≠ "" := by
  rw [ensureValidConnectionRequestFrame, check_iff, check_iff]
  simp

theorem endpointName_getD (info : ConnectionInfo) :
    (buildConnectionRequestCommon info).endpointName.getD "" ≠ "" ↔
      info.localEndpointInfo ≠ [] := by
  simp only [buildConnectionRequestCommon]
  split
  case isTrue h => simp [h]
  case isFalse h =>
    rw [Option.getD_some, ne_eq, Lib.Utf8.fromUtf8Lossy_eq_empty_iff]

theorem forConnectionRequestConnections_valid_iff (dev : Option ConnectionsDevice)
    (info : ConnectionInfo) (roleSwitch : Bool) :
    ensureValidOfflineFrame (forConnectionRequestConnections dev info roleSwitch) = .success ↔
      info.localEndpointId ≠ "" ∧ info.localEndpointInfo ≠ [] := by
  refine (ensureValidConnectionRequestFrame_iff _).trans (and_congr ?_ (endpointName_getD info))
  dsimp only
  split
  case isTrue h => simp [h]
  case isFalse h => simp

theorem forConnectionRequestPresence_valid_iff (dev : PresenceDevice) (info : ConnectionInfo) :
    ensureValidOfflineFrame (forConnectionRequestPresence dev info) = .success ↔
      (info.localEndpointId ≠ "" ∧ info.localEndpointInfo ≠ []) ∧ dev.endpointId.getD "" ≠ "" := by
  refine (ensureValidConnectionRequestFrame_iff _).trans ?_
  rw [and_right_comm]
  refine and_congr ?_ (endpointName_getD info)
  dsimp only
  split
  case isTrue h => simp [h]
  case isFalse h => simp [h]

/-! ### Contents -/

def SentIf (field : Option α) (worth : Prop) (value : α) : Prop :=
  ∀ x, field = some x ↔ worth ∧ x = value

theorem sentIf_ite {worth : Prop} [Decidable worth] (value : α) :
    SentIf (if worth then some value else none) worth value := by
  intro x
  split
  case isTrue h => simp [h, eq_comm]
  case isFalse h => simp [h]

theorem sentIf_bssid (info : ConnectionInfo) :
    SentIf (if info.bssid = "" then none else some info.bssid) (info.bssid ≠ "") info.bssid := by
  rw [← ite_not]
  exact sentIf_ite info.bssid

structure Conveys (req : ConnectionRequestFrame) (info : ConnectionInfo) : Prop where
  endpointId : req.endpointId = some info.localEndpointId
  endpointInfo : req.endpointInfo = some info.localEndpointInfo
  nonce : req.nonce = some info.nonce
  mediums : connectionRequestMediumsToMediums req = info.supportedMediums
  metadata : ∃ mm, req.mediumMetadata = some mm ∧
    mediumMetadataWfdAuthTypesToWfdAuthTypes mm =
      info.supportedWifiDirectAuthTypes.map (·.withoutPin) ∧
    SentIf mm.bssid (info.bssid ≠ "") info.bssid
  keepAliveInterval :
    SentIf req.keepAliveIntervalMillis (0 < info.keepAliveIntervalMillis)
      info.keepAliveIntervalMillis
  keepAliveTimeout :
    SentIf req.keepAliveTimeoutMillis (0 < info.keepAliveTimeoutMillis) info.keepAliveTimeoutMillis

/-- Two requests with the same common part: the endpoint id, the device, the medium role and the
auth types are each builder's own. -/
structure SameCommon (a b : ConnectionRequestFrame) : Prop where
  endpointName : a.endpointName = b.endpointName
  endpointInfo : a.endpointInfo = b.endpointInfo
  nonce : a.nonce = b.nonce
  mediums : a.mediums = b.mediums
  keepAliveInterval : a.keepAliveIntervalMillis = b.keepAliveIntervalMillis
  keepAliveTimeout : a.keepAliveTimeoutMillis = b.keepAliveTimeoutMillis
  metadata : ∃ ma mb, a.mediumMetadata = some ma ∧ b.mediumMetadata = some mb ∧
    ma = { mb with
      mediumRole := ma.mediumRole
      supportedWifiDirectAuthTypes := ma.supportedWifiDirectAuthTypes }

theorem forConnectionRequestConnections_conveys (dev : Option ConnectionsDevice)
    {info : ConnectionInfo} (roleSwitch : Bool) (hid : info.localEndpointId ≠ "")
    (hinfo : info.localEndpointInfo ≠ []) :
    ∃ req, connectionRequest (forConnectionRequestConnections dev info roleSwitch) = some req ∧
      Conveys req info := by
  refine ⟨_, rfl, ?_, ?_, rfl, ?_, ⟨_, rfl, ?_, ?_⟩, ?_, ?_⟩
  · exact if_neg hid
  · exact if_neg hinfo
  · exact connectionRequestMediumsToMediums_map rfl
  · exact mediumMetadataWfdAuthTypesToWfdAuthTypes_map rfl
  · cases roleSwitch <;> exact sentIf_bssid info
  · exact sentIf_ite _
  · exact sentIf_ite _

theorem forConnectionRequest_sameCommon (dev : Option ConnectionsDevice) (presence : PresenceDevice)
    (info : ConnectionInfo) (roleSwitch : Bool) :
    ∃ a b, connectionRequest (forConnectionRequestConnections dev info roleSwitch) = some a ∧
      connectionRequest (forConnectionRequestPresence presence info) = some b ∧
      SameCommon a b := by
  refine ⟨_, _, rfl, rfl, rfl, rfl, rfl, rfl, rfl, rfl, _, _, rfl, rfl, ?_⟩
  cases roleSwitch <;> rfl

theorem connectionRequest_roundTrip {P : Prost} (dev : Option ConnectionsDevice)
    (presence : PresenceDevice) (info : ConnectionInfo) (roleSwitch : Bool)
    (hP : ∀ frame ∈ [forConnectionRequestConnections dev info roleSwitch,
      forConnectionRequestPresence presence info], P.decode (P.encode frame) = some frame) :
    ((∃ f, P.fromBytes (P.encode (forConnectionRequestConnections dev info roleSwitch)) = .ok f) ↔
      info.localEndpointId ≠ "" ∧ info.localEndpointInfo ≠ []) ∧
    ((∃ f, P.fromBytes (P.encode (forConnectionRequestPresence presence info)) = .ok f) ↔
      (info.localEndpointId ≠ "" ∧ info.localEndpointInfo ≠ []) ∧
        presence.endpointId.getD "" ≠ "") ∧
    (∀ f, P.fromBytes (P.encode (forConnectionRequestConnections dev info roleSwitch)) = .ok f →
      ∃ req, connectionRequest f = some req ∧ Conveys req info) ∧
    ∃ a b, connectionRequest (forConnectionRequestConnections dev info roleSwitch) = some a ∧
      connectionRequest (forConnectionRequestPresence presence info) = some b ∧
      SameCommon a b := by
  have hconnections := hP _ (.head _)
  have hpresence := hP _ (.tail _ (.head _))
  simp only [Prost.fromBytes_encode_iff hconnections, Prost.fromBytes_encode_iff hpresence]
  refine ⟨?_, ?_, ?_, forConnectionRequest_sameCommon dev presence info roleSwitch⟩
  · rw [← forConnectionRequestConnections_valid_iff dev info roleSwitch]
    exact ⟨fun ⟨_, hv, _⟩ => hv, fun hv => ⟨_, hv, rfl⟩⟩
  · rw [← forConnectionRequestPresence_valid_iff presence info]
    exact ⟨fun ⟨_, hv, _⟩ => hv, fun hv => ⟨_, hv, rfl⟩⟩
  · rintro f ⟨hv, rfl⟩
    obtain ⟨hid, hinfo⟩ := (forConnectionRequestConnections_valid_iff dev info roleSwitch).mp hv
    exact forConnectionRequestConnections_conveys dev roleSwitch hid hinfo

def Prost.listing (entries : List (OfflineFrame × Bytes)) : Prost where
  encode frame := ((entries.find? (·.1 = frame)).map (·.2)).getD []
  decode bytes := (entries.find? (·.2 = bytes)).map (·.1)

def laptop : ConnectionInfo where
  localEndpointId := "ABC"
  localEndpointInfo := [88, 89, 90]
  nonce := 1234
  supports5Ghz := true
  bssid := "0A:0B"
  apFrequency := 2412
  supportedMediums := [.wifiLan, .bleL2cap, .wifiLan]
  keepAliveIntervalMillis := 1000
  supportedWifiDirectAuthTypes := [.wifiDirectWithPin, .wifiDirectWithDeviceName]

def laptopPresence : PresenceDevice where
  endpointId := some "DEF"

def laptopProst : Prost :=
  .listing [
    (forConnectionRequestConnections none laptop false,
      [8, 1, 18, 49, 8, 1, 18, 45, 10, 3, 65, 66, 67, 18, 3, 88, 89, 90, 32, 210, 9, 40, 5, 40, 10,
        40, 5, 50, 3, 88, 89, 90, 58, 16, 8, 1, 18, 5, 48, 65, 58, 48, 66, 48, 236, 18, 106, 2, 0,
        3, 64, 232, 7]),
    (forConnectionRequestPresence laptopPresence laptop,
      [8, 1, 18, 52, 8, 1, 18, 48, 10, 3, 68, 69, 70, 18, 3, 88, 89, 90, 32, 210, 9, 40, 5, 40, 10,
        40, 5, 50, 3, 88, 89, 90, 58, 12, 8, 1, 18, 5, 48, 65, 58, 48, 66, 48, 236, 18, 64, 232, 7,
        106, 5, 10, 3, 68, 69, 70])]

theorem connectionRequest_roundTrip_laptop :
    ∃ f req, laptopProst.fromBytes
        (laptopProst.encode (forConnectionRequestConnections none laptop false)) = .ok f ∧
      connectionRequest f = some req ∧ Conveys req laptop := by
  have hP : ∀ frame ∈ [forConnectionRequestConnections none laptop false,
      forConnectionRequestPresence laptopPresence laptop],
      laptopProst.decode (laptopProst.encode frame) = some frame := by decide +kernel
  obtain ⟨haccepted, -, hconveys, -⟩ :=
    connectionRequest_roundTrip none laptopPresence laptop false hP
  obtain ⟨f, hf⟩ := haccepted.mpr (by decide)
  obtain ⟨req, hreq⟩ := hconveys f hf
  exact ⟨f, req, hf, hreq⟩

end Nearby
