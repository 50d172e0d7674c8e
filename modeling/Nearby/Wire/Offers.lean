import Nearby.Wire.Validator
import Mathlib.Data.List.Forall2

/-! The offers of `frames.rs` against the checks of `validator.rs`: what a well-formed offer
is, and that `from_bytes` accepts no other. -/

namespace Nearby

open Proto

namespace Validator

/-! ### Dotted quads -/

def decimal (digits : List Char) : Nat :=
  digits.foldl (fun n c => 10 * n + (c.toNat - '0'.toNat)) 0

/-- `text` writes `n` with one to three digits, leading zeros included. -/
structure Octet (text : List Char) (n : Nat) : Prop where
  ne_nil : text ≠ []
  length_le : text.length ≤ 3
  digits : text.all isAsciiDigit = true
  value : decimal text = n
  le : n ≤ 255

def DottedQuad (s : String) (octets : List Nat) : Prop :=
  octets.length = 4 ∧ List.Forall₂ Octet (s.toList.splitOn '.') octets

theorem utf8Size_of_isAsciiDigit {c : Char} (h : isAsciiDigit c = true) : c.utf8Size = 1 := by
  simp only [isAsciiDigit, Bool.and_eq_true, decide_eq_true_eq] at h
  have hle : c.val ≤ 57 := h.2
  exact Char.utf8Size_eq_one_iff.mpr (UInt32.le_trans hle (by decide))

theorem utf8Len_of_digits {text : List Char} (h : text.all isAsciiDigit = true) :
    utf8Len text = text.length := by
  induction text with
  | nil => rfl
  | cons c text ih =>
    rw [List.all_cons, Bool.and_eq_true] at h
    have htext := ih h.2
    simp only [utf8Len, List.map_cons, List.sum_cons, List.length_cons] at htext ⊢
    rw [utf8Size_of_isAsciiDigit h.1, htext, Nat.add_comm]

theorem octet_iff (text : List Char) :
    (text = [] || utf8Len text > 3 || !text.all isAsciiDigit || (parseU16 text).all (· > 255))
      = false ↔ ∃ n, Octet text n := by
  have hparse : parseU16 text =
      if text ≠ [] ∧ text.all isAsciiDigit ∧ decimal text < 2 ^ 16 then some (decimal text)
      else none := rfl
  simp only [Bool.or_eq_false_iff, decide_eq_false_iff_not, Bool.not_eq_false']
  constructor
  · rintro ⟨⟨⟨hne, hlen⟩, hdigits⟩, hvalue⟩
    rw [hparse] at hvalue
    split at hvalue
    case isTrue =>
      have hle : decimal text ≤ 255 := by simpa using hvalue
      exact ⟨_, hne, by rw [utf8Len_of_digits hdigits] at hlen; omega, hdigits, rfl, hle⟩
    case isFalse => simp at hvalue
  · rintro ⟨n, hne, hlen, hdigits, rfl, hle⟩
    refine ⟨⟨⟨hne, by rw [utf8Len_of_digits hdigits]; omega⟩, hdigits⟩, ?_⟩
    rw [hparse, if_pos ⟨hne, hdigits, by omega⟩]
    simpa using hle

theorem isValidIpv4Loop_iff (parts : Nat) (texts : List (List Char)) :
    isValidIpv4Loop parts texts = true ↔
      ∃ octets, parts + octets.length = 4 ∧ List.Forall₂ Octet texts octets := by
  induction texts generalizing parts with
  | nil => simp [isValidIpv4Loop]
  | cons text texts ih =>
    rw [isValidIpv4Loop]
    split
    case isTrue hparts =>
      refine iff_of_false (by simp) ?_
      rintro ⟨octets, hlen, hall⟩
      cases hall with
      | cons => simp at hlen; omega
    case isFalse =>
      split
      case isTrue hbad =>
        refine iff_of_false (by simp) ?_
        rintro ⟨octets, -, hall⟩
        cases hall with
        | cons hoctet =>
          rw [(octet_iff text).mpr ⟨_, hoctet⟩] at hbad
          cases hbad
      case isFalse hgood =>
        obtain ⟨n, hoctet⟩ := (octet_iff text).mp (Bool.eq_false_iff.mpr hgood)
        rw [ih]
        constructor
        · rintro ⟨octets, hlen, hall⟩
          exact ⟨n :: octets, by simp; omega, .cons hoctet hall⟩
        · rintro ⟨octets, hlen, hall⟩
          cases hall with
          | cons _ hall => exact ⟨_, by simp at hlen; omega, hall⟩

theorem isValidIpv4_iff (s : String) : isValidIpv4 s = true ↔ ∃ octets, DottedQuad s octets := by
  rw [isValidIpv4, isValidIpv4Loop_iff]
  simp only [Nat.zero_add, DottedQuad]

/-! ### The checks -/

theorem check_iff {p : Prop} [Decidable p] {x : Exception} :
    (if p then .invalidProtocolBuffer else x) = .success ↔ ¬ p ∧ x = .success := by
  split
  case isTrue h => exact iff_of_false nofun fun hp => hp.1 h
  case isFalse h => exact (and_iff_right h).symm

theorem required_iff {sub : Option M} {check : M → Exception} :
    required sub check = .success ↔ ∃ m, sub = some m ∧ check m = .success := by
  cases sub with
  | none => simp [required]
  | some m => simp [required]

/-- `^DIRECT-[a-zA-Z0-9]{2}.*$`, where `.` is no line terminator. -/
def DirectSsid (s : String) : Prop :=
  ∃ a b rest, s.toList = "DIRECT-".toList ++ a :: b :: rest ∧
    a.isAlphanum = true ∧ b.isAlphanum = true ∧ '\n' ∉ rest ∧ '\r' ∉ rest

theorem isAsciiAlphanumeric_eq (c : Char) : isAsciiAlphanumeric c = c.isAlphanum := by
  have hdigit : isAsciiDigit c = c.isDigit := rfl
  have hlower : (decide ('a' ≤ c) && decide (c ≤ 'z')) = c.isLower := rfl
  have hupper : (decide ('A' ≤ c) && decide (c ≤ 'Z')) = c.isUpper :=
    (Bool.decide_and ('A' ≤ c) (c ≤ 'Z')).symm
  have halphanum : c.isAlphanum = (c.isUpper || c.isLower || c.isDigit) := rfl
  rw [isAsciiAlphanumeric, hdigit, hlower, hupper, halphanum]
  cases c.isDigit <;> cases c.isLower <;> cases c.isUpper <;> rfl

theorem matchesWifiDirectSsid_iff (s : String) : matchesWifiDirectSsid s = true ↔ DirectSsid s := by
  rw [matchesWifiDirectSsid]
  split
  case h_1 a b rest hdrop =>
    obtain ⟨pre, hs, hpre⟩ := List.dropPrefix?_eq_some_iff.mp hdrop
    rw [eq_of_beq hpre] at hs
    simp only [Bool.and_eq_true, isAsciiAlphanumeric_eq, Bool.not_eq_true', List.any_eq_false,
      Bool.or_eq_true, decide_eq_true_eq]
    constructor
    · rintro ⟨⟨ha, hb⟩, hrest⟩
      exact ⟨a, b, rest, hs, ha, hb, fun h => hrest _ h (.inl rfl), fun h => hrest _ h (.inr rfl)⟩
    · rintro ⟨a', b', rest', hs', ha, hb, hn, hr⟩
      cases List.append_cancel_left (hs.symm.trans hs')
      refine ⟨⟨ha, hb⟩, ?_⟩
      rintro c hc (rfl | rfl)
      · exact hn hc
      · exact hr hc
  case h_2 hdrop =>
    refine iff_of_false (by simp) ?_
    rintro ⟨a, b, rest, hs, -⟩
    exact hdrop a b rest (List.dropPrefix?_eq_some_iff.mpr ⟨_, hs, by simp⟩)

theorem withinRange_iff (value min max : Nat) :
    withinRange value min max = true ↔ min ≤ value ∧ value < max := by
  simp [withinRange]

theorem isValidCandidate_iff (candidate : ServiceAddress) :
    isValidCandidate candidate = true ↔ ∃ ip, candidate.ipAddress = some ip ∧
      candidate.port ≠ none ∧ (ip.length = 4 ∨ ip.length = 16) := by
  obtain ⟨ip, port⟩ := candidate
  cases ip <;> cases port <;> simp [isValidCandidate]

structure HotspotWellFormed (creds : UpgradePath.WifiHotspotCredentials) : Prop where
  ssid : creds.ssid ≠ none
  password : ∃ p, creds.password = some p ∧ 8 ≤ p.utf8ByteSize ∧ p.utf8ByteSize ≤ 63
  reachable : creds.gateway ≠ none ∨ creds.addressCandidates ≠ []
  gateway : ∀ g, creds.gateway = some g → g ≠ "" → ∃ octets, DottedQuad g octets
  candidates : ∀ x ∈ creds.addressCandidates, ∃ ip, x.ipAddress = some ip ∧ x.port ≠ none ∧
    (ip.length = 4 ∨ ip.length = 16)

theorem ensureValidBwuWifiHotspotPathAvailable_iff (creds : UpgradePath.WifiHotspotCredentials) :
    ensureValidBwuWifiHotspotPathAvailable creds = .success ↔ HotspotWellFormed creds := by
  have hgateway : (∀ g, creds.gateway = some g → g ≠ "" → ∃ octets, DottedQuad g octets) ↔
      ¬ (creds.gateway.getD "0.0.0.0" ≠ "" && !isValidIpv4 (creds.gateway.getD "0.0.0.0")) := by
    cases creds.gateway with
    | none => simp; decide
    | some g =>
      simp only [← isValidIpv4_iff]
      simp
  have hcandidates : (∀ x ∈ creds.addressCandidates, ∃ ip, x.ipAddress = some ip ∧ x.port ≠ none ∧
      (ip.length = 4 ∨ ip.length = 16)) ↔ creds.addressCandidates.all isValidCandidate := by
    simp only [List.all_eq_true, isValidCandidate_iff]
  rw [ensureValidBwuWifiHotspotPathAvailable, check_iff]
  cases hpassword : creds.password with
  | none =>
    refine iff_of_false (by simp) fun h => ?_
    obtain ⟨p, hp, -⟩ := h.password
    cases hpassword.symm.trans hp
  | some p =>
    have hlength : (!withinRange p.utf8ByteSize wifiPasswordSsidMinLength wifiPasswordSsidMaxLength)
        = true ↔ ¬ (8 ≤ p.utf8ByteSize ∧ p.utf8ByteSize < 64) := by
      rw [Bool.not_eq_true', Bool.eq_false_iff, ne_eq, withinRange_iff]
      rfl
    dsimp only
    rw [check_iff, check_iff, check_iff, ← hgateway, hlength, not_not]
    constructor
    · rintro ⟨hssid, hlen, hreach, hg, hall⟩
      refine ⟨by simpa using hssid, ⟨p, hpassword, hlen.1, by omega⟩, ?_, hg, hcandidates.mpr ?_⟩
      · simpa [imp_iff_not_or] using hreach
      · by_contra hnot
        rw [if_neg hnot] at hall
        cases hall
    · rintro ⟨hssid, ⟨p', hp, hmin, hmax⟩, hreach, hg, hall⟩
      cases hpassword.symm.trans hp
      refine ⟨by simpa using hssid, ⟨hmin, by omega⟩, ?_, hg, if_pos (hcandidates.mp hall)⟩
      simpa [imp_iff_not_or] using hreach

/-- What a Wi-Fi Direct offer has to hold: a group with its passphrase, or a device with its
pin. -/
structure DirectWellFormed (ssid password : String) (frequency : Int32) (deviceName pin : String) :
    Prop where
  frequency : -1 ≤ frequency
  credentials :
    (ssid.utf8ByteSize < 32 ∧ DirectSsid ssid ∧ 8 ≤ password.utf8ByteSize ∧
      password.utf8ByteSize ≤ 63) ∨ (deviceName.utf8ByteSize < 32 ∧ pin.utf8ByteSize < 16)

theorem ensureValidBwuWifiDirectPathAvailable_iff {creds : UpgradePath.WifiDirectCredentials}
    {ssid password deviceName pin : String} {frequency : Int32} (hssid : creds.ssid = some ssid)
    (hpassword : creds.password = some password) (hfrequency : creds.frequency = some frequency)
    (hname : creds.deviceName = some deviceName) (hpin : creds.pin = some pin) :
    ensureValidBwuWifiDirectPathAvailable creds = .success ↔
      DirectWellFormed ssid password frequency deviceName pin := by
  rw [ensureValidBwuWifiDirectPathAvailable]
  have hlow : creds.frequency.all (· < -1) = true ↔ ¬ -1 ≤ frequency := by
    simp [hfrequency]
  have hgroup : (creds.ssid.any fun ssid =>
        ssid.utf8ByteSize < wifiDirectSsidMaxLength && matchesWifiDirectSsid ssid) = true ↔
      ssid.utf8ByteSize < 32 ∧ DirectSsid ssid := by
    rw [hssid, Option.any_some, Bool.and_eq_true, matchesWifiDirectSsid_iff, decide_eq_true_iff]
    rfl
  have hphrase : (creds.password.any fun p =>
        withinRange p.utf8ByteSize wifiPasswordSsidMinLength wifiPasswordSsidMaxLength) = true ↔
      8 ≤ password.utf8ByteSize ∧ password.utf8ByteSize < 64 := by
    rw [hpassword, Option.any_some, withinRange_iff]
    rfl
  have hdevice : (creds.deviceName.any fun d => d.utf8ByteSize < wifiDirectSsidMaxLength) = true ↔
      deviceName.utf8ByteSize < 32 := by
    rw [hname, Option.any_some, decide_eq_true_iff]
    rfl
  have hcode : (creds.pin.any fun p =>
        withinRange p.utf8ByteSize wifiDirectPinMinLength wifiDirectPinMaxLength) = true ↔
      pin.utf8ByteSize < 16 := by
    rw [hpin, Option.any_some, withinRange_iff]
    exact and_iff_right (Nat.zero_le _)
  dsimp only
  rw [check_iff, hlow, not_not]
  constructor
  · rintro ⟨hf, h⟩
    refine ⟨hf, ?_⟩
    split at h
    case isFalse => cases h
    case isTrue hvalid =>
      rw [Bool.or_eq_true, Bool.and_eq_true, Bool.and_eq_true, hgroup, hphrase, hdevice, hcode]
        at hvalid
      rcases hvalid with ⟨⟨hlen, hpattern⟩, hmin, hmax⟩ | hvalid
      · exact .inl ⟨hlen, hpattern, hmin, by omega⟩
      · exact .inr hvalid
  · rintro ⟨hf, hcred⟩
    refine ⟨hf, if_pos ?_⟩
    rw [Bool.or_eq_true, Bool.and_eq_true, Bool.and_eq_true, hgroup, hphrase, hdevice, hcode]
    rcases hcred with ⟨hlen, hpattern, hmin, hmax⟩ | hcred
    · exact .inl ⟨⟨hlen, hpattern⟩, hmin, by omega⟩
    · exact .inr hcred

end Validator

inductive Offer : Type
  | wifiHotspot (credentials : UpgradePath.WifiHotspotCredentials)
      (supportsDisablingEncryption : Bool)
  | wifiLan (addresses : List Frames.ServiceAddress)
  | awdl (serviceName serviceType password : String) (supportsDisablingEncryption : Bool)
  | wifiAware (serviceId : String) (serviceInfo : Bytes) (password : String)
      (supportsDisablingEncryption : Bool)
  | wifiDirect (ssid password : String) (port frequency : Int32)
      (supportsDisablingEncryption : Bool) (gateway deviceName pin : String)
  | bluetooth (serviceId macAddress : String)
  | webrtc (peerId : String) (locationHint : LocationHint)

namespace Offer

def frame : Offer → OfflineFrame
  | wifiHotspot credentials disabling => forBwuWifiHotspotPathAvailable credentials disabling
  | wifiLan addresses => forBwuWifiLanPathAvailable addresses
  | awdl name type password disabling => forBwuAwdlPathAvailable name type password disabling
  | wifiAware id info password disabling => forBwuWifiAwarePathAvailable id info password disabling
  | wifiDirect ssid password port frequency disabling gateway name pin =>
    forBwuWifiDirectPathAvailable ssid password port frequency disabling gateway name pin
  | bluetooth id mac => forBwuBluetoothPathAvailable id mac
  | webrtc peer hint => forBwuWebrtcPathAvailable peer hint

def WellFormed : Offer → Prop
  | wifiHotspot credentials _ => Validator.HotspotWellFormed credentials
  | wifiLan addresses => addresses ≠ []
  | wifiDirect ssid password _ frequency _ _ name pin =>
    Validator.DirectWellFormed ssid password frequency name pin
  | awdl _ _ _ _ | wifiAware _ _ _ _ | bluetooth _ _ | webrtc _ _ => True

end Offer

open Validator

theorem wifiLanSocket_addressCandidates (addresses : List Frames.ServiceAddress) :
    (wifiLanSocket addresses).addressCandidates = addresses.map serviceAddressToProto := by
  rw [wifiLanSocket]
  split
  case h_1 hlast => rw [List.getLast?_eq_none_iff.mp hlast, List.map_nil]
  case h_2 => split <;> rfl

theorem ensureValidBwuWifiLanPathAvailable_iff (addresses : List Frames.ServiceAddress) :
    ensureValidBwuWifiLanPathAvailable (wifiLanSocket addresses) = .success ↔ addresses ≠ [] := by
  rw [ensureValidBwuWifiLanPathAvailable, check_iff, wifiLanSocket_addressCandidates]
  cases addresses with
  | nil => simp [wifiLanSocket]
  | cons => simp

theorem ensureValidOfflineFrame_bwuFrame (sub : BandwidthUpgradeNegotiationFrame) :
    ensureValidOfflineFrame (bwuFrame sub) = ensureValidBwuNegotiationFrame sub := by
  rw [ensureValidOfflineFrame, getFrameType_bwuFrame]
  rfl

theorem ensureValid_bwuUpgradePathAvailable (info : UpgradePathInfo) :
    ensureValidOfflineFrame (bwuUpgradePathAvailable info) =
      ensureValidBwuPathAvailableFrame info := by
  have hevent : (some EventType.upgradePathAvailable.number).bind EventType.tryFrom =
      some .upgradePathAvailable := EventType.tryFrom_number _
  rw [bwuUpgradePathAvailable, ensureValidOfflineFrame_bwuFrame, ensureValidBwuNegotiationFrame,
    hevent]
  rfl

theorem Offer.valid_iff (x : Offer) :
    ensureValidOfflineFrame x.frame = .success ↔ x.WellFormed := by
  cases x with
  | wifiHotspot credentials disabling =>
    rw [frame, forBwuWifiHotspotPathAvailable, ensureValid_bwuUpgradePathAvailable]
    exact ensureValidBwuWifiHotspotPathAvailable_iff credentials
  | wifiLan addresses =>
    rw [frame, forBwuWifiLanPathAvailable, ensureValid_bwuUpgradePathAvailable]
    exact ensureValidBwuWifiLanPathAvailable_iff addresses
  | wifiDirect ssid password port frequency disabling gateway name pin =>
    rw [frame, forBwuWifiDirectPathAvailable, ensureValid_bwuUpgradePathAvailable]
    exact ensureValidBwuWifiDirectPathAvailable_iff rfl rfl rfl rfl rfl
  | awdl | wifiAware | bluetooth | webrtc =>
    refine iff_of_true ?_ trivial
    exact ensureValid_bwuUpgradePathAvailable _

theorem Offer.frame_eq (x : Offer) : ∃ info, x.frame = bwuUpgradePathAvailable info := by
  cases x <;> exact ⟨_, rfl⟩

def pathInfo (frame : OfflineFrame) : Option UpgradePathInfo :=
  (frame.v1.bind (·.bandwidthUpgradeNegotiation)).bind (·.upgradePathInfo)

theorem Prost.fromBytes_encode_iff {P : Prost} {frame f : OfflineFrame}
    (hP : P.decode (P.encode frame) = some frame) :
    P.fromBytes (P.encode frame) = .ok f ↔
      ensureValidOfflineFrame frame = .success ∧ f = frame := by
  rw [Prost.fromBytes_eq_ok, hP, Option.some_inj]
  constructor
  · rintro ⟨rfl, hv⟩
    exact ⟨hv, rfl⟩
  · rintro ⟨hv, rfl⟩
    exact ⟨rfl, hv⟩

/-- An offer is accepted exactly when it is well formed, and the peer then reads the path info
the builder put in. -/
theorem Offer.accepted_iff_wellFormed {P : Prost} {x : Offer}
    (hP : P.decode (P.encode x.frame) = some x.frame) :
    ((∃ f, P.fromBytes (P.encode x.frame) = .ok f) ↔ x.WellFormed) ∧
      ∀ f, P.fromBytes (P.encode x.frame) = .ok f →
        ∃ info, x.frame = bwuUpgradePathAvailable info ∧ pathInfo f = some info := by
  simp only [Prost.fromBytes_encode_iff hP]
  constructor
  · rw [← x.valid_iff]
    exact ⟨fun ⟨_, hv, _⟩ => hv, fun hv => ⟨_, hv, rfl⟩⟩
  · rintro f ⟨-, rfl⟩
    obtain ⟨info, hinfo⟩ := x.frame_eq
    exact ⟨info, hinfo, by rw [hinfo]; rfl⟩

def lanAddresses : List Frames.ServiceAddress := [{ address := [192, 168, 0, 2], port := 4242 }]

def lanOfferBytes : Bytes :=
  [8, 1, 18, 34, 8, 4, 42, 30, 8, 1, 18, 26, 8, 5, 26, 20, 10, 4, 192, 168, 0, 2, 16, 146, 33,
    26, 9, 10, 4, 192, 168, 0, 2, 16, 146, 33, 72, 1]

theorem Offer.accepted_iff_wellFormed_lan :
    ∃ f, (Prost.knowing (forBwuWifiLanPathAvailable lanAddresses) lanOfferBytes).fromBytes
      lanOfferBytes = .ok f := by
  have h := @Offer.accepted_iff_wellFormed (.knowing (forBwuWifiLanPathAvailable lanAddresses)
    lanOfferBytes) (.wifiLan lanAddresses) (Prost.decode_encode_knowing _ _)
  rw [Offer.frame, Prost.encode_knowing] at h
  exact h.1.mpr (List.cons_ne_nil _ _)

end Nearby
