import Nearby.Bwu.WifiLan
import Nearby.Wire.Offers

/-! The offers of the LAN and hotspot handlers from the one side to the other: what the responder
dials, for the offers these handlers make and for any the validator accepts. -/

namespace Nearby.Bwu

open Proto Lib Validator

/-! ### Addresses as text -/

namespace Ipv4Addr

/-- A number without leading zeros. -/
def Plain (text : List Char) : Prop := text.head? = some '0' → text = ['0']

theorem plain_iff {text : List Char} :
    Plain text ↔ ¬ (text.head? = some '0' ∧ 1 < text.length) := by
  rw [Plain]
  cases text with
  | nil => simp
  | cons c text =>
    cases text with
    | nil => simp
    | cons => simp

theorem parseOctet_eq_some {text : List Char} {n : UInt8} :
    parseOctet text = some n ↔ Octet text n.toNat ∧ Plain text := by
  have hvalue : text.foldl (fun n c => 10 * n + (c.toNat - 48)) 0 = decimal text := rfl
  have hdigits : ¬ text.any (!·.isDigit) = true ↔ text.all isAsciiDigit = true := by
    rw [List.all_eq_true, Bool.not_eq_true, List.any_eq_false]
    simp only [Bool.not_eq_true', Bool.not_eq_false]
    rfl
  rw [parseOctet, hvalue, plain_iff]
  constructor
  · intro h
    split at h
    case isTrue => cases h
    case isFalse hok =>
      obtain ⟨hne, hlen, hall, hplain, hlt⟩ : text ≠ [] ∧ ¬ 3 < text.length ∧
          ¬ text.any (!·.isDigit) = true ∧ ¬ (text.head? = some '0' ∧ 1 < text.length) ∧
          ¬ 256 ≤ decimal text := by
        simpa only [not_or] using hok
      cases h
      have hn : (UInt8.ofNat (decimal text)).toNat = decimal text :=
        Nat.mod_eq_of_lt (by omega)
      exact ⟨⟨hne, by omega, hdigits.mp hall, hn.symm, by omega⟩, hplain⟩
  · rintro ⟨⟨hne, hlen, hall, hn, hle⟩, hplain⟩
    rw [if_neg, hn, UInt8.ofNat_toNat]
    simp only [not_or]
    exact ⟨hne, by omega, hdigits.mpr hall, hplain, by omega⟩

theorem parse_eq_some {s : String} {ip : Ipv4Addr} :
    parse s = some ip ↔
      DottedQuad s (ip.octets.map UInt8.toNat) ∧ ∀ text ∈ s.toList.splitOn '.', Plain text := by
  rw [parse, DottedQuad]
  generalize s.toList.splitOn '.' = texts
  constructor
  · intro h
    split at h
    case h_2 => cases h
    case h_1 a b c d =>
      simp only [Option.pure_def, Option.bind_eq_bind, Option.bind_eq_some_iff, Option.some_inj]
        at h
      obtain ⟨a', ha, b', hb, c', hc, d', hd, rfl⟩ := h
      rw [parseOctet_eq_some] at ha hb hc hd
      refine ⟨⟨rfl, .cons ha.1 (.cons hb.1 (.cons hc.1 (.cons hd.1 .nil)))⟩, ?_⟩
      simpa using ⟨ha.2, hb.2, hc.2, hd.2⟩
  · rintro ⟨⟨-, hall⟩, hplain⟩
    obtain ⟨a, b, c, d⟩ := ip
    cases hall with
    | cons ha hall =>
    cases hall with
    | cons hb hall =>
    cases hall with
    | cons hc hall =>
    cases hall with
    | cons hd hall =>
    cases hall with
    | nil =>
      have ha := parseOctet_eq_some.mpr ⟨ha, hplain _ (by simp)⟩
      have hb := parseOctet_eq_some.mpr ⟨hb, hplain _ (by simp)⟩
      have hc := parseOctet_eq_some.mpr ⟨hc, hplain _ (by simp)⟩
      have hd := parseOctet_eq_some.mpr ⟨hd, hplain _ (by simp)⟩
      simp [ha, hb, hc, hd]

theorem decimal_toDigits (n : Nat) : decimal (Nat.toDigits 10 n) = n :=
  Nat.ofDigitChars_ten_toDigits

theorem octet_toDigits {n : Nat} (h : n ≤ 255) : Octet (Nat.toDigits 10 n) n where
  ne_nil := Nat.toDigits_ne_nil
  length_le := (Nat.length_toDigits_le_iff (by decide) (by decide)).mpr (by omega)
  digits := List.all_eq_true.mpr fun _ => Nat.isDigit_of_mem_toDigits (by decide) (by decide)
  value := decimal_toDigits n
  le := h

theorem plain_toDigits (n : Nat) : Plain (Nat.toDigits 10 n) := by
  induction n using Nat.strong_induction_on with
  | _ n ih =>
    intro hzero
    by_cases hn : n < 10
    case pos =>
      rw [Nat.toDigits_of_lt_base hn] at hzero ⊢
      rw [Option.some.inj hzero]
    case neg =>
      -- The first digit is that of a smaller number, which is not 0.
      rw [Nat.toDigits_of_base_le (by decide) (not_lt.mp hn),
        List.head?_append_of_ne_nil _ Nat.toDigits_ne_nil] at hzero
      have hdiv := decimal_toDigits (n / 10)
      rw [ih (n / 10) (by omega) hzero] at hdiv
      have hpos : (0 : Nat) = n / 10 := hdiv
      omega

theorem toString_octet (n : UInt8) :
    parseOctet (toString n).toList = some n ∧ '.' ∉ (toString n).toList := by
  have htext : (toString n).toList = Nat.toDigits 10 n.toNat := Nat.toList_repr
  have hoctet := octet_toDigits (n := n.toNat) (Nat.lt_succ_iff.mp n.toNat_lt)
  rw [htext]
  refine ⟨parseOctet_eq_some.mpr ⟨hoctet, plain_toDigits _⟩, fun hdot => ?_⟩
  exact absurd (List.all_eq_true.mp hoctet.digits '.' hdot) (by decide)

theorem splitOn_toString (ip : Ipv4Addr) :
    ip.toString.toList.splitOn '.' =
      [(toString ip.a).toList, (toString ip.b).toList, (toString ip.c).toList,
        (toString ip.d).toList] := by
  rw [Ipv4Addr.toString, String.toList_intercalate]
  refine List.splitOn_intercalate '.' ?_ (by simp)
  intro text htext
  obtain ⟨s, hs, rfl⟩ := List.mem_map.mp htext
  simp only [List.mem_cons, List.not_mem_nil, or_false] at hs
  rcases hs with rfl | rfl | rfl | rfl <;> exact (toString_octet _).2

theorem parse_toString (ip : Ipv4Addr) : parse ip.toString = some ip := by
  rw [parse, splitOn_toString]
  simp [toString_octet]

end Ipv4Addr

/-! ### An offer dialled back -/

open WifiHotspotBwuHandler (tryPort readCredentials)
open WifiLanBwuHandler (readSocket)

theorem tryPort_eq_some {port : Int32} {p : UInt16} :
    tryPort port = some p ↔ port.toInt = p.toNat := by
  have hlt := p.toNat_lt
  rw [tryPort]
  constructor
  · intro h
    split at h
    case isFalse => cases h
    case isTrue hrange =>
      cases h
      rw [UInt16.toNat_ofNat', Nat.mod_eq_of_lt (by omega)]
      omega
  · intro h
    rw [if_pos (by omega), h, Int.toNat_natCast, UInt16.ofNat_toNat]

theorem toInt_port (p : UInt16) : (Int32.ofNat p.toNat).toInt = p.toNat := by
  have hlt := p.toNat_lt
  rw [Int32.toInt_ofNat_of_lt (by omega)]

theorem tryPort_port (p : UInt16) : tryPort (Int32.ofNat p.toNat) = some p :=
  tryPort_eq_some.mpr (toInt_port p)

/-- The credentials as the responder hands them on: what it would bind to is the gateway. -/
def joining (creds : HotspotCreds) : HotspotCreds := { creds with bindIp := creds.gateway }

theorem readSocket_offer (h : WifiLanBwuHandler) (addr : SocketAddr) :
    ∃ info, h.offer addr = bwuUpgradePathAvailable info ∧ upiMedium info = .wifiLan ∧
      readSocket info = some ⟨h.advertiseIp, addr.port⟩ := by
  refine ⟨_, rfl, rfl, ?_⟩
  have hip : Ipv4Addr.ofBytes h.advertiseIp.octets = some h.advertiseIp :=
    Ipv4Addr.ofBytes_eq_some.mpr rfl
  have hsocket :
      wifiLanSocket [{ address := h.advertiseIp.octets, port := Int32.ofNat addr.port.toNat }] =
      { ipAddress := some h.advertiseIp.octets
        wifiPort := some (Int32.ofNat addr.port.toNat)
        addressCandidates := [serviceAddressToProto
          { address := h.advertiseIp.octets, port := Int32.ofNat addr.port.toNat }] } := rfl
  simp [readSocket, hsocket, hip, tryPort_port]

theorem readCredentials_offer (hl : HotspotListener) :
    ∃ info, WifiHotspotBwuHandler.offer hl = bwuUpgradePathAvailable info ∧
      upiMedium info = .wifiHotspot ∧
      readCredentials info =
        some (joining hl.creds, hl.addr.port) := by
  refine ⟨_, rfl, rfl, ?_⟩
  simp [readCredentials, joining, Ipv4Addr.parse_toString, tryPort_port]

theorem valid_offer (h : WifiLanBwuHandler) (addr : SocketAddr) :
    ensureValidOfflineFrame (h.offer addr) = .success :=
  (Offer.valid_iff (.wifiLan _)).mpr (List.cons_ne_nil _ _)

theorem valid_hotspotOffer {hl : HotspotListener} (hmin : 8 ≤ hl.creds.password.utf8ByteSize)
    (hmax : hl.creds.password.utf8ByteSize ≤ 63) :
    ensureValidOfflineFrame (WifiHotspotBwuHandler.offer hl) = .success := by
  refine (Offer.valid_iff (.wifiHotspot _ false)).mpr ?_
  refine ⟨nofun, ⟨_, rfl, hmin, hmax⟩, .inl nofun, ?_, nofun⟩
  rintro g hg -
  cases hg
  exact ⟨_, (Ipv4Addr.parse_eq_some.mp (Ipv4Addr.parse_toString _)).1⟩

theorem offers_dialled_back {P : Prost} :
    (∀ (tcp : Tcp) (h : WifiLanBwuHandler) (u : String) (addr : SocketAddr),
      (h.handleInitializeUpgradedMediumForEndpoint tcp P u).2.listeners.lookup u = some addr →
      P.decode (P.encode (h.offer addr)) = some (h.offer addr) →
      ∃ info, P.fromBytes (h.handleInitializeUpgradedMediumForEndpoint tcp P u).1 =
          .ok (bwuUpgradePathAvailable info) ∧
        upiMedium info = .wifiLan ∧
        ∀ (tcp : Tcp) (r : WifiLanBwuHandler), ∃ channel,
          r.createUpgradedEndpointChannel tcp info =
            (channel, r.log (.dial ⟨h.advertiseIp, addr.port⟩ channel))) ∧
    ∀ (ap : SoftAp) (h : WifiHotspotBwuHandler) (u : String) (hl : HotspotListener),
      (h.handleInitializeUpgradedMediumForEndpoint ap P u).2.listeners.lookup u = some hl →
      P.decode (P.encode (WifiHotspotBwuHandler.offer hl)) =
        some (WifiHotspotBwuHandler.offer hl) →
      8 ≤ hl.creds.password.utf8ByteSize → hl.creds.password.utf8ByteSize ≤ 63 →
      ∃ info, P.fromBytes (h.handleInitializeUpgradedMediumForEndpoint ap P u).1 =
          .ok (bwuUpgradePathAvailable info) ∧
        upiMedium info = .wifiHotspot ∧
        ∀ (ap : SoftAp) (r : WifiHotspotBwuHandler),
          if ap.connectAsSta r.calls (joining hl.creds) then ∃ channel,
            r.createUpgradedEndpointChannel ap info =
              (channel, (r.log (.connectAsSta (joining hl.creds) true)).log
                (.dial ⟨hl.creds.gateway, hl.addr.port⟩ channel))
          else r.createUpgradedEndpointChannel ap info =
            (none, r.log (.connectAsSta (joining hl.creds) false)) := by
  constructor
  · intro tcp h u addr hl hP
    obtain ⟨info, hoffer, hmedium, hread⟩ := readSocket_offer h addr
    refine ⟨info, ?_, hmedium, fun tcp r => ⟨tcp.dial r.calls ⟨h.advertiseIp, addr.port⟩, ?_⟩⟩
    · rw [WifiLanBwuHandler.answer_of_lookup hl, ← hoffer]
      exact Prost.fromBytes_of_decode hP (valid_offer h addr)
    · rw [WifiLanBwuHandler.createUpgradedEndpointChannel, hread]
  · intro ap h u hl hhl hP hmin hmax
    obtain ⟨info, hoffer, hmedium, hread⟩ := readCredentials_offer hl
    refine ⟨info, ?_, hmedium, fun ap r => ?_⟩
    · rw [WifiHotspotBwuHandler.answer_of_lookup hhl, ← hoffer]
      exact Prost.fromBytes_of_decode hP (valid_hotspotOffer hmin hmax)
    · rw [WifiHotspotBwuHandler.createUpgradedEndpointChannel, hread]
      split
      case isTrue hjoined =>
        simp only [hjoined, not_true_eq_false, if_false]
        exact ⟨_, rfl⟩
      case isFalse hfailed =>
        rw [Bool.not_eq_true] at hfailed
        simp [hfailed]

def lanHandler : WifiLanBwuHandler := .withEndpoint ⟨0, 0, 0, 0⟩ ⟨192, 168, 0, 2⟩

def workingTcp : Tcp where
  bind _ ip := some ⟨ip, 4242⟩
  dial _ _ := some 5

def hotspotListener : HotspotListener where
  addr := ⟨⟨192, 168, 49, 1⟩, 4242⟩
  creds :=
    { ssid := "DIRECT-nearby", password := "password", frequency := 2437
      gateway := ⟨192, 168, 49, 1⟩, bindIp := ⟨192, 168, 49, 1⟩ }

def hotspotOfferBytes : Bytes :=
  [8, 1, 18, 61, 8, 4, 42, 57, 8, 1, 18, 53, 8, 3, 18, 45, 10, 13, 68, 73, 82, 69, 67, 84, 45, 110,
    101, 97, 114, 98, 121, 18, 8, 112, 97, 115, 115, 119, 111, 114, 100, 24, 146, 33, 34, 12, 49,
    57, 50, 46, 49, 54, 56, 46, 52, 57, 46, 49, 40, 133, 19, 56, 0, 72, 1]

theorem offers_dialled_back_by_both :
    (∃ info, (Prost.knowing (lanHandler.offer ⟨⟨0, 0, 0, 0⟩, 4242⟩) lanOfferBytes).fromBytes
        lanOfferBytes = .ok (bwuUpgradePathAvailable info) ∧ upiMedium info = .wifiLan ∧
      ∃ channel, lanHandler.createUpgradedEndpointChannel workingTcp info =
        (channel, lanHandler.log (.dial ⟨⟨192, 168, 0, 2⟩, 4242⟩ channel))) ∧
    ∃ info, (Prost.knowing (WifiHotspotBwuHandler.offer hotspotListener)
        hotspotOfferBytes).fromBytes hotspotOfferBytes = .ok (bwuUpgradePathAvailable info) ∧
      upiMedium info = .wifiHotspot ∧
      ∃ channel, WifiHotspotBwuHandler.createUpgradedEndpointChannel
          WifiHotspotBwuHandler.workingAp {} info =
        (channel, { calls := [.dial ⟨⟨192, 168, 49, 1⟩, 4242⟩ channel,
          .connectAsSta hotspotListener.creds true] }) := by
  constructor
  · obtain ⟨info, hok, hmedium, hdial⟩ := (@offers_dialled_back
      (.knowing (lanHandler.offer ⟨⟨0, 0, 0, 0⟩, 4242⟩) lanOfferBytes)).1 workingTcp lanHandler
      "S_UPGRADE" ⟨⟨0, 0, 0, 0⟩, 4242⟩ (by decide) (Prost.decode_encode_knowing _ _)
    exact ⟨info, hok, hmedium, hdial workingTcp lanHandler⟩
  · obtain ⟨info, hok, hmedium, hdial⟩ := (@offers_dialled_back
      (.knowing (WifiHotspotBwuHandler.offer hotspotListener) hotspotOfferBytes)).2
      WifiHotspotBwuHandler.workingAp {} "S_UPGRADE" hotspotListener (by decide)
      (Prost.decode_encode_knowing _ _) (by decide) (by decide)
    exact ⟨info, hok, hmedium, hdial WifiHotspotBwuHandler.workingAp {}⟩

/-! ### Offers of any kind -/

def PortIs (port : Option Int32) (p : UInt16) : Prop :=
  ∃ n, port = some n ∧ n.toInt = p.toNat ∧ 0 < p.toNat

def CandidatesName (candidates : List ServiceAddress) (addr : SocketAddr) : Prop :=
  ∃ x ∈ candidates, x.ipAddress = some addr.ip.octets ∧ PortIs x.port addr.port

/-- The address in the legacy fields of a LAN offer. -/
def LanNames (socket : UpgradePath.WifiLanSocket) (addr : SocketAddr) : Prop :=
  socket.ipAddress = some addr.ip.octets ∧ PortIs socket.wifiPort addr.port

/-- The address in the legacy fields of a hotspot offer, in any spelling the validator accepts. -/
def HotspotNames (creds : UpgradePath.WifiHotspotCredentials) (addr : SocketAddr) : Prop :=
  (∃ g, creds.gateway = some g ∧ DottedQuad g (addr.ip.octets.map UInt8.toNat)) ∧
    PortIs creds.port addr.port

def PlainGateway (creds : UpgradePath.WifiHotspotCredentials) : Prop :=
  ∀ g, creds.gateway = some g → ∀ text ∈ g.toList.splitOn '.', Ipv4Addr.Plain text

theorem medium_of_upiMedium {info : UpgradePathInfo} {m : UpgradePath.Medium}
    (hne : m ≠ .unknownMedium) (h : upiMedium info = upgradePathInfoMediumToMedium m) :
    info.medium.bind UpgradePath.Medium.tryFrom = some m := by
  rw [upiMedium] at h
  cases hm : info.medium.bind UpgradePath.Medium.tryFrom with
  | none =>
    rw [hm] at h
    cases m <;> first | exact absurd rfl hne | cases h
  | some m' =>
    rw [hm] at h
    cases m' <;> cases m <;> first | rfl | cases h

theorem pathAvailable_of_accepted {P : Prost} {bytes : Bytes} {frame : OfflineFrame}
    {bwu : BandwidthUpgradeNegotiationFrame} {info : UpgradePathInfo}
    (hf : P.fromBytes bytes = .ok frame)
    (htype : getFrameType frame = .bandwidthUpgradeNegotiation)
    (hbwu : frame.v1.bind (·.bandwidthUpgradeNegotiation) = some bwu)
    (hevent : bwu.eventType = some EventType.upgradePathAvailable.number)
    (hinfo : bwu.upgradePathInfo = some info) :
    ensureValidBwuPathAvailableFrame info = .success := by
  obtain ⟨-, hv⟩ := Prost.fromBytes_eq_ok.mp hf
  rw [ensureValidOfflineFrame, htype] at hv
  simp only [hbwu, required, ensureValidBwuNegotiationFrame, hevent, Option.bind_some,
    EventType.tryFrom_number, hinfo] at hv
  exact hv

theorem readSocket_eq_some {info : UpgradePathInfo} {socket : UpgradePath.WifiLanSocket}
    (hsocket : info.wifiLanSocket = some socket) {addr : SocketAddr} :
    readSocket info = some addr ↔ socket.ipAddress = some addr.ip.octets ∧
      ∃ n, socket.wifiPort = some n ∧ n.toInt = addr.port.toNat := by
  simp only [readSocket, hsocket, Option.pure_def, Option.bind_eq_bind, Option.bind_eq_some_iff,
    Option.some_inj, Ipv4Addr.ofBytes_eq_some, tryPort_eq_some]
  constructor
  · rintro ⟨_, rfl, bytes, hip, ip, rfl, n, hn, port, hport, rfl⟩
    exact ⟨hip, n, hn, hport⟩
  · rintro ⟨hip, n, hn, hport⟩
    exact ⟨_, rfl, _, hip, _, rfl, n, hn, _, hport, rfl⟩

theorem readCredentials_isSome {info : UpgradePathInfo}
    {creds : UpgradePath.WifiHotspotCredentials} (hcreds : info.wifiHotspotCredentials = some creds)
    {addr : SocketAddr} :
    (∃ c, readCredentials info = some (c, addr.port) ∧ c.gateway = addr.ip) ↔
      (∃ g, creds.gateway = some g ∧ Ipv4Addr.parse g = some addr.ip) ∧
        ∃ n, creds.port = some n ∧ n.toInt = addr.port.toNat := by
  simp only [readCredentials, hcreds, Option.pure_def, Option.bind_eq_bind, Option.bind_eq_some_iff,
    Option.some_inj, Prod.mk.injEq, tryPort_eq_some]
  constructor
  · rintro ⟨c, ⟨_, rfl, g, hg, ip, hparse, n, hn, port, hport, rfl, rfl⟩, rfl⟩
    exact ⟨⟨g, hg, hparse⟩, n, hn, hport⟩
  · rintro ⟨⟨g, hg, hparse⟩, n, hn, hport⟩
    exact ⟨_, ⟨_, rfl, g, hg, _, hparse, n, hn, _, hport, rfl, rfl⟩, rfl⟩

theorem lan_dials_iff {info : UpgradePathInfo} {socket : UpgradePath.WifiLanSocket}
    (hsocket : info.wifiLanSocket = some socket) (tcp : Tcp) (h : WifiLanBwuHandler) :
    (∃ addr channel, (LanNames socket addr ∨ CandidatesName socket.addressCandidates addr) ∧
        h.createUpgradedEndpointChannel tcp info = (channel, h.log (.dial addr channel))) ↔
      ∃ addr, LanNames socket addr := by
  rw [WifiLanBwuHandler.createUpgradedEndpointChannel]
  constructor
  · rintro ⟨addr, channel, hnamed, hcreate⟩
    have hread : readSocket info = some addr := by
      split at hcreate
      case h_1 => exact absurd (congrArg (·.2.calls) hcreate) (List.cons_ne_self _ _).symm
      case h_2 hread =>
        cases (List.cons.inj (congrArg (·.2.calls) hcreate)).1
        exact hread
    obtain ⟨hip, n, hn, hport⟩ := (readSocket_eq_some hsocket).mp hread
    have hpos : 0 < addr.port.toNat := by
      rcases hnamed with ⟨-, n, -, -, hpos⟩ | ⟨x, -, -, n, -, -, hpos⟩ <;> exact hpos
    exact ⟨addr, hip, n, hn, hport, hpos⟩
  · rintro ⟨addr, hip, n, hn, hport, hpos⟩
    have hread := (readSocket_eq_some hsocket).mpr ⟨hip, n, hn, hport⟩
    refine ⟨addr, tcp.dial h.calls addr, .inl ⟨hip, n, hn, hport, hpos⟩, ?_⟩
    rw [hread]

theorem hotspot_dials_iff {info : UpgradePathInfo} {creds : UpgradePath.WifiHotspotCredentials}
    (hcreds : info.wifiHotspotCredentials = some creds) {ap : SoftAp} {h : WifiHotspotBwuHandler}
    (hjoin : ∀ c, ap.connectAsSta h.calls c = true) :
    (∃ addr channel c, (HotspotNames creds addr ∨ CandidatesName creds.addressCandidates addr) ∧
        h.createUpgradedEndpointChannel ap info =
          (channel, (h.log (.connectAsSta c true)).log (.dial addr channel))) ↔
      PlainGateway creds ∧ ∃ addr, HotspotNames creds addr := by
  rw [WifiHotspotBwuHandler.createUpgradedEndpointChannel]
  constructor
  · rintro ⟨addr, channel, c, hnamed, hcreate⟩
    have hread : readCredentials info = some (c, addr.port) ∧ c.gateway = addr.ip := by
      split at hcreate
      case h_1 =>
        have hlen : h.calls.length = h.calls.length + 2 := congrArg (·.2.calls.length) hcreate
        omega
      case h_2 c' port hread =>
        simp only [hjoin, not_true_eq_false, if_false] at hcreate
        have hcalls := congrArg (·.2.calls) hcreate
        simp only [WifiHotspotBwuHandler.log, List.cons.injEq, SoftApCall.dial.injEq,
          SoftApCall.connectAsSta.injEq] at hcalls
        obtain ⟨⟨rfl, -⟩, ⟨rfl, -⟩, -⟩ := hcalls
        exact ⟨hread, rfl⟩
    obtain ⟨⟨g, hg, hparse⟩, n, hn, hport⟩ := (readCredentials_isSome hcreds).mp ⟨c, hread⟩
    obtain ⟨hquad, hplain⟩ := Ipv4Addr.parse_eq_some.mp hparse
    have hpos : 0 < addr.port.toNat := by
      rcases hnamed with ⟨-, n, -, -, hpos⟩ | ⟨x, -, -, n, -, -, hpos⟩ <;> exact hpos
    refine ⟨fun g' hg' => ?_, addr, ⟨g, hg, hquad⟩, n, hn, hport, hpos⟩
    cases hg.symm.trans hg'
    exact hplain
  · rintro ⟨hplain, addr, ⟨g, hg, hquad⟩, n, hn, hport, hpos⟩
    have hparse := Ipv4Addr.parse_eq_some.mpr ⟨hquad, hplain g hg⟩
    obtain ⟨c, hread, hgateway⟩ :=
      (readCredentials_isSome hcreds).mpr ⟨⟨g, hg, hparse⟩, n, hn, hport⟩
    refine ⟨addr, ap.dial (h.log (.connectAsSta c true)).calls addr, c,
      .inl ⟨⟨g, hg, hquad⟩, n, hn, hport, hpos⟩, ?_⟩
    simp only [hread, hjoin, not_true_eq_false, if_false, hgateway]

/-- The responder dials an accepted offer that names an address exactly if the legacy fields name
one, and for a hotspot without leading zeros. -/
theorem dials_iff_legacy {P : Prost} {bytes : Bytes} {frame : OfflineFrame}
    {bwu : BandwidthUpgradeNegotiationFrame} {info : UpgradePathInfo}
    (hf : P.fromBytes bytes = .ok frame)
    (htype : getFrameType frame = .bandwidthUpgradeNegotiation)
    (hbwu : frame.v1.bind (·.bandwidthUpgradeNegotiation) = some bwu)
    (hevent : bwu.eventType = some EventType.upgradePathAvailable.number)
    (hinfo : bwu.upgradePathInfo = some info) :
    (upiMedium info = .wifiLan → ∃ socket, info.wifiLanSocket = some socket ∧
      ∀ (tcp : Tcp) (h : WifiLanBwuHandler),
        ((∃ addr, LanNames socket addr ∨ CandidatesName socket.addressCandidates addr) →
          ∃ addr channel, (LanNames socket addr ∨ CandidatesName socket.addressCandidates addr) ∧
            h.createUpgradedEndpointChannel tcp info = (channel, h.log (.dial addr channel))) ↔
        ((∃ addr, LanNames socket addr ∨ CandidatesName socket.addressCandidates addr) →
          ∃ addr, LanNames socket addr)) ∧
    (upiMedium info = .wifiHotspot → ∃ creds, info.wifiHotspotCredentials = some creds ∧
      ∀ (ap : SoftAp) (h : WifiHotspotBwuHandler), (∀ c, ap.connectAsSta h.calls c = true) →
        (((∃ addr, HotspotNames creds addr ∨ CandidatesName creds.addressCandidates addr) →
          ∃ addr channel c,
            (HotspotNames creds addr ∨ CandidatesName creds.addressCandidates addr) ∧
            h.createUpgradedEndpointChannel ap info =
              (channel, (h.log (.connectAsSta c true)).log (.dial addr channel))) ↔
        ((∃ addr, HotspotNames creds addr ∨ CandidatesName creds.addressCandidates addr) →
          PlainGateway creds ∧ ∃ addr, HotspotNames creds addr))) := by
  have hvalid := pathAvailable_of_accepted hf htype hbwu hevent hinfo
  rw [ensureValidBwuPathAvailableFrame] at hvalid
  constructor
  · intro hmedium
    rw [medium_of_upiMedium (m := .wifiLan) nofun hmedium] at hvalid
    obtain ⟨socket, hsocket, -⟩ := required_iff.mp hvalid
    exact ⟨socket, hsocket, fun tcp h => imp_congr Iff.rfl (lan_dials_iff hsocket tcp h)⟩
  · intro hmedium
    rw [medium_of_upiMedium (m := .wifiHotspot) nofun hmedium] at hvalid
    obtain ⟨creds, hcreds, -⟩ := required_iff.mp hvalid
    exact ⟨creds, hcreds, fun ap h hjoin => imp_congr Iff.rfl (hotspot_dials_iff hcreds hjoin)⟩

theorem dials_iff_legacy_lan :
    ∃ addr channel, lanHandler.createUpgradedEndpointChannel workingTcp
        { medium := some UpgradePath.Medium.wifiLan.number
          supportsClientIntroductionAck := some true
          wifiLanSocket := some (wifiLanSocket lanAddresses) } =
      (channel, lanHandler.log (.dial addr channel)) := by
  have h := @dials_iff_legacy (.knowing (forBwuWifiLanPathAvailable lanAddresses) lanOfferBytes)
    lanOfferBytes _ _ _ rfl (by decide) rfl rfl rfl
  obtain ⟨socket, hsocket, hdials⟩ := h.1 (by decide)
  cases hsocket
  have hnamed : LanNames (wifiLanSocket lanAddresses) ⟨⟨192, 168, 0, 2⟩, 4242⟩ :=
    ⟨rfl, 4242, rfl, by decide, by decide⟩
  obtain ⟨addr, channel, -, hcreate⟩ :=
    (hdials workingTcp lanHandler).mpr (fun _ => ⟨_, hnamed⟩) ⟨_, .inl hnamed⟩
  exact ⟨addr, channel, hcreate⟩

/-- A hotspot offer for new clients, which names its gateway as a candidate. -/
def candidateCredentials : UpgradePath.WifiHotspotCredentials where
  ssid := some "ssid"
  password := some "password"
  frequency := some 2412
  addressCandidates :=
    [{ ipAddress := some [254, 128, 0, 0, 0, 0, 0, 0, 77, 178, 179, 92, 34, 3, 152, 161]
       port := some 1000 },
      { ipAddress := some [192, 168, 0, 1], port := some 1000 }]

def candidateOfferBytes : Bytes :=
  [8, 1, 18, 69, 8, 4, 42, 65, 8, 1, 18, 61, 8, 3, 18, 53, 10, 4, 115, 115, 105, 100, 18, 8, 112,
    97, 115, 115, 119, 111, 114, 100, 40, 236, 18, 50, 21, 10, 16, 254, 128, 0, 0, 0, 0, 0, 0, 77,
    178, 179, 92, 34, 3, 152, 161, 16, 232, 7, 50, 9, 10, 4, 192, 168, 0, 1, 16, 232, 7, 56, 1,
    72, 1]

theorem candidate_not_dialled :
    ∃ info, (Prost.knowing (forBwuWifiHotspotPathAvailable candidateCredentials true)
        candidateOfferBytes).fromBytes candidateOfferBytes =
          .ok (bwuUpgradePathAvailable info) ∧
      upiMedium info = .wifiHotspot ∧
      info.wifiHotspotCredentials = some candidateCredentials ∧
      CandidatesName candidateCredentials.addressCandidates ⟨⟨192, 168, 0, 1⟩, 1000⟩ ∧
      WifiHotspotBwuHandler.createUpgradedEndpointChannel WifiHotspotBwuHandler.workingAp {} info =
        (none, {}) := by
  refine ⟨_, rfl, by decide, rfl, ?_, rfl⟩
  exact ⟨_, .tail _ (.head _), rfl, 1000, rfl, by decide, by decide⟩

end Nearby.Bwu
