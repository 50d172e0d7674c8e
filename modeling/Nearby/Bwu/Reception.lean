import Nearby.Bwu.RoundTrip
import Nearby.Bwu.Simulation

/-! What bytes from the peer can do: a frame that is let through an encrypted channel in the
clear, and the frame with which a new socket introduces itself. -/

namespace Nearby.Bwu

open Proto Lib Validator StreamChannel

/-! ### Plaintext on an encrypted channel -/

theorem undecoded_ok_iff {P : Prost} {raw bytes : Bytes} :
    undecoded P raw = .ok bytes ↔
      bytes = raw ∧ ∃ frame, P.fromBytes raw = .ok frame ∧ getFrameType frame = .keepAlive := by
  rw [undecoded]
  cases P.fromBytes raw with
  | error => simp
  | ok frame =>
    dsimp only
    split
    case isTrue hk => simp [hk, eq_comm]
    case isFalse hk => simp [hk]

theorem onIncomingFrame_of_ne {frame : OfflineFrame}
    (h : getFrameType frame ≠ .bandwidthUpgradeNegotiation) (env : Env) (fuel : Nat) (s : World)
    (e : String) : s.onIncomingFrame env fuel frame e = .ok s := by
  rw [World.onIncomingFrame, if_pos h]

/-- A frame the cipher rejects is read only if it is a KEEP_ALIVE, and then the manager does
nothing with it. -/
theorem plaintext_is_inert {σ : Type} {P : Prost} {cipher : Cipher σ} {session : σ} {p p' : Pipe}
    {reader : Reader} {raw : Bytes} (hframe : readFrame p reader = (.raw raw, p'))
    (hdecode : (cipher.decode session raw).1 = none) :
    ∃ result, (StreamChannel.read P (some cipher) session p reader).1 = .inl result ∧
      (∀ bytes, result = .ok bytes → bytes = raw ∧ ∃ frame, P.fromBytes bytes = .ok frame ∧
        getFrameType frame = .keepAlive ∧
        ∀ env fuel s e, World.onIncomingFrame env fuel s frame e = .ok s) ∧
      ((¬ ∃ frame, P.fromBytes raw = .ok frame ∧ getFrameType frame = .keepAlive) →
        ∃ ex, result = .error ex) := by
  have hread :
      (StreamChannel.read P (some cipher) session p reader).1 = .inl (undecoded P raw) := by
    simp only [StreamChannel.read, hframe, decodeFrame, hdecode]
  refine ⟨_, hread, fun bytes hok => ?_, fun hnot => ?_⟩
  · obtain ⟨rfl, frame, hf, hk⟩ := undecoded_ok_iff.mp hok
    exact ⟨rfl, frame, hf, hk, onIncomingFrame_of_ne (by simp [hk])⟩
  · cases hu : undecoded P raw with
    | error ex => exact ⟨ex, rfl⟩
    | ok bytes => exact absurd (undecoded_ok_iff.mp hu).2 hnot

/-- A KEEP_ALIVE by its type, with a LAST_WRITE in it. -/
def keepAliveWithLastWrite : OfflineFrame :=
  encodeV1 .keepAlive fun v1 =>
    { v1 with
      bandwidthUpgradeNegotiation :=
        some { eventType := some EventType.lastWriteToPriorChannel.number } }

def keepAliveWithLastWriteBytes : Bytes := [8, 1, 18, 6, 8, 5, 42, 2, 8, 2]

theorem plaintext_is_inert_with_lastWrite :
    ∃ frame, (Prost.knowing keepAliveWithLastWrite keepAliveWithLastWriteBytes).fromBytes
        keepAliveWithLastWriteBytes = .ok frame ∧
      ∀ env fuel s e, World.onIncomingFrame env fuel s frame e = .ok s := by
  obtain ⟨result, hread, hok, -⟩ := @plaintext_is_inert Unit
    (.knowing keepAliveWithLastWrite keepAliveWithLastWriteBytes) Line.markerCipher ()
    { buf := [0, 0, 0, 10] ++ keepAliveWithLastWriteBytes } {} (.length [])
    keepAliveWithLastWriteBytes (by decide) (by decide)
  have hresult : result = .ok keepAliveWithLastWriteBytes := by
    cases hread
    decide
  obtain ⟨-, frame, hf, -, hinert⟩ := hok _ hresult
  exact ⟨frame, hf, hinert⟩

/-! ### Introductions -/

def ValidIntroduction (P : Prost) (data : Bytes) : Prop :=
  ∃ frame bwu introduction, P.decode data = some frame ∧
    getFrameType frame = .bandwidthUpgradeNegotiation ∧
    frame.v1.bind (·.bandwidthUpgradeNegotiation) = some bwu ∧
    bwu.eventType = some EventType.clientIntroduction.number ∧
    bwu.clientIntroduction = some introduction ∧ introduction.endpointId ≠ none

/-- A frame of another type, valid as such, that carries an introduction all the same. -/
def Disguised (P : Prost) (data : Bytes) (introduction : ClientIntroduction) : Prop :=
  ∃ frame bwu, P.decode data = some frame ∧
    getFrameType frame ≠ .bandwidthUpgradeNegotiation ∧
    ensureValidOfflineFrame frame = .success ∧
    frame.v1.bind (·.bandwidthUpgradeNegotiation) = some bwu ∧
    bwu.eventType = some EventType.clientIntroduction.number ∧
    bwu.clientIntroduction = some introduction

theorem decodeClientIntroduction_eq_some {P : Prost} {data : Bytes}
    {introduction : ClientIntroduction} :
    World.decodeClientIntroduction P data = some introduction ↔
      ∃ frame bwu, P.decode data = some frame ∧ ensureValidOfflineFrame frame = .success ∧
        frame.v1.bind (·.bandwidthUpgradeNegotiation) = some bwu ∧
        bwu.eventType = some EventType.clientIntroduction.number ∧
        bwu.clientIntroduction = some introduction := by
  rw [World.decodeClientIntroduction]
  cases hf : P.fromBytes data with
  | error ex =>
    refine iff_of_false (by simp) ?_
    rintro ⟨frame, bwu, hframe, hv, -⟩
    cases hf.symm.trans (Prost.fromBytes_of_decode hframe hv)
  | ok frame =>
    obtain ⟨hframe, hv⟩ := Prost.fromBytes_eq_ok.mp hf
    dsimp only
    rw [Option.bind_eq_some_iff]
    constructor
    · rintro ⟨bwu, hbwu, h⟩
      split at h
      case isTrue => cases h
      case isFalse hevent => exact ⟨frame, bwu, hframe, hv, hbwu, not_not.mp hevent, h⟩
    · rintro ⟨frame', bwu, hframe', -, hbwu, hevent, h⟩
      cases hframe.symm.trans hframe'
      exact ⟨bwu, hbwu, by rw [if_neg (not_not.mpr hevent), h]⟩

theorem validIntroduction_or_disguised {P : Prost} {data : Bytes}
    {introduction : ClientIntroduction}
    (h : World.decodeClientIntroduction P data = some introduction) :
    ValidIntroduction P data ∨ Disguised P data introduction := by
  obtain ⟨frame, bwu, hframe, hv, hbwu, hevent, hintro⟩ := decodeClientIntroduction_eq_some.mp h
  by_cases htype : getFrameType frame = .bandwidthUpgradeNegotiation
  · refine .inl ⟨frame, bwu, introduction, hframe, htype, hbwu, hevent, hintro, ?_⟩
    have hchecked : ensureValidBwuNegotiationFrame bwu = .success := by
      rw [ensureValidOfflineFrame, htype] at hv
      simpa [required, hbwu] using hv
    rw [ensureValidBwuNegotiationFrame, hevent, Option.bind_some,
      EventType.tryFrom_number] at hchecked
    simp only [hintro, required, ensureValidBwuClientIntroductionFrame] at hchecked
    intro hnone
    rw [hnone] at hchecked
    cases hchecked
  · exact .inr ⟨frame, bwu, hframe, htype, hv, hbwu, hevent, hintro⟩

theorem disguised_decodes {P : Prost} {data : Bytes} {introduction : ClientIntroduction}
    (h : Disguised P data introduction) :
    World.decodeClientIntroduction P data = some introduction := by
  obtain ⟨frame, bwu, hframe, -, hv, hbwu, hevent, hintro⟩ := h
  exact decodeClientIntroduction_eq_some.mpr ⟨frame, bwu, hframe, hv, hbwu, hevent, hintro⟩

theorem not_validIntroduction {P : Prost} {data : Bytes} {introduction : ClientIntroduction}
    (h : Disguised P data introduction) : ¬ ValidIntroduction P data := by
  obtain ⟨frame, bwu, hframe, htype, -⟩ := h
  rintro ⟨frame', -, -, hframe', htype', -⟩
  cases hframe.symm.trans hframe'
  exact htype htype'

namespace World

variable {env : Env} {s : World} {c : ChannelId}

/-- The socket takes the place of a registered channel on a disguised introduction: its bytes
are read as one, the ack is written, and it is attributed to an endpoint that has a channel. -/
def Misled (env : Env) (s : World) (c : ChannelId) : Prop :=
  ∃ data introduction e old, env.read (.incoming c :: s.trace) c = .ok data ∧
    Disguised env.prost data introduction ∧
    (env.write (.read c :: .incoming c :: s.trace) c (.frame forBwuIntroductionAck)).ok = true ∧
    s.attributedEndpoint (introduction.endpointId.getD "") = some e ∧
    s.getChannelForEndpoint e = some old ∧ old ≠ c

theorem introducedEndpoint_eq_some {e : String} :
    s.introducedEndpoint env c = some e ↔
      ∃ data introduction, env.read (.incoming c :: s.trace) c = .ok data ∧
        decodeClientIntroduction env.prost data = some introduction ∧
        (env.write (.read c :: .incoming c :: s.trace) c
          (.frame forBwuIntroductionAck)).ok = true ∧
        s.attributedEndpoint (introduction.endpointId.getD "") = some e := by
  rw [introducedEndpoint]
  cases env.read (.incoming c :: s.trace) c with
  | error => simp
  | ok data =>
    simp only [Option.bind_eq_some_iff, Except.ok.injEq, exists_and_left, exists_eq_left']
    constructor
    · rintro ⟨introduction, hintro, h⟩
      split at h
      case isTrue hack => exact ⟨introduction, hintro, hack, h⟩
      case isFalse => cases h
    · rintro ⟨introduction, hintro, hack, h⟩
      exact ⟨introduction, hintro, by rw [if_pos hack, h]⟩

theorem getChannelForEndpoint_runUpgradeProtocol (env : Env) (s : World) (e : String)
    (c : ChannelId) (b : Bool) (e' : String) :
    (s.runUpgradeProtocol env e c b).getChannelForEndpoint e' =
      if e' = e ∧ s.getChannelForEndpoint e ≠ none then some c else s.getChannelForEndpoint e' := by
  have hlast : ∀ t : World, (t.processLastWriteToPriorChannelEvent env e).ecm = t.ecm := by
    intro t
    rw [processLastWriteToPriorChannelEvent]
    split
    case h_1 => rfl
    case h_2 => dsimp only; split <;> rfl
  simp only [runUpgradeProtocol]
  have hsame : ((s.setLocalEndpointId c s.client.localEndpointId).pause c).getChannelForEndpoint e =
      s.getChannelForEndpoint e := rfl
  rw [hsame]
  cases hc : s.getChannelForEndpoint e with
  | none => simp; rfl
  | some old =>
    have hecm : ∀ t : World, t.ecm = s.ecm.insert e c →
        t.getChannelForEndpoint e' = if e' = e then some c else s.getChannelForEndpoint e' := by
      intro t ht
      rw [getChannelForEndpoint, ht, HashMap.lookup_insert_eq]
      rfl
    simp only [ne_eq, reduceCtorEq, not_false_eq_true, and_true]
    split
    case isTrue => exact hecm _ rfl
    case isFalse =>
      split
      case isTrue => exact hecm _ (hlast _)
      case isFalse => exact hecm _ rfl

theorem swaps_iff :
    (∃ e, (s.onIncomingConnection env c).getChannelForEndpoint e ≠ s.getChannelForEndpoint e) ↔
      ∃ e old, s.introducedEndpoint env c = some e ∧ s.getChannelForEndpoint e = some old ∧
        old ≠ c := by
  have hsocket := onIncomingConnection_socket env s c
  generalize s.onIncomingConnection env c = t at hsocket
  cases hsocket with
  | unreadable he | unwritable he | unattributed he =>
    rw [he]
    exact iff_of_false (fun ⟨_, h⟩ => h rfl) (by simp)
  | attributed e b he =>
    have hsame : ∀ e', ((s.acknowledged env c).cancelRetryUpgradeAlarm e).getChannelForEndpoint e' =
        s.getChannelForEndpoint e' := fun _ => rfl
    simp only [getChannelForEndpoint_runUpgradeProtocol, hsame, he, Option.some.injEq]
    constructor
    · rintro ⟨e', h⟩
      split at h
      case isFalse => exact absurd rfl h
      case isTrue hreg =>
        obtain ⟨rfl, hreg⟩ := hreg
        obtain ⟨old, hold⟩ := Option.ne_none_iff_exists'.mp hreg
        exact ⟨e', old, rfl, hold, fun heq => h (by rw [hold, heq])⟩
    · rintro ⟨e', old, rfl, hold, hne⟩
      refine ⟨e, ?_⟩
      rw [if_pos ⟨rfl, by simp [hold]⟩, hold]
      exact fun h => hne (Option.some.inj h).symm

/-- A socket replaces a channel on nothing but a validated introduction, unless its introduction
comes in a frame of another type. -/
theorem swap_needs_introduction (env : Env) (s : World) (c : ChannelId) :
    ((∃ e, (s.onIncomingConnection env c).getChannelForEndpoint e ≠ s.getChannelForEndpoint e) →
        ∃ data, env.read (.incoming c :: s.trace) c = .ok data ∧
          ValidIntroduction env.prost data) ↔ ¬ s.Misled env c := by
  rw [swaps_iff]
  constructor
  · rintro h ⟨data, introduction, e, old, hread, hdis, hack, he, hold, hne⟩
    have hswap := introducedEndpoint_eq_some.mpr ⟨data, introduction, hread,
      disguised_decodes hdis, hack, he⟩
    obtain ⟨data', hread', hvalid⟩ := h ⟨e, old, hswap, hold, hne⟩
    cases hread.symm.trans hread'
    exact not_validIntroduction hdis hvalid
  · rintro hok ⟨e, old, hswap, hold, hne⟩
    obtain ⟨data, introduction, hread, hintro, hack, he⟩ := introducedEndpoint_eq_some.mp hswap
    refine ⟨data, hread, ?_⟩
    rcases validIntroduction_or_disguised hintro with hvalid | hdis
    · exact hvalid
    · exact absurd ⟨data, introduction, e, old, hread, hdis, hack, he, hold, hne⟩ hok

/-- A KEEP_ALIVE by its type, with an introduction in it that names nobody. -/
def keepAliveWithIntroduction : OfflineFrame :=
  encodeV1 .keepAlive fun v1 =>
    { v1 with
      bandwidthUpgradeNegotiation := some {
        eventType := some EventType.clientIntroduction.number, clientIntroduction := some {} } }

def keepAliveWithIntroductionBytes : Bytes := [8, 1, 18, 8, 8, 5, 42, 4, 8, 4, 26, 0]

def masquerade : Env :=
  { reliable with
    prost := .knowing keepAliveWithIntroduction keepAliveWithIntroductionBytes
    read := fun _ _ => .ok keepAliveWithIntroductionBytes }

def offeredToE : World :=
  (World.new {} [.wifiLan] "L").after masquerade 3
    (connect "E" 0 ++ [.initiateBwuForEndpoint "E" .wifiLan])

theorem swap_without_introduction :
    Reachable masquerade offeredToE ∧ offeredToE.getChannelForEndpoint "E" = some 0 ∧
      (offeredToE.onIncomingConnection masquerade 1).getChannelForEndpoint "E" = some 1 ∧
      ¬ ∃ data, masquerade.read (.incoming 1 :: offeredToE.trace) 1 = .ok data ∧
        ValidIntroduction masquerade.prost data := by
  refine ⟨reachable_after _ _ _ _ _, by decide, by decide, ?_⟩
  rintro ⟨data, hread, frame, bwu, introduction, hframe, htype, -⟩
  cases hread
  cases hframe
  revert htype
  decide

end World

end Nearby.Bwu
