import Nearby.Bwu.Manager
import Nearby.Wire.Offers

/-! The control frames: each is accepted by the peer, has the type it is meant to have and
carries what it was built from, and the two readers of a new channel tell them apart. -/

namespace Nearby.Bwu

open Proto Validator

inductive ControlFrame : Type
  | bwuFailure (info : UpgradePathInfo)
  | bwuLastWrite
  | bwuSafeToClose
  | bwuIntroduction (endpointId lastEndpointId : String) (supportsDisablingEncryption : Bool)
  | bwuIntroductionAck
  | bwuPathRequest (medium : Medium) (mediums : List Medium) (mediumRole : MediumRole)
  | disconnection (requestSafeToDisconnect ackSafeToDisconnect : Bool)
  | keepAlive
  | keepAliveAck (ack : Bool) (seqNum : UInt32)
  | connectionResponse (status : Int32) (osInfo : OsInfo) (safeToDisconnectVersion : Int32)
  | payloadAck (payloadId : Int64)

namespace ControlFrame

def frame : ControlFrame → OfflineFrame
  | bwuFailure info => forBwuFailure info
  | bwuLastWrite => forBwuLastWrite
  | bwuSafeToClose => forBwuSafeToClose
  | bwuIntroduction id last disabling => forBwuIntroduction id last disabling
  | bwuIntroductionAck => forBwuIntroductionAck
  | bwuPathRequest medium mediums role => forBwuPathRequest medium mediums role
  | disconnection request ack => forDisconnection request ack
  | keepAlive => forKeepAlive
  | keepAliveAck ack seqNum => forKeepAliveAck ack seqNum
  | connectionResponse status osInfo version => forConnectionResponse status osInfo version
  | payloadAck id => forPayloadAckPayloadTransfer id

def frameType : ControlFrame → V1.FrameType
  | bwuFailure _ | bwuLastWrite | bwuSafeToClose | bwuIntroduction _ _ _ | bwuIntroductionAck
  | bwuPathRequest _ _ _ => .bandwidthUpgradeNegotiation
  | disconnection _ _ => .disconnection
  | keepAlive | keepAliveAck _ _ => .keepAlive
  | connectionResponse _ _ _ => .connectionResponse
  | payloadAck _ => .payloadTransfer

def introduction : ControlFrame → Option ClientIntroduction
  | bwuIntroduction id last disabling => some {
      endpointId := some id
      supportsDisablingEncryption := some disabling
      lastEndpointId := if last = "" then none else some last }
  | _ => none

def Negotiates (f : OfflineFrame) (event : EventType)
    (p : BandwidthUpgradeNegotiationFrame → Prop) : Prop :=
  ∃ sub, f.v1.bind (·.bandwidthUpgradeNegotiation) = some sub ∧
    sub.eventType = some event.number ∧ p sub

/-- The sub-message of `f` holds the arguments of the builder. -/
def CarriedBy (f : OfflineFrame) : ControlFrame → Prop
  | bwuFailure info => Negotiates f .upgradeFailure fun sub => sub.upgradePathInfo = some info
  | bwuLastWrite => Negotiates f .lastWriteToPriorChannel fun _ => True
  | bwuSafeToClose => Negotiates f .safeToClosePriorChannel fun _ => True
  | bwuIntroduction id last disabling => Negotiates f .clientIntroduction fun sub =>
      ∃ x, sub.clientIntroduction = some x ∧ x.endpointId = some id ∧
        x.supportsDisablingEncryption = some disabling ∧
        (last = "" → x.lastEndpointId = none) ∧ (last ≠ "" → x.lastEndpointId = some last)
  | bwuIntroductionAck => Negotiates f .clientIntroductionAck fun _ => True
  | bwuPathRequest medium mediums role => Negotiates f .upgradePathRequest fun sub =>
      ∃ info request metadata, sub.upgradePathInfo = some info ∧
        info.medium = some (mediumToUpgradePathInfoMedium medium).number ∧
        info.upgradePathRequest = some request ∧
        request.mediums = mediums.map (fun m => (mediumToUpgradePathInfoMedium m).number) ∧
        request.mediumMetaData = some metadata ∧ metadata.mediumRole = some role
  | disconnection request ack => ∃ sub, f.v1.bind (·.disconnection) = some sub ∧
      sub.requestSafeToDisconnect = some request ∧ sub.ackSafeToDisconnect = some ack
  | keepAlive => f.v1.bind (·.keepAlive) = some {}
  | keepAliveAck ack seqNum => ∃ sub, f.v1.bind (·.keepAlive) = some sub ∧
      sub.ack = some ack ∧ sub.seqNum = some seqNum
  | connectionResponse status osInfo version => ∃ sub, f.v1.bind (·.connectionResponse) = some sub ∧
      sub.status = some status ∧ sub.osInfo = some osInfo ∧
      sub.safeToDisconnectVersion = some version
  | payloadAck id => ∃ sub header, f.v1.bind (·.payloadTransfer) = some sub ∧
      sub.packetType = some PayloadTransfer.PacketType.payloadAck.number ∧
      sub.payloadHeader = some header ∧ header.id = some id

theorem frameType_frame (x : ControlFrame) : getFrameType x.frame = x.frameType := by
  cases x <;> rfl

theorem valid (x : ControlFrame) : ensureValidOfflineFrame x.frame = .success := by
  cases x <;> rfl

theorem carriedBy_frame (x : ControlFrame) : CarriedBy x.frame x := by
  cases x with
  | bwuFailure info => exact ⟨_, rfl, rfl, rfl⟩
  | bwuLastWrite | bwuSafeToClose | bwuIntroductionAck => exact ⟨_, rfl, rfl, trivial⟩
  | bwuIntroduction id last disabling =>
    exact ⟨_, rfl, rfl, _, rfl, rfl, rfl, fun h => if_pos h, fun h => if_neg h⟩
  | bwuPathRequest medium mediums role =>
    exact ⟨_, rfl, rfl, _, _, _, rfl, rfl, rfl, rfl, rfl, rfl⟩
  | disconnection request ack => exact ⟨_, rfl, rfl, rfl⟩
  | keepAlive => exact rfl
  | keepAliveAck ack seqNum => exact ⟨_, rfl, rfl, rfl⟩
  | connectionResponse status osInfo version => exact ⟨_, rfl, rfl, rfl, rfl⟩
  | payloadAck id => exact ⟨_, _, rfl, rfl, rfl, rfl⟩

theorem decodeClientIntroduction_frame {P : Prost} {x : ControlFrame}
    (h : P.fromBytes (P.encode x.frame) = .ok x.frame) :
    World.decodeClientIntroduction P (P.encode x.frame) = x.introduction := by
  rw [World.decodeClientIntroduction, h]
  cases x <;> rfl

theorem event_frame (x : ControlFrame) :
    (x.frame.v1.bind (·.bandwidthUpgradeNegotiation)).bind (·.eventType) =
      some EventType.clientIntroductionAck.number ↔ x = bwuIntroductionAck := by
  cases x with
  | bwuIntroductionAck => exact iff_of_true rfl rfl
  | bwuFailure | bwuLastWrite | bwuSafeToClose | bwuIntroduction | bwuPathRequest =>
    exact iff_of_false (fun h => absurd (Option.some.inj h) (by decide)) nofun
  | disconnection | keepAlive | keepAliveAck | connectionResponse | payloadAck =>
    exact iff_of_false nofun nofun

/-- The peer understands every control frame: it accepts the bytes, sees the type and reads the
arguments back, and only an introduction and only an ack is taken for one. -/
theorem understood {P : Prost} {x : ControlFrame}
    (hP : P.decode (P.encode x.frame) = some x.frame) :
    ∃ f, P.fromBytes (P.encode x.frame) = .ok f ∧ getFrameType f = x.frameType ∧ CarriedBy f x ∧
      ∀ (env : Env) (s : World) (c : ChannelId), env.prost = P →
        env.read s.trace c = .ok (P.encode x.frame) →
        (s.readClientIntroductionFrame env c).1 = x.introduction ∧
          ((s.readClientIntroductionAckFrame env c).1 = true ↔ x = bwuIntroductionAck) := by
  have hok : P.fromBytes (P.encode x.frame) = .ok x.frame :=
    Prost.fromBytes_of_decode hP x.valid
  refine ⟨x.frame, hok, x.frameType_frame, x.carriedBy_frame, ?_⟩
  rintro env s c rfl hread
  have hread' : (s.read env c).1 = .ok (env.prost.encode x.frame) := hread
  constructor
  · simp only [World.readClientIntroductionFrame, hread']
    exact decodeClientIntroduction_frame hok
  · simp only [World.readClientIntroductionAckFrame, hread', hok, decide_eq_true_eq]
    exact x.event_frame

def renamedIntroduction : ControlFrame := .bwuIntroduction "AB12" "CD34" true

def introductionBytes : Bytes :=
  [8, 1, 18, 22, 8, 4, 42, 18, 8, 4, 26, 14, 10, 4, 65, 66, 49, 50, 16, 1, 26, 4, 67, 68, 51, 52]

theorem understood_introduction :
    ∃ f, (Prost.knowing renamedIntroduction.frame introductionBytes).fromBytes introductionBytes =
        .ok f ∧ CarriedBy f renamedIntroduction ∧
      ∀ (env : Env) (s : World) (c : ChannelId),
        env.prost = .knowing renamedIntroduction.frame introductionBytes →
        env.read s.trace c = .ok introductionBytes →
        (s.readClientIntroductionFrame env c).1 = some {
          endpointId := some "AB12"
          supportsDisablingEncryption := some true
          lastEndpointId := some "CD34" } := by
  obtain ⟨f, hf, -, hcarried, hread⟩ :=
    @understood (.knowing renamedIntroduction.frame introductionBytes) renamedIntroduction
      (Prost.decode_encode_knowing _ _)
  rw [Prost.encode_knowing] at hf hread
  exact ⟨f, hf, hcarried, fun env s c henv hbytes => (hread env s c henv hbytes).1⟩

end ControlFrame

end Nearby.Bwu
