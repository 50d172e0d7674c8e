import Nearby.Bwu.Peer

/-! Two managers upgrade the channel between them.  The old channel is a queue of frames each
way, the new one a link over which the responder introduces itself and the initiator may
acknowledge; deliveries and the incoming connection come in any order.  The pair of managers
follows the handshake of `Nearby.Swap`. -/

namespace Nearby.Bwu

open Proto Lib Relation

/-- One manager of the two: its world, what is on the way to it on the old channel and on the
new one, the frames it was given, and the calls it made since the start, newest first. -/
structure Node where
  world : World
  old : List Payload := []
  new : List Payload := []
  heard : List OfflineFrame := []
  log : List Event := []

def fresh (s t : World) : List Event := t.trace.take (t.trace.length - s.trace.length)

/-- Writes succeed, and a read takes what is next on the way to the node.  No operation reads
a channel twice. -/
def Side.online (P : Prost) (x : Side) (n : Node) : Env :=
  { x.env with
    prost := P
    write := fun _ _ _ => .success
    read := fun _ c =>
      match (if c = x.old then n.old else n.new).head? with
      | some data => .ok (data.bytes P)
      | none => .error .noData }

namespace Node

def take (n : Node) (q : List Payload) (frame : OfflineFrame) : Node :=
  { n with old := q, heard := n.heard ++ [frame] }

def proceed (x : Side) (n : Node) (t : World) : Node :=
  { n with
    world := t
    old := n.old.drop (readsOn x.old (fresh n.world t))
    new := n.new.drop (readsOn x.new (fresh n.world t))
    log := fresh n.world t ++ n.log }

def receive (peer : Side) (n : Node) (s t : World) : Node :=
  { n with
    old := n.old ++ sentOn peer.old (fresh s t)
    new := n.new ++ sentOn peer.new (fresh s t) }

end Node

/-- Both managers, the incoming connection the initiator has not taken yet, and the offer the
responder is in the middle of, with the channel it dialled for it. -/
structure Net where
  initiator : Node
  responder : Node
  incoming : Bool := false
  dialled : Option (UpgradePathInfo × ChannelId) := none

def Dials (env : Env) (w : World) (frame : OfflineFrame) (e : String) : Prop :=
  ∃ info c t, eventOf frame = some (.upgradePathAvailable, some info) ∧
    w.client.isConnectedToEndpoint e = true ∧ w.beginPathAvailable env e info = .dialled c t

namespace Net

def start (I : Side) (s s' r : World) : Net where
  initiator := Node.proceed I { world := s } s'
  responder := Node.receive I { world := r } s s'

/-- An offer that makes the responder dial is handled in two steps, and nothing else is
delivered to the responder between them; with an ack announced the second waits for it. -/
inductive Step (P : Prost) (I R : Side) : Net → Net → Prop
  | frameToInitiator {n : Net} {data : Payload} {q : List Payload} {frame : OfflineFrame}
      {fuel : Nat} {t : World} : n.initiator.old = data :: q →
      P.fromBytes (data.bytes P) = .ok frame →
      n.initiator.world.onIncomingFrame (I.online P (n.initiator.take q frame)) fuel frame I.peer =
        .ok t →
      Step P I R n
        { n with
          initiator := (n.initiator.take q frame).proceed I t
          responder := n.responder.receive I n.initiator.world t }
  | frameToResponder {n : Net} {data : Payload} {q : List Payload} {frame : OfflineFrame}
      {fuel : Nat} {t : World} : n.dialled = none → n.responder.old = data :: q →
      P.fromBytes (data.bytes P) = .ok frame →
      ¬ Dials (R.online P (n.responder.take q frame)) n.responder.world frame R.peer →
      n.responder.world.onIncomingFrame (R.online P (n.responder.take q frame)) fuel frame R.peer =
        .ok t →
      Step P I R n
        { n with
          initiator := n.initiator.receive R n.responder.world t
          responder := (n.responder.take q frame).proceed R t }
  | offerToResponder {n : Net} {data : Payload} {q : List Payload} {frame : OfflineFrame}
      {info : UpgradePathInfo} {c : ChannelId} {t : World} : n.dialled = none →
      n.responder.old = data :: q → P.fromBytes (data.bytes P) = .ok frame →
      eventOf frame = some (.upgradePathAvailable, some info) →
      n.responder.world.client.isConnectedToEndpoint R.peer = true →
      n.responder.world.beginPathAvailable (R.online P (n.responder.take q frame)) R.peer info =
        .dialled c t →
      Step P I R n
        { initiator := n.initiator.receive R n.responder.world t
          responder := (n.responder.take q frame).proceed R t
          incoming := true
          dialled := some (info, c) }
  | socket {n : Net} {t : World} : n.incoming = true →
      n.initiator.world.onIncomingConnection (I.online P n.initiator) I.new = t →
      Step P I R n
        { n with
          initiator := n.initiator.proceed I t
          responder := n.responder.receive I n.initiator.world t
          incoming := false }
  | finish {n : Net} {info : UpgradePathInfo} {c : ChannelId} {t : World} :
      n.dialled = some (info, c) →
      (info.supportsClientIntroductionAck.getD false = true → n.responder.new ≠ []) →
      n.responder.world.finishPathAvailable (R.online P n.responder) R.peer info c = t →
      Step P I R n
        { n with
          initiator := n.initiator.receive R n.responder.world t
          responder := n.responder.proceed R t
          dialled := none }

end Net

def Side.spoken (R : Side) (r : World) (info : UpgradePathInfo) : List OfflineFrame :=
  [forBwuLastWrite, forBwuSafeToClose, forDisconnection false false, forBwuIntroductionAck,
    R.introduction r info]

/-- What the handshake starts from: the initiator's request passes its guards and its handler
has an offer to make; the responder takes it up, has a handler that dials, and introduces
itself under the name the initiator knows it by; neither has an upgrade behind it. -/
structure Ready (P : Prost) (I R : Side) (m : Medium) (offer : OfflineFrame)
    (info : UpgradePathInfo) (bytes : Bytes) (s r : World) : Prop where
  codec : ∀ f ∈ R.spoken r info, P.decode (P.encode f) = some f
  initiatorLinks : I.old ≠ I.new
  responderLinks : R.old ≠ R.new
  initiator : I.Stands .idle s
  passes : s.InitiatePasses (I.online P { world := s }) I.peer m
  handles : I.env.handleInitialize (s.prepared I.peer m).trace m
    (wrapInitiatorUpgradeServiceId (I.env.serviceId I.old)) I.peer = bytes
  offers : bytes ≠ []
  parses : P.fromBytes bytes = .ok offer
  event : eventOf offer = some (.upgradePathAvailable, some info)
  medium : upiMedium info = m
  responder : R.Stands .idle r
  accepts : r.Accepts R.env R.peer info
  unset : r.getBwuMediumForEndpoint R.peer = .unknownMedium
  handler : r.hasHandlerForMedium m = true
  creates : R.env.createUpgraded r.trace m (R.env.serviceId R.old) R.peer info = some R.new
  named : r.client.localEndpointId = I.peer

/-! ### One node follows one party -/

structure Node.Follows (x : Side) (offer : OfflineFrame) (bytes : Bytes) (n : Node)
    (p : Swap.Party) : Prop where
  stands : x.Stands p.stage n.world
  old : n.old = p.inbox.map (messagePayload bytes)
  heard : n.heard = p.heard.map (messageFrame offer)
  log : x.Through n.log → p.stage = .upgraded
  done : p.stage = .upgraded →
    .closeWithReason x.old .upgraded ∈ n.log ∧ .resume x.new ∈ n.log

theorem fresh_eq {s t : World} {xs : List Event} (h : t.trace = xs ++ s.trace) :
    fresh s t = xs := by
  rw [fresh, h, List.length_append, Nat.add_sub_cancel, List.take_left']
  rfl

namespace Node

variable {x : Side} {offer : OfflineFrame} {bytes : Bytes} {n : Node} {p : Swap.Party}
  {stage : Swap.Stage} {onOld onNew : List Payload} {drained taken : Nat} {t : World}

theorem Follows.proceed (h : n.Follows x offer bytes p)
    (hp : x.Passage n.world p.stage stage onOld onNew drained taken t)
    (hstage : p.stage = .upgraded → stage = .upgraded) :
    (n.proceed x t).Follows x offer bytes { p with stage := stage, inbox := p.inbox.drop drained } ∧
      (n.proceed x t).new = n.new.drop taken := by
  obtain ⟨xs, htrace, -, -, hd, ht, hthrough, hdone⟩ := hp.calls
  have hf := fresh_eq htrace
  refine ⟨⟨hp.stands, ?_, h.heard, ?_, ?_⟩, ?_⟩
  · rw [Node.proceed, hf, hd, h.old, List.map_drop]
  · intro hx
    rw [Node.proceed, hf] at hx
    rcases Side.through_append.mp hx with hx | hx
    · exact hthrough hx
    · exact hstage (h.log hx)
  · intro hup
    simp only [Node.proceed, hf, List.mem_append]
    rcases hdone hup with hup | ⟨hclose, hresume⟩
    · exact ⟨.inr (h.done hup).1, .inr (h.done hup).2⟩
    · exact ⟨.inl hclose, .inl hresume⟩
  · rw [Node.proceed, hf, ht]

theorem Follows.receive {peer : Side} {s : World} {stage' : Swap.Stage}
    (h : n.Follows x offer bytes p) (ks : List Swap.Message)
    (hp : peer.Passage s stage stage' (ks.map (messagePayload bytes)) onNew drained taken t) :
    (n.receive peer s t).Follows x offer bytes (p.get ks) ∧
      (n.receive peer s t).new = n.new ++ onNew := by
  obtain ⟨xs, htrace, hold, hnew, -⟩ := hp.calls
  have hf := fresh_eq htrace
  refine ⟨⟨h.stands, ?_, h.heard, h.log, h.done⟩, ?_⟩
  · rw [Node.receive, hf, hold, h.old, Swap.Party.get, List.map_append]
  · rw [Node.receive, hf, hnew]

theorem Follows.take (h : n.Follows x offer bytes p) (k : Swap.Message) (q : List Swap.Message) :
    (n.take (q.map (messagePayload bytes)) (messageFrame offer k)).Follows x offer bytes
      { p with inbox := q, heard := p.heard ++ [k] } := by
  refine ⟨h.stands, rfl, ?_, h.log, h.done⟩
  rw [Node.take, h.heard, List.map_append]
  rfl

theorem Follows.hear (P : Prost) (hne : x.old ≠ x.new) (h : n.Follows x offer bytes p)
    {k : Swap.Message} (hk : k ≠ .offer) (q : List Swap.Message) (fuel : Nat) :
    ∃ t, n.world.onIncomingFrame
        (x.online P (n.take (q.map (messagePayload bytes)) (messageFrame offer k))) fuel
        (messageFrame offer k) x.peer = .ok t ∧
      x.Passage n.world p.stage (p.stage.hear k).1
        ((p.stage.hear k).2.map (messagePayload bytes)) [] (p.stage.drains k) 0 t ∧
      ((n.take (q.map (messagePayload bytes)) (messageFrame offer k)).proceed x t).Follows
        x offer bytes (p.take k q) ∧
      ((n.take (q.map (messagePayload bytes)) (messageFrame offer k)).proceed x t).new = n.new := by
  obtain ⟨t, ht, hp⟩ := @Side.Stands.hear x p.stage n.world
    (x.online P (n.take (q.map (messagePayload bytes)) (messageFrame offer k))) fuel
    (fun _ _ _ => rfl) hne h.stands k hk offer bytes
  have hstage : p.stage = .upgraded → (p.stage.hear k).1 = .upgraded := by
    intro hup
    rw [hup]
    rfl
  exact ⟨t, ht, hp, (h.take k q).proceed hp hstage⟩

end Node

/-! ### The net follows the pair -/

theorem Ready.fromBytes_message {P : Prost} {I R : Side} {m : Medium} {offer : OfflineFrame}
    {info : UpgradePathInfo} {bytes : Bytes} {s r : World} (hr : Ready P I R m offer info bytes s r)
    (k : Swap.Message) :
    P.fromBytes ((messagePayload bytes k).bytes P) = .ok (messageFrame offer k) := by
  cases k with
  | offer => exact hr.parses
  | lastWrite | safeToClose | disconnection =>
    exact Prost.fromBytes_of_decode (hr.codec _ (by simp [Side.spoken, messageFrame])) rfl

theorem Ready.introduces {P : Prost} {I R : Side} {m : Medium} {offer : OfflineFrame}
    {info : UpgradePathInfo} {bytes : Bytes} {s r : World}
    (hr : Ready P I R m offer info bytes s r) :
    ∃ introduction, World.decodeClientIntroduction P (P.encode (R.introduction r info)) =
      some introduction ∧ introduction.endpointId = some I.peer := by
  have hparse := Prost.fromBytes_of_decode
    (hr.codec (R.introduction r info) (by simp [Side.spoken])) rfl
  have hdecode : World.decodeClientIntroduction P (P.encode (R.introduction r info)) =
      (some (R.introduction r info)).bind fun frame =>
        (frame.v1.bind (·.bandwidthUpgradeNegotiation)).bind (·.clientIntroduction) := by
    simp only [World.decodeClientIntroduction, hparse]
    rfl
  exact ⟨_, hdecode, congrArg some hr.named⟩

theorem eventOf_message (offer : OfflineFrame) {k : Swap.Message} (hk : k ≠ .offer)
    (info : UpgradePathInfo) :
    eventOf (messageFrame offer k) ≠ some (.upgradePathAvailable, some info) := by
  cases k with
  | offer => exact absurd rfl hk
  | lastWrite =>
    rw [messageFrame, eventOf_forBwuLastWrite]
    nofun
  | safeToClose =>
    rw [messageFrame, eventOf_forBwuSafeToClose]
    nofun
  | disconnection => simp [messageFrame, eventOf]

structure Net.Follows (I R : Side) (offer : OfflineFrame) (info : UpgradePathInfo) (bytes : Bytes)
    (r : World) (n : Net) (s : Swap.Pair) : Prop where
  initiator : n.initiator.Follows I offer bytes s.initiator
  responder : n.responder.Follows R offer bytes s.responder
  idle : s.responder.stage = .idle → n.responder.world = r ∧ n.initiator.new = []
  dialled : n.dialled = if s.responder.stage = .dialled then some (info, R.new) else none
  incoming : n.incoming = true ↔ s.initiator.stage.isOffered = true ∧ s.responder.stage ≠ .idle
  greeting : n.incoming = true → n.initiator.new = [.frame (R.introduction r info)]
  ack : s.responder.stage = .idle ∨ s.responder.stage = .dialled →
    n.responder.new = if s.initiator.stage.isOffered then [] else [.frame forBwuIntroductionAck]

namespace Net

variable {P : Prost} {I R : Side} {m : Medium} {offer : OfflineFrame} {info : UpgradePathInfo}
  {bytes : Bytes} {s r : World} {n : Net} {j : Swap.Pair}

theorem Follows.toInitiator (hr : Ready P I R m offer info bytes s r)
    (h : n.Follows I R offer info bytes r j) (hj : j.Sound) {k : Swap.Message}
    {q : List Swap.Message} (hq : j.initiator.inbox = k :: q) (fuel : Nat) :
    ∃ t, n.initiator.world.onIncomingFrame
        (I.online P (n.initiator.take (q.map (messagePayload bytes)) (messageFrame offer k))) fuel
        (messageFrame offer k) I.peer = .ok t ∧
      Follows I R offer info bytes r
        { n with
          initiator :=
            (n.initiator.take (q.map (messagePayload bytes)) (messageFrame offer k)).proceed I t
          responder := n.responder.receive I n.initiator.world t }
        ⟨j.initiator.take k q, j.responder.get (j.initiator.stage.hear k).2⟩ := by
  have hk : k ≠ .offer := hj.initiator.ne_offer hq fun _ => rfl
  obtain ⟨t, ht, hp, hfollows, hnew⟩ := h.initiator.hear P hr.initiatorLinks hk q fuel
  obtain ⟨hreceive, hrnew⟩ := h.responder.receive _ hp
  refine ⟨t, ht, hfollows, hreceive, ?_, h.dialled, ?_, ?_, ?_⟩
  · intro hidle
    exact ⟨(h.idle hidle).1, hnew.trans (h.idle hidle).2⟩
  · rw [Swap.Party.take, Swap.Stage.isOffered_hear]
    exact h.incoming
  · intro hin
    rw [hnew]
    exact h.greeting hin
  · intro hstage
    rw [hrnew, List.append_nil, Swap.Party.take, Swap.Stage.isOffered_hear]
    exact h.ack hstage

theorem Follows.toResponder (hr : Ready P I R m offer info bytes s r)
    (h : n.Follows I R offer info bytes r j) (hj : j.Sound) {k : Swap.Message}
    {q : List Swap.Message} (hq : j.responder.inbox = k :: q) (hidle : j.responder.stage ≠ .idle)
    (hdialled : j.responder.stage ≠ .dialled) (fuel : Nat) :
    k ≠ .offer ∧ ∃ t, n.responder.world.onIncomingFrame
        (R.online P (n.responder.take (q.map (messagePayload bytes)) (messageFrame offer k))) fuel
        (messageFrame offer k) R.peer = .ok t ∧
      Follows I R offer info bytes r
        { n with
          initiator := n.initiator.receive R n.responder.world t
          responder :=
            (n.responder.take (q.map (messagePayload bytes)) (messageFrame offer k)).proceed R t }
        ⟨j.initiator.get (j.responder.stage.hear k).2, j.responder.take k q⟩ := by
  have hk : k ≠ .offer := hj.responder.ne_offer hq fun hi => absurd hi hidle
  obtain ⟨t, ht, hp, hfollows, hnew⟩ := h.responder.hear P hr.responderLinks hk q fuel
  obtain ⟨hreceive, hinew⟩ := h.initiator.receive _ hp
  have hstage := Swap.Stage.hear_moving hidle hdialled k
  refine ⟨hk, t, ht, hreceive, hfollows, fun hi => absurd hi hstage.1, ?_, ?_, ?_, ?_⟩
  · rw [Swap.Party.take, if_neg hstage.2, h.dialled, if_neg hdialled]
  · rw [h.incoming, Swap.Party.take]
    simp [hidle, hstage.1, Swap.Party.get]
  · intro hin
    rw [hinew, List.append_nil]
    exact h.greeting hin
  · intro hi
    exact absurd hi (not_or.mpr hstage)

theorem Follows.offerToResponder (hr : Ready P I R m offer info bytes s r)
    (h : n.Follows I R offer info bytes r j) (hj : j.Sound) {k : Swap.Message}
    {q : List Swap.Message} (hq : j.responder.inbox = k :: q) (hidle : j.responder.stage = .idle) :
    k = .offer ∧ ∃ t, n.responder.world.beginPathAvailable
        (R.online P (n.responder.take (q.map (messagePayload bytes)) offer)) R.peer info =
          .dialled R.new t ∧
      Follows I R offer info bytes r
        { initiator := n.initiator.receive R n.responder.world t
          responder := (n.responder.take (q.map (messagePayload bytes)) offer).proceed R t
          incoming := true
          dialled := some (info, R.new) }
        ⟨j.initiator.get (j.responder.stage.hear k).2, j.responder.take k q⟩ := by
  obtain ⟨p, ⟨stage, inbox, heard⟩⟩ := j
  dsimp only at hq hidle
  subst hq hidle
  obtain ⟨drained, hflow, hheard⟩ := hj.responder
  rw [hheard.1, hheard.2] at hflow
  obtain rfl : k = .offer := (List.cons.inj hflow).1
  obtain ⟨hworld, hnone⟩ := h.idle rfl
  obtain ⟨b, hb⟩ := hj.dialled rfl
  dsimp only at hb
  have hacc := hr.accepts
  obtain ⟨t, hbegin, hpass⟩ := @Side.Stands.dial R n.responder.world
    (R.online P (n.responder.take (q.map (messagePayload bytes)) offer)) (fun _ _ _ => rfl)
    hr.responderLinks h.responder.stands info
    (hworld ▸ ⟨hacc.connected, hacc.allowed, hacc.outgoing, hacc.idle⟩) (hworld ▸ hr.unset)
    (hworld ▸ hr.medium ▸ hr.handler) (hworld ▸ hr.medium ▸ hr.creates)
  obtain ⟨hfollows, hrnew⟩ := (h.responder.take .offer q).proceed hpass nofun
  obtain ⟨hreceive, hinew⟩ := h.initiator.receive [] hpass
  refine ⟨rfl, t, hbegin, hreceive, hfollows, nofun, rfl, ?_, ?_, ?_⟩
  · simp [Swap.Party.take, Swap.Party.get, Swap.Stage.hear, hb, Swap.Stage.isOffered]
  · intro _
    rw [hinew, hnone, hworld]
    rfl
  · intro _
    exact hrnew.trans (h.ack (.inl rfl))

theorem Follows.socket (hr : Ready P I R m offer info bytes s r)
    (h : n.Follows I R offer info bytes r j) {b : Bool} (hb : j.initiator.stage = .offered b)
    (hd : j.responder.stage ≠ .idle) {t : World}
    (ht : n.initiator.world.onIncomingConnection (I.online P n.initiator) I.new = t) :
    Follows I R offer info bytes r
      { n with
        initiator := n.initiator.proceed I t
        responder := n.responder.receive I n.initiator.world t
        incoming := false }
      ⟨{ j.initiator with stage := .swapped b }, j.responder.get (Swap.Stage.swapped b).said⟩ := by
  have hin : n.incoming = true := h.incoming.mpr ⟨by rw [hb]; rfl, hd⟩
  have hread : ∀ trace, (I.online P n.initiator).read trace I.new =
      .ok (P.encode (R.introduction r info)) := by
    intro trace
    simp [Side.online, hr.initiatorLinks.symm, h.greeting hin, Payload.bytes]
  obtain ⟨introduction, hdecode, hid⟩ := hr.introduces
  obtain ⟨⟨stage, inbox, heard⟩, p⟩ := j
  dsimp only at hb
  subst hb ht
  have hpass := @Side.Stands.socket I n.initiator.world (I.online P n.initiator) b
    (fun _ _ _ => rfl) hr.initiatorLinks h.initiator.stands _ introduction hread hdecode hid bytes
  obtain ⟨hfollows, hinew⟩ := h.initiator.proceed hpass nofun
  obtain ⟨hreceive, hrnew⟩ := h.responder.receive _ hpass
  refine ⟨hfollows, hreceive, fun hidle => absurd hidle hd, h.dialled, ?_, nofun, ?_⟩
  · simp [Swap.Stage.isOffered]
  · intro hstage
    rw [hrnew, h.ack hstage]
    rfl

theorem Follows.finish (hr : Ready P I R m offer info bytes s r)
    (h : n.Follows I R offer info bytes r j) (hd : j.responder.stage = .dialled)
    (hack : info.supportsClientIntroductionAck.getD false = true →
      j.initiator.stage.isOffered = false) {t : World}
    (ht : n.responder.world.finishPathAvailable (R.online P n.responder) R.peer info R.new = t) :
    Follows I R offer info bytes r
      { n with
        initiator := n.initiator.receive R n.responder.world t
        responder := n.responder.proceed R t
        dialled := none }
      ⟨j.initiator.get [.lastWrite], { j.responder with stage := .swapped false }⟩ := by
  obtain ⟨p, ⟨stage, inbox, heard⟩⟩ := j
  dsimp only at hd hack
  subst hd ht
  have hparse :=
    Prost.fromBytes_of_decode (hr.codec forBwuIntroductionAck (by simp [Side.spoken])) rfl
  have hpass := @Side.Stands.finish R n.responder.world (R.online P n.responder)
    (fun _ _ _ => rfl) hr.responderLinks h.responder.stands info ?_
  · obtain ⟨hfollows, -⟩ := h.responder.proceed hpass nofun
    obtain ⟨hreceive, hinew⟩ := h.initiator.receive [.lastWrite] hpass
    refine ⟨hreceive, hfollows, nofun, rfl, ?_, ?_, nofun⟩
    · rw [h.incoming]
      simp [Swap.Party.get]
    · intro hin
      rw [hinew, List.append_nil]
      exact h.greeting hin
  · intro ha
    refine ⟨P.encode forBwuIntroductionAck, fun trace => ?_, hparse⟩
    have hnew := h.ack (.inr rfl)
    rw [if_neg (by simp [hack ha])] at hnew
    simp [Side.online, hr.responderLinks.symm, hnew, Payload.bytes]

theorem Follows.start (hr : Ready P I R m offer info bytes s r) {fuel : Nat} {s' : World}
    (hinit : s.initiateBwuForEndpoint (I.online P { world := s }) fuel I.peer m = .ok s') :
    (Net.start I s s' r).Follows I R offer info bytes r Swap.Pair.start := by
  have hpass := hr.initiator.initiate (fun _ _ _ => rfl) hr.initiatorLinks hr.passes hr.offers
    hr.handles hinit
  have hi : Node.Follows I offer bytes { world := s } { stage := .idle } :=
    ⟨hr.initiator, rfl, rfl, nofun, nofun⟩
  have hresp : Node.Follows R offer bytes { world := r } { stage := .idle } :=
    ⟨hr.responder, rfl, rfl, nofun, nofun⟩
  obtain ⟨hfollows, hnew⟩ := hi.proceed hpass nofun
  obtain ⟨hreceive, hrnew⟩ := hresp.receive [.offer] hpass
  exact ⟨hfollows, hreceive, fun _ => ⟨rfl, hnew⟩, rfl, by simp [Net.start, Swap.Pair.start],
    nofun, fun _ => hrnew⟩

theorem next_message {x : Side} {p : Swap.Party} {a : Node} (h : a.Follows x offer bytes p)
    (hr : Ready P I R m offer info bytes s r) {data : Payload} {q : List Payload}
    {frame : OfflineFrame} (hq : a.old = data :: q)
    (hparse : P.fromBytes (data.bytes P) = .ok frame) :
    ∃ k ks, p.inbox = k :: ks ∧ ks.map (messagePayload bytes) = q ∧
      messageFrame offer k = frame := by
  obtain ⟨k, ks, hk, hdata, hks⟩ := List.map_eq_cons_iff.mp (h.old.symm.trans hq)
  refine ⟨k, ks, hk, hks, ?_⟩
  rw [← hdata, hr.fromBytes_message] at hparse
  exact Except.ok.inj hparse

theorem Follows.step (hr : Ready P I R m offer info bytes s r)
    (h : n.Follows I R offer info bytes r j) (hj : j.Sound) {n' : Net} (hst : Step P I R n n') :
    ∃ j', Swap.Pair.Step (info.supportsClientIntroductionAck.getD false) j j' ∧
      n'.Follows I R offer info bytes r j' := by
  cases hst with
  | @frameToInitiator _ _ _ fuel t hq hparse hframe =>
    obtain ⟨k, ks, hinbox, rfl, rfl⟩ := next_message h.initiator hr hq hparse
    obtain ⟨t', ht', hf⟩ := h.toInitiator hr hj hinbox fuel
    cases ht'.symm.trans hframe
    exact ⟨_, .toInitiator hinbox, hf⟩
  | @frameToResponder _ _ _ fuel t hnone hq hparse hdials hframe =>
    obtain ⟨k, ks, hinbox, rfl, rfl⟩ := next_message h.responder hr hq hparse
    have hdialled : j.responder.stage ≠ .dialled := by
      intro hd
      rw [h.dialled, if_pos hd] at hnone
      cases hnone
    by_cases hidle : j.responder.stage = .idle
    · obtain ⟨rfl, t', hbegin, -⟩ := h.offerToResponder hr hj hinbox hidle
      exact absurd ⟨info, _, t', hr.event, h.responder.stands.connected, hbegin⟩ hdials
    · obtain ⟨-, t', ht', hf⟩ := h.toResponder hr hj hinbox hidle hdialled fuel
      cases ht'.symm.trans hframe
      exact ⟨_, .toResponder hdialled hinbox, hf⟩
  | offerToResponder hnone hq hparse hevent hconn hbegin =>
    obtain ⟨k, ks, hinbox, rfl, rfl⟩ := next_message h.responder hr hq hparse
    have hdialled : j.responder.stage ≠ .dialled := by
      intro hd
      rw [h.dialled, if_pos hd] at hnone
      cases hnone
    by_cases hidle : j.responder.stage = .idle
    · obtain ⟨rfl, t', hbegin', hf⟩ := h.offerToResponder hr hj hinbox hidle
      cases hr.event.symm.trans hevent
      cases hbegin'.symm.trans hbegin
      exact ⟨_, .toResponder hdialled hinbox, hf⟩
    · obtain ⟨hk, -⟩ := h.toResponder hr hj hinbox hidle hdialled 0
      exact absurd hevent (eventOf_message offer hk _)
  | socket hin ht =>
    obtain ⟨hoffered, hidle⟩ := h.incoming.mp hin
    obtain ⟨b, hb⟩ : ∃ b, j.initiator.stage = .offered b := by
      revert hoffered
      cases j.initiator.stage <;> simp [Swap.Stage.isOffered]
    exact ⟨_, .socket hb hidle, h.socket hr hb hidle ht⟩
  | finish hd hack ht =>
    rw [h.dialled] at hd
    split at hd
    case isFalse => cases hd
    case isTrue hdialled =>
      cases hd
      have hoffered : info.supportsClientIntroductionAck.getD false = true →
          j.initiator.stage.isOffered = false := by
        intro ha
        have hnew := hack ha
        rw [h.ack (.inr hdialled)] at hnew
        by_contra hoffered
        exact hnew (if_pos (Bool.eq_true_of_not_eq_false hoffered))
      refine ⟨_, .finish hdialled fun ha b hb => ?_, h.finish hr hdialled hoffered ht⟩
      have hfalse := hoffered ha
      rw [hb] at hfalse
      cases hfalse

theorem Follows.progress (hr : Ready P I R m offer info bytes s r)
    (h : n.Follows I R offer info bytes r j) (hj : j.Sound) {j' : Swap.Pair}
    (hst : Swap.Pair.Step (info.supportsClientIntroductionAck.getD false) j j') :
    ∃ n', Step P I R n n' := by
  have hparse := hr.fromBytes_message
  cases hst with
  | @toInitiator k q hq =>
    obtain ⟨t, ht, -⟩ := h.toInitiator hr hj hq 0
    exact ⟨_, .frameToInitiator (by rw [h.initiator.old, hq]; rfl) (hparse k) ht⟩
  | @toResponder k q hdialled hq =>
    have hnone : n.dialled = none := by rw [h.dialled, if_neg hdialled]
    have hold : n.responder.old = messagePayload bytes k :: q.map (messagePayload bytes) := by
      rw [h.responder.old, hq]
      rfl
    by_cases hidle : j.responder.stage = .idle
    · obtain ⟨rfl, t, hbegin, -⟩ := h.offerToResponder hr hj hq hidle
      exact ⟨_, .offerToResponder hnone hold (hparse _) hr.event h.responder.stands.connected
        hbegin⟩
    · obtain ⟨hk, t, ht, -⟩ := h.toResponder hr hj hq hidle hdialled 0
      refine ⟨_, .frameToResponder hnone hold (hparse k) ?_ ht⟩
      rintro ⟨info', _, _, hevent, -⟩
      exact eventOf_message offer hk info' hevent
  | socket hb hidle =>
    exact ⟨_, .socket (h.incoming.mpr ⟨by rw [hb]; rfl, hidle⟩) rfl⟩
  | finish hd hack =>
    refine ⟨_, .finish (by rw [h.dialled, if_pos hd]) (fun ha => ?_) rfl⟩
    have hoffered : j.initiator.stage.isOffered = false := by
      have hne := hack ha
      revert hne
      cases j.initiator.stage <;> simp [Swap.Stage.isOffered]
    rw [h.ack (.inr hd), hoffered]
    simp

theorem reached_follows (hr : Ready P I R m offer info bytes s r) {fuel : Nat} {s' : World}
    (hinit : s.initiateBwuForEndpoint (I.online P { world := s }) fuel I.peer m = .ok s')
    (hn : ReflTransGen (Step P I R) (Net.start I s s' r) n) :
    ∃ j, j.Sound ∧ n.Follows I R offer info bytes r j := by
  induction hn with
  | refl => exact ⟨_, Swap.Pair.sound_start, Follows.start hr hinit⟩
  | tail _ hst ih =>
    obtain ⟨j, hj, hf⟩ := ih
    obtain ⟨j', hst', hf'⟩ := hf.step hr hj hst
    exact ⟨j', hj.step hst', hf'⟩

theorem Follows.acc (hr : Ready P I R m offer info bytes s r)
    (h : n.Follows I R offer info bytes r j) (hj : j.Sound) :
    Acc (fun n' n => Step P I R n n') n := by
  generalize hrank : j.rank = k
  induction k using Nat.strong_induction_on generalizing n j with
  | _ k ih =>
    refine .intro n fun n' hst => ?_
    obtain ⟨j', hst', hf⟩ := h.step hr hj hst
    exact ih j'.rank (hrank ▸ hj.rank_lt hst') hf (hj.step hst') rfl

/-- Whatever the order of deliveries: as soon as one manager has closed its old channel as
upgraded or resumed its new one, both were given the other's LAST_WRITE; a run that cannot go
on has both of them upgraded; and every run gets there. -/
theorem upgraded_after_lastWrites {P : Prost} {I R : Side} {m : Medium} {offer : OfflineFrame}
    {info : UpgradePathInfo} {bytes : Bytes} {s s' r : World} {fuel : Nat}
    (hr : Ready P I R m offer info bytes s r)
    (hinit : s.initiateBwuForEndpoint (I.online P { world := s }) fuel I.peer m = .ok s')
    {n : Net} (hn : ReflTransGen (Step P I R) (Net.start I s s' r) n) :
    (I.Through n.initiator.log ∨ R.Through n.responder.log →
      forBwuLastWrite ∈ n.initiator.heard ∧ forBwuLastWrite ∈ n.responder.heard) ∧
    ((∀ n', ¬ Step P I R n n') →
      (I.Stands .upgraded n.initiator.world ∧
        .closeWithReason I.old .upgraded ∈ n.initiator.log ∧ .resume I.new ∈ n.initiator.log) ∧
      R.Stands .upgraded n.responder.world ∧
        .closeWithReason R.old .upgraded ∈ n.responder.log ∧ .resume R.new ∈ n.responder.log) ∧
    Acc (fun n' n => Step P I R n n') n := by
  obtain ⟨j, hj, hf⟩ := reached_follows hr hinit hn
  refine ⟨fun hthrough => ?_, fun hstuck => ?_, hf.acc hr hj⟩
  · have hup : j.initiator.stage = .upgraded ∨ j.responder.stage = .upgraded :=
      hthrough.imp hf.initiator.log hf.responder.log
    obtain ⟨hi, hr⟩ := hj.heard_lastWrite hup
    rw [hf.initiator.heard, hf.responder.heard]
    exact ⟨List.mem_map_of_mem hi, List.mem_map_of_mem hr⟩
  · have hj' : ∀ j', ¬ Swap.Pair.Step (info.supportsClientIntroductionAck.getD false) j j' := by
      intro j' hst
      obtain ⟨n', hn'⟩ := hf.progress hr hj hst
      exact hstuck n' hn'
    obtain ⟨hi, hr⟩ := hj.stuck hj'
    exact ⟨⟨hi ▸ hf.initiator.stands, hf.initiator.done hi⟩, hr ▸ hf.responder.stands,
      hf.responder.done hr⟩

/-! ### One upgrade over WiFi LAN -/

def codebook (frames : List OfflineFrame) : Prost where
  encode f := [UInt8.ofNat (frames.idxOf f)]
  decode bytes := bytes.head?.bind fun b => frames[b.toNat]?

theorem codebook_decode {frames : List OfflineFrame} (hlen : frames.length ≤ 256)
    {f : OfflineFrame} (hf : f ∈ frames) :
    (codebook frames).decode ((codebook frames).encode f) = some f := by
  have hi : frames.idxOf f < 256 := (List.idxOf_lt_length_iff.mpr hf).trans_le hlen
  simp only [codebook, List.head?_cons, Option.bind_some, UInt8.toNat_ofNat', Nat.mod_eq_of_lt hi]
  exact List.getElem?_idxOf hf

def lanOffer : UpgradePathInfo :=
  { upgradePathInfoForMedium .wifiLan with
    wifiLanSocket := some { ipAddress := some [192, 168, 0, 2], wifiPort := some 4242 }
    supportsClientIntroductionAck := some true }

def initiatorSide : Side := ⟨reliable, "E", 0, 1⟩

def responderSide : Side := ⟨reliable, "L", 0, 5⟩

def responderWorld : World := (World.new {} [.wifiLan] "E").after reliable 3 (connect "L" 0)

def lanCodec : Prost :=
  codebook (forBwuLastWrite :: bwuUpgradePathAvailable lanOffer ::
    responderSide.spoken responderWorld lanOffer)

theorem ready_lan : Ready lanCodec initiatorSide responderSide .wifiLan
    (bwuUpgradePathAvailable lanOffer) lanOffer [1] (scenario []) responderWorld where
  codec f hf := codebook_decode (by decide) (List.mem_cons_of_mem _ (List.mem_cons_of_mem _ hf))
  initiatorLinks := by decide
  responderLinks := by decide
  initiator := ⟨by decide, by decide, by decide, by decide, by decide⟩
  passes := ⟨by decide, by decide, by decide, by decide, by decide⟩
  handles := rfl
  offers := by decide
  parses := Prost.fromBytes_of_decode rfl (by decide)
  event := by decide
  medium := by decide
  responder := ⟨by decide, by decide, by decide, by decide, by decide⟩
  accepts := ⟨by decide, by decide, by decide, by decide⟩
  unset := by decide
  handler := by decide
  creates := by decide
  named := by decide

theorem upgraded_after_lastWrites_lan :
    ∃ s' n, (scenario []).initiateBwuForEndpoint
        (initiatorSide.online lanCodec { world := scenario [] }) 1 "E" .wifiLan = .ok s' ∧
      ReflTransGen (Step lanCodec initiatorSide responderSide)
        (Net.start initiatorSide (scenario []) s' responderWorld) n ∧
      initiatorSide.Stands .upgraded n.initiator.world ∧
      responderSide.Stands .upgraded n.responder.world ∧
      forBwuLastWrite ∈ n.initiator.heard ∧ forBwuLastWrite ∈ n.responder.heard := by
  obtain ⟨s', hinit⟩ : ∃ s', (scenario []).initiateBwuForEndpoint
      (initiatorSide.online lanCodec { world := scenario [] }) 1 "E" .wifiLan = .ok s' := ⟨_, rfl⟩
  obtain ⟨-, -, hends⟩ := upgraded_after_lastWrites ready_lan hinit .refl
  obtain ⟨n, hrun, hstuck⟩ := exists_stuck hends
  obtain ⟨hheard, hup, -⟩ := upgraded_after_lastWrites ready_lan hinit hrun
  obtain ⟨⟨hi, hclose, -⟩, hr, -⟩ := hup hstuck
  exact ⟨s', n, hinit, hrun, hi, hr, hheard (.inl (.inl hclose))⟩

end Net

end Nearby.Bwu
