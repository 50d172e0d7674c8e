import Nearby.Bwu.Fallback
import Nearby.Bwu.Retry

/-! Two offers that cross: both sides ask for an upgrade before either has heard of the other's
request. -/

namespace Nearby.Bwu

open Proto Lib Relation

/-- A medium, and the offer of it as it is written, as a frame and as a path. -/
structure Proposal where
  medium : Medium
  bytes : Bytes
  offer : OfflineFrame
  info : UpgradePathInfo

/-- The side asks for the medium of `p`: the request passes its guards, its handler has the offer
to make, and it leaves the manager in `w'`. -/
structure Offering (P : Prost) (x : Side) (p : Proposal) (w w' : World) : Prop where
  links : x.old ≠ x.new
  idle : x.Stands .idle w
  passes : w.InitiatePasses (x.online P { world := w }) x.peer p.medium
  handles : x.env.handleInitialize (w.prepared x.peer p.medium).trace p.medium
    (wrapInitiatorUpgradeServiceId (x.env.serviceId x.old)) x.peer = p.bytes
  offers : p.bytes ≠ []
  parses : P.fromBytes p.bytes = .ok p.offer
  event : eventOf p.offer = some (.upgradePathAvailable, some p.info)
  initiated : ∃ fuel, w.initiateBwuForEndpoint (x.online P { world := w }) fuel x.peer p.medium =
    .ok w'

/-- The manager in `w` would not turn `p` down at once to spare a WiFi LAN. -/
def Proposal.Open (p : Proposal) (env : Env) (w : World) : Prop :=
  ¬ (w.isWifiLanConnected env ∧ upiMedium p.info = .wifiHotspot)

structure Opposed (P : Prost) (I R : Side) (p q : Proposal) (s s' r r' : World) : Prop where
  initiator : Offering P I p s s'
  responder : Offering P R q r r'
  initiatorOpen : q.Open I.env s'
  responderOpen : p.Open R.env r'

def Net.crossed (I R : Side) (s s' r r' : World) : Net where
  initiator := (Node.proceed I { world := s } s').receive R r r'
  responder := (Node.proceed R { world := r } r').receive I s s'

/-! ### An offer that meets another -/

/-- A side with an offer of its own out ignores the peer's if it is the advertiser, and takes it
for a duplicate otherwise. -/
def World.met (w : World) (e : String) : World :=
  if w.client.isIncomingConnection e then w else w.closeOutOfSync e

section

variable {P : Prost} {x : Side} {p : Proposal} {w w' : World} {env : Env} {b : Bool}

theorem Side.Stands.beginPathAvailable_met (h : x.Stands (.offered b) w) (hopen : p.Open env w) :
    w.beginPathAvailable env x.peer p.info = .returned (w.met x.peer) := by
  have hbusy : x.peer ∈ w.inProgressUpgrades := h.inProgress.mpr rfl
  rw [Proposal.Open] at hopen
  simp only [World.beginPathAvailable, if_neg hopen, World.met, if_pos hbusy]
  split <;> rfl

theorem Side.Stands.closeOutOfSync_eq (h : x.Stands (.offered b) w) :
    w.closeOutOfSync x.peer = (w.resume x.old).closeWithReason x.old .unfinished := by
  have hparked : w.previousEndpointChannels.lookup x.peer = none := h.parked
  have hreg : w.getChannelForEndpoint x.peer = some x.old := h.registered
  simp only [World.closeOutOfSync, World.closeParked, hparked, hreg]

theorem Side.Stands.met (h : x.Stands (.offered b) w) (hne : x.old ≠ x.new) :
    x.Passage w (.offered b) (.offered b) [] [] 0 0 (w.met x.peer) := by
  rw [World.met]
  split
  case isTrue => exact h.stays
  case isFalse =>
    rw [h.closeOutOfSync_eq]
    obtain ⟨hc, hr, hp, hl, hi⟩ := h
    refine ⟨⟨hc, hr, hp, hl, hi⟩, [.closeWithReason x.old .unfinished, .resume x.old], rfl, rfl,
      rfl, rfl, rfl, ?_, by simp⟩
    simp [Side.Through, hne.symm]

theorem World.met_retryUpgradeAlarms (w : World) (e : String) :
    (w.met e).retryUpgradeAlarms = w.retryUpgradeAlarms := by
  rw [met]
  split
  case isTrue => rfl
  case isFalse => exact (aside_closeOutOfSync w e).alarms

theorem Side.Stands.initiate_busy (h : x.Stands (.offered b) w) (env : Env) (fuel : Nat)
    (m : Medium) :
    ∃ medium mediums, w.initiateBwuForEndpoint env (fuel + 1) x.peer m =
      .ok { w with
        medium
        endpointIdToBwuMedium := mediums
        trace := .initiate x.peer m :: w.trace } := by
  have hbusy : x.peer ∈ w.inProgressUpgrades := h.inProgress.mpr rfl
  have hset := World.setBwuMediumForEndpoint_frame (w.emit (.initiate x.peer m)) x.peer m
  have hstill : x.peer ∈
      ((w.emit (.initiate x.peer m)).setBwuMediumForEndpoint x.peer m).inProgressUpgrades := by
    rwa [hset]
  simp only [World.initiateBwuForEndpoint, World.initiateBody, if_pos hstill, ite_self]
  split
  case isTrue => exact ⟨w.medium, w.endpointIdToBwuMedium, rfl⟩
  case isFalse =>
    rw [hset]
    exact ⟨_, _, rfl⟩

theorem Offering.passage (h : Offering P x p w w') :
    x.Passage w .idle (.offered false) [.offer p.bytes] [] 0 0 w' := by
  obtain ⟨fuel, hinit⟩ := h.initiated
  exact h.idle.initiate (fun _ _ _ => rfl) h.links h.passes h.offers h.handles hinit

theorem Offering.unarmed (h : Offering P x p w w') :
    x.peer ∉ w'.retryUpgradeAlarms := by
  obtain ⟨fuel, hinit⟩ := h.initiated
  have hidle : w.Exclusive x.peer := fun hin => absurd (h.idle.inProgress.mp hin) (by simp [busy])
  exact (World.chain_exclusive _ x.peer).initiate fuel hidle hinit
    (h.passage.stands.inProgress.mpr rfl)

end

/-! ### Each side on its own -/

namespace Node

structure Awaits (x : Side) (w : World) (bytes : Bytes) (n : Node) : Prop where
  world : n.world = w
  old : n.old = [.offer bytes]
  new : n.new = []
  log : ¬ x.Through n.log

/-- The peer's offer has come in.  The side goes on waiting for an answer to its own: no retry is
scheduled, and a new request changes at most the medium on record.  Unless it is the advertiser it
has closed the connection. -/
structure Stalled (x : Side) (w : World) (n : Node) : Prop where
  old : n.old = []
  new : n.new = []
  stands : x.Stands (.offered false) n.world
  unarmed : x.peer ∉ n.world.retryUpgradeAlarms
  refuses : ∀ env fuel m, ∃ medium mediums,
    n.world.initiateBwuForEndpoint env (fuel + 1) x.peer m =
      .ok { n.world with
        medium
        endpointIdToBwuMedium := mediums
        trace := .initiate x.peer m :: n.world.trace }
  log : ¬ x.Through n.log
  ignored : w.client.isIncomingConnection x.peer = true → n.world = w
  closed : w.client.isIncomingConnection x.peer = false →
    (n.world.channels x.old).closed = true ∧ .closeWithReason x.old .unfinished ∈ n.log

variable {P : Prost} {x y : Side} {p : Proposal} {bytes : Bytes} {u u' w w' : World}
  {stage stage' : Swap.Stage} {drained taken : Nat} {n : Node}

theorem receive_eq (hp : y.Passage u stage stage' [] [] drained taken u') :
    n.receive y u u' = n := by
  obtain ⟨hold, hnew⟩ := hp.receive (n := n)
  rw [List.append_nil] at hold hnew
  cases n
  rw [Node.receive] at hold hnew ⊢
  dsimp only at hold hnew ⊢
  rw [hold, hnew]

theorem awaits_start (h : Offering P x p w w')
    (hp : y.Passage u .idle (.offered false) [.offer bytes] [] 0 0 u') :
    ((Node.proceed x { world := w } w').receive y u u').Awaits x w' bytes := by
  obtain ⟨hold, hnew⟩ := h.passage.proceed (n := { world := w })
  obtain ⟨hold', hnew'⟩ := hp.receive (n := Node.proceed x { world := w } w')
  refine ⟨rfl, hold'.trans (by rw [hold]; rfl), hnew'.trans (by rw [hnew]; rfl), ?_⟩
  obtain ⟨xs, htrace, -, -, -, -, hthrough, -⟩ := h.passage.calls
  have hlog : ((Node.proceed x { world := w } w').receive y u u').log = xs := by
    simp only [Node.receive, Node.proceed, fresh_eq htrace, List.append_nil]
  rw [hlog]
  intro hx
  cases hthrough hx

theorem Awaits.stalled (h : n.Awaits x w bytes) (hne : x.old ≠ x.new)
    (hw : x.Stands (.offered false) w) (hunarmed : x.peer ∉ w.retryUpgradeAlarms)
    (frame : OfflineFrame) :
    ((n.take [] frame).proceed x (w.met x.peer)).Stalled x w := by
  have hpass : x.Passage (n.take [] frame).world (.offered false) (.offered false) [] [] 0 0
      (w.met x.peer) := h.world ▸ hw.met hne
  obtain ⟨hold, hnew⟩ := hpass.proceed
  obtain ⟨xs, htrace, -, -, -, -, hthrough, -⟩ := hpass.calls
  have hlog : ((n.take [] frame).proceed x (w.met x.peer)).log = xs ++ n.log := by
    rw [Node.proceed, fresh_eq htrace]
    rfl
  refine ⟨hold, hnew.trans h.new, hpass.stands, ?_,
    hpass.stands.initiate_busy, ?_, ?_, ?_⟩
  · exact World.met_retryUpgradeAlarms w x.peer ▸ hunarmed
  · rw [hlog, Side.through_append]
    rintro (hx | hx)
    · cases hthrough hx
    · exact h.log hx
  · intro hincoming
    exact if_pos hincoming
  · intro hincoming
    have hmet : w.met x.peer = (w.resume x.old).closeWithReason x.old .unfinished := by
      rw [World.met, hincoming, if_neg (by simp), hw.closeOutOfSync_eq]
    refine ⟨?_, ?_⟩
    · change ((w.met x.peer).channels x.old).closed = true
      rw [hmet]
      simp [World.closeWithReason, World.modifyChannel, World.emit]
    · rw [hlog]
      refine List.mem_append_left _ ?_
      have hxs : xs = [.closeWithReason x.old .unfinished, .resume x.old] := by
        have htrace' : (w.met x.peer).trace =
            [.closeWithReason x.old .unfinished, .resume x.old] ++ w.trace := by
          rw [hmet]
          rfl
        rw [htrace', Node.take, h.world] at htrace
        exact (List.append_cancel_right htrace).symm
      rw [hxs]
      exact List.mem_cons_self

theorem Awaits.hears (h : n.Awaits x w p.bytes) (hw : x.Stands (.offered false) w)
    (hparse : P.fromBytes p.bytes = .ok p.offer)
    (hevent : eventOf p.offer = some (.upgradePathAvailable, some p.info))
    (hopen : p.Open x.env w) {data : Payload} {q : List Payload} {frame : OfflineFrame}
    (hq : n.old = data :: q) (hframe : P.fromBytes (data.bytes P) = .ok frame) :
    q = [] ∧ eventOf frame = some (.upgradePathAvailable, some p.info) ∧
      n.world.beginPathAvailable (x.online P (n.take q frame)) x.peer p.info =
        .returned (w.met x.peer) ∧
      ∀ fuel, n.world.onIncomingFrame (x.online P (n.take q frame)) fuel frame x.peer =
        .ok (w.met x.peer) := by
  cases h.old.symm.trans hq
  cases hparse.symm.trans hframe
  have hbegin : n.world.beginPathAvailable (x.online P (n.take [] p.offer)) x.peer p.info =
      .returned (w.met x.peer) := by
    rw [h.world]
    exact hw.beginPathAvailable_met hopen
  refine ⟨rfl, hevent, hbegin, fun fuel => ?_⟩
  have hconn : n.world.client.isConnectedToEndpoint x.peer = true := h.world ▸ hw.connected
  rw [World.onIncomingFrame_offer fuel hconn hevent, World.processBwuPathAvailableEvent, hbegin]

end Node

/-! ### Both -/

namespace Net

variable {P : Prost} {I R : Side} {p q : Proposal} {s s' r r' : World} {n n' : Net}

/-- Each side has the peer's offer before it or behind it, and no connection is being made. -/
structure Crossing (I R : Side) (p q : Proposal) (s r : World) (n : Net) : Prop where
  initiator : n.initiator.Awaits I s q.bytes ∨ n.initiator.Stalled I s
  responder : n.responder.Awaits R r p.bytes ∨ n.responder.Stalled R r
  undialled : n.incoming = false ∧ n.dialled = none

structure Stalemate (I R : Side) (s r : World) (n : Net) : Prop where
  initiator : n.initiator.Stalled I s
  responder : n.responder.Stalled R r
  quiet : n.Quiet

def pending (n : Net) : Nat := n.initiator.old.length + n.responder.old.length

theorem crossing_start (h : Opposed P I R p q s s' r r') :
    (Net.crossed I R s s' r r').Crossing I R p q s' r' :=
  ⟨.inl (Node.awaits_start h.initiator h.responder.passage),
    .inl (Node.awaits_start h.responder h.initiator.passage), rfl, rfl⟩

theorem Crossing.step (h : Opposed P I R p q s s' r r') (hn : n.Crossing I R p q s' r')
    (hst : Step P I R n n') : n'.Crossing I R p q s' r' ∧ n'.pending < n.pending := by
  obtain ⟨hI, hR, hopenI, hopenR⟩ := h
  have hs := hI.passage.stands
  have hr := hR.passage.stands
  cases hst with
  | @frameToInitiator _ _ frame _ _ hq hparse hframe =>
    rcases hn.initiator with ha | hd
    · obtain ⟨rfl, -, -, hhears⟩ := ha.hears hs hR.parses hR.event hopenI hq hparse
      cases (hhears _).symm.trans hframe
      have hstalled := ha.stalled hI.links hs hI.unarmed frame
      have hpeer : n.responder.receive I n.initiator.world (s'.met I.peer) = n.responder := by
        rw [ha.world]
        exact Node.receive_eq (hs.met hI.links)
      rw [hpeer]
      refine ⟨⟨.inr hstalled, hn.responder, hn.undialled⟩, ?_⟩
      simp [pending, hstalled.old, hq]
    · rw [hd.old] at hq
      cases hq
  | @frameToResponder _ _ frame _ _ _ hq hparse _ hframe =>
    rcases hn.responder with ha | hd
    · obtain ⟨rfl, -, -, hhears⟩ := ha.hears hr hI.parses hI.event hopenR hq hparse
      cases (hhears _).symm.trans hframe
      have hstalled := ha.stalled hR.links hr hR.unarmed frame
      have hpeer : n.initiator.receive R n.responder.world (r'.met R.peer) = n.initiator := by
        rw [ha.world]
        exact Node.receive_eq (hr.met hR.links)
      rw [hpeer]
      refine ⟨⟨hn.initiator, .inr hstalled, hn.undialled⟩, ?_⟩
      simp [pending, hstalled.old, hq]
    · rw [hd.old] at hq
      cases hq
  | offerToResponder _ hq hparse hev _ hdialled =>
    rcases hn.responder with ha | hd
    · obtain ⟨rfl, hevent, hbegin, -⟩ := ha.hears hr hI.parses hI.event hopenR hq hparse
      cases hevent.symm.trans hev
      cases hbegin.symm.trans hdialled
    · rw [hd.old] at hq
      cases hq
  | socket hin =>
    rw [hn.undialled.1] at hin
    cases hin
  | finish hd =>
    rw [hn.undialled.2] at hd
    cases hd

theorem Crossing.progress (h : Opposed P I R p q s s' r r') (hn : n.Crossing I R p q s' r') :
    (∃ n', Step P I R n n') ∨ n.Stalemate I R s' r' := by
  obtain ⟨hI, hR, hopenI, hopenR⟩ := h
  rcases hn.initiator with ha | hd
  · obtain ⟨-, -, -, hhears⟩ :=
      ha.hears hI.passage.stands hR.parses hR.event hopenI ha.old hR.parses
    exact .inl ⟨_, .frameToInitiator ha.old hR.parses (hhears 0)⟩
  rcases hn.responder with ha | hd'
  · obtain ⟨-, hevent, hbegin, hhears⟩ :=
      ha.hears hR.passage.stands hI.parses hI.event hopenR ha.old hI.parses
    refine .inl ⟨_, .frameToResponder hn.undialled.2 ha.old hI.parses ?_ (hhears 0)⟩
    rintro ⟨info, c, t, hev, -, hdialled⟩
    cases hevent.symm.trans hev
    cases hbegin.symm.trans hdialled
  · exact .inr ⟨hd, hd', ⟨hd.old, hd.new⟩, ⟨hd'.old, hd'.new⟩, hn.undialled⟩

theorem Crossing.settles (h : Opposed P I R p q s s' r r') (hn : n.Crossing I R p q s' r') :
    Settles (Step P I R) (Stalemate I R s' r') n := by
  generalize hk : n.pending = k
  induction k using Nat.strong_induction_on generalizing n with
  | _ k ih =>
    rcases hn.progress h with hgo | hstale
    · refine .of_steps hgo fun n' hst => ?_
      obtain ⟨hn', hlt⟩ := hn.step h hst
      exact ih n'.pending (hk ▸ hlt) hn' rfl
    · exact .of_stuck hstale.quiet.stuck hstale

/-- When two offers cross, the advertiser ignores the other's and the other side takes it for a
duplicate and closes the connection.  Whatever comes in first, both go on waiting for an answer:
no upgrade is made, no retry is scheduled, and a new request is turned away. -/
theorem crossed_offers_stall (h : Opposed P I R p q s s' r r') :
    Settles (Step P I R) (Stalemate I R s' r') (Net.crossed I R s s' r r') :=
  (crossing_start h).settles h

/-! ### Both ask for WiFi LAN -/

def advertiserWorld : World :=
  (World.new {} [.wifiLan] "L").after reliable 3
    [.onConnectionInitiated "E" true true, .onConnectionAccepted "E",
      .registerChannelForEndpoint "E" 0]

def lanProposal : Proposal where
  medium := .wifiLan
  bytes := [1]
  offer := bwuUpgradePathAvailable lanOffer
  info := lanOffer

theorem offering_advertiser {s' : World} (hs : advertiserWorld.initiateBwuForEndpoint
    (initiatorSide.online lanCodec { world := advertiserWorld }) 1 "E" .wifiLan = .ok s') :
    Offering lanCodec initiatorSide lanProposal advertiserWorld s' where
  links := by decide
  idle := ⟨by decide, by decide, by decide, by decide, by decide⟩
  passes := ⟨by decide, by decide, by decide, by decide, by decide⟩
  handles := rfl
  offers := by decide
  parses := Prost.fromBytes_of_decode rfl (by decide)
  event := by decide
  initiated := ⟨1, hs⟩

theorem offering_responder {r' : World} (hr : responderWorld.initiateBwuForEndpoint
    (responderSide.online lanCodec { world := responderWorld }) 1 "L" .wifiLan = .ok r') :
    Offering lanCodec responderSide lanProposal responderWorld r' where
  links := by decide
  idle := ⟨by decide, by decide, by decide, by decide, by decide⟩
  passes := ⟨by decide, by decide, by decide, by decide, by decide⟩
  handles := rfl
  offers := by decide
  parses := Prost.fromBytes_of_decode rfl (by decide)
  event := by decide
  initiated := ⟨1, hr⟩

theorem lanProposal_open (env : Env) (w : World) : lanProposal.Open env w :=
  fun ⟨_, h⟩ => absurd h (by decide)

theorem crossed_offers_stall_lan :
    ∃ s' r' n, ReflTransGen (Step lanCodec initiatorSide responderSide)
        (Net.crossed initiatorSide responderSide advertiserWorld s' responderWorld r') n ∧
      n.Quiet ∧ n.initiator.world = s' ∧
      (n.responder.world.channels responderSide.old).closed = true ∧
      initiatorSide.Stands (.offered false) n.initiator.world ∧
      responderSide.Stands (.offered false) n.responder.world := by
  obtain ⟨s', hs, hincoming⟩ : ∃ s', advertiserWorld.initiateBwuForEndpoint
      (initiatorSide.online lanCodec { world := advertiserWorld }) 1 "E" .wifiLan = .ok s' ∧
      s'.client.isIncomingConnection "E" = true := ⟨_, rfl, rfl⟩
  obtain ⟨r', hr, houtgoing⟩ : ∃ r', responderWorld.initiateBwuForEndpoint
      (responderSide.online lanCodec { world := responderWorld }) 1 "L" .wifiLan = .ok r' ∧
      r'.client.isIncomingConnection "L" = false := ⟨_, rfl, rfl⟩
  have hsettles := crossed_offers_stall ⟨offering_advertiser hs, offering_responder hr,
    lanProposal_open _ _, lanProposal_open _ _⟩
  obtain ⟨n, hrun, hstuck⟩ := exists_stuck hsettles.ends
  have hstale := hsettles.rests hrun hstuck
  exact ⟨s', r', n, hrun, hstale.quiet, hstale.initiator.ignored hincoming,
    (hstale.responder.closed houtgoing).1, hstale.initiator.stands, hstale.responder.stands⟩

end Net

end Nearby.Bwu
