import Nearby.Bwu.Disconnect
import Nearby.Bwu.Handshake
import Nearby.Bwu.Selection
import Nearby.Lib.Settles
import Mathlib.Data.List.TakeWhile

/-! Two managers bargain about the medium.  An offer the responder cannot dial comes back as an
UPGRADE_FAILURE, and the initiator offers the next medium of its list, until one is dialled or
the list is at its end. -/

namespace Nearby.Bwu

open Proto Lib Relation

/-! ### What was heard before is of no consequence -/

/-- The nodes differ in what they were given before, and in their logs. -/
structure Node.Alike (before before' : List OfflineFrame) (n n' : Node) : Prop where
  world : n'.world = n.world
  old : n'.old = n.old
  new : n'.new = n.new
  heard : ∃ since, n.heard = before ++ since ∧ n'.heard = before' ++ since

namespace Node.Alike

variable {P : Prost} {x : Side} {before before' : List OfflineFrame} {n n' : Node}

theorem symm (h : n.Alike before before' n') : n'.Alike before' before n := by
  obtain ⟨since, hn, hn'⟩ := h.heard
  exact ⟨h.world.symm, h.old.symm, h.new.symm, since, hn', hn⟩

theorem online (h : n.Alike before before' n') : x.online P n' = x.online P n := by
  simp only [Side.online, h.old, h.new]

theorem take (h : n.Alike before before' n') (q : List Payload) (frame : OfflineFrame) :
    (n.take q frame).Alike before before' (n'.take q frame) := by
  obtain ⟨since, hn, hn'⟩ := h.heard
  refine ⟨h.world, rfl, h.new, since ++ [frame], ?_, ?_⟩
  · rw [Node.take, hn, List.append_assoc]
  · rw [Node.take, hn', List.append_assoc]

theorem proceed (h : n.Alike before before' n') (t : World) :
    (n.proceed x t).Alike before before' (n'.proceed x t) := by
  refine ⟨rfl, ?_, ?_, h.heard⟩
  · simp only [Node.proceed, h.world, h.old]
  · simp only [Node.proceed, h.world, h.new]

theorem receive (h : n.Alike before before' n') (s t : World) :
    (n.receive x s t).Alike before before' (n'.receive x s t) := by
  refine ⟨h.world, ?_, ?_, h.heard⟩
  · simp only [Node.receive, h.old]
  · simp only [Node.receive, h.new]

end Node.Alike

structure Net.Alike (hi hi' hr hr' : List OfflineFrame) (n n' : Net) : Prop where
  initiator : n.initiator.Alike hi hi' n'.initiator
  responder : n.responder.Alike hr hr' n'.responder
  incoming : n'.incoming = n.incoming
  dialled : n'.dialled = n.dialled

namespace Net

variable {P : Prost} {I R : Side} {hi hi' hr hr' : List OfflineFrame} {n n' t : Net}

theorem Alike.symm (h : n.Alike hi hi' hr hr' n') : n'.Alike hi' hi hr' hr n :=
  ⟨h.initiator.symm, h.responder.symm, h.incoming.symm, h.dialled.symm⟩

theorem Alike.step (h : n.Alike hi hi' hr hr' n') (hst : Step P I R n t) :
    ∃ t', Step P I R n' t' ∧ t.Alike hi hi' hr hr' t' := by
  obtain ⟨hini, hres, hin, hdial⟩ := h
  cases hst with
  | frameToInitiator hq hparse hframe =>
    rw [← hini.world, ← (hini.take _ _).online] at hframe
    rw [← hini.old] at hq
    refine ⟨_, .frameToInitiator hq hparse hframe, (hini.take _ _).proceed _, ?_, hin, hdial⟩
    rw [← hini.world]
    exact hres.receive _ _
  | frameToResponder hnone hq hparse hno hframe =>
    rw [← hres.world, ← (hres.take _ _).online] at hframe hno
    rw [← hres.old] at hq
    rw [← hdial] at hnone
    refine ⟨_, .frameToResponder hnone hq hparse hno hframe, ?_, (hres.take _ _).proceed _, hin,
      hdial⟩
    rw [← hres.world]
    exact hini.receive _ _
  | offerToResponder hnone hq hparse hevent hconn hbegin =>
    rw [← hres.world, ← (hres.take _ _).online] at hbegin
    rw [← hres.world] at hconn
    rw [← hres.old] at hq
    rw [← hdial] at hnone
    refine ⟨_, .offerToResponder hnone hq hparse hevent hconn hbegin, ?_,
      (hres.take _ _).proceed _, rfl, rfl⟩
    rw [← hres.world]
    exact hini.receive _ _
  | socket hin' ht =>
    rw [← hini.world, ← hini.online] at ht
    rw [← hin] at hin'
    refine ⟨_, .socket hin' ht, hini.proceed _, ?_, rfl, hdial⟩
    rw [← hini.world]
    exact hres.receive _ _
  | finish hd hack ht =>
    rw [← hres.world, ← hres.online] at ht
    rw [← hdial] at hd
    rw [← hres.new] at hack
    refine ⟨_, .finish hd hack ht, ?_, hres.proceed _, hin, rfl⟩
    rw [← hres.world]
    exact hini.receive _ _

theorem Alike.settles {Q Q' : Net → Prop} (h : n.Alike hi hi' hr hr' n')
    (hn : Settles (Step P I R) Q' n')
    (hq : ∀ {t t'}, t.Alike hi hi' hr hr' t' → Q' t' → Q t) : Settles (Step P I R) Q n := by
  refine hn.transfer h Alike.step (fun hs hst => ?_) hq
  obtain ⟨t, hst', ht⟩ := hs.symm.step hst
  exact ⟨t, hst', ht.symm⟩

end Net

/-! ### The list behind a medium -/

namespace World

variable {env : Env} {s : World} {e : String} {m n : Medium} {rest : List Medium}

/-- What the initiator turns to, one after the other, when `m` has failed: the usable part of the
list after it, up to the medium it is on. -/
def fallbacks (env : Env) (s : World) (e : String) (m : Medium) : List Medium :=
  ((untriedAfter m (s.client.getUpgradeMediums e)).filter s.hasHandlerForMedium).takeWhile
    (· ≠ s.currentMedium env e)

theorem mem_of_mem_untriedAfter {mediums : List Medium} (h : n ∈ untriedAfter m mediums) :
    n ∈ mediums :=
  (List.dropWhile_sublist _).subset (List.mem_of_mem_tail h)

theorem filter_untriedAfter {p : Medium → Bool} {mediums : List Medium}
    (h : mediums.filter p = n :: rest) : (untriedAfter n mediums).filter p = rest := by
  obtain ⟨before, after, rfl, hbefore, hn, rfl⟩ := List.filter_eq_cons_iff.mp h
  have hdrop : (before ++ n :: after).dropWhile (· ≠ n) = n :: after := by
    rw [List.dropWhile_append_of_pos, List.dropWhile_cons_of_neg (by simp)]
    intro x hx
    have hne : x ≠ n := fun hxn => hbefore x hx (hxn ▸ hn)
    simpa using hne
  rw [untriedAfter, hdrop, List.tail_cons]

theorem filter_untriedAfter_next {p : Medium → Bool} {mediums : List Medium}
    (hnodup : mediums.Nodup) (h : (untriedAfter m mediums).filter p = n :: rest) :
    (untriedAfter n mediums).filter p = rest := by
  induction mediums with
  | nil => simp [untriedAfter] at h
  | cons a mediums ih =>
    obtain ⟨ha, hnodup⟩ := List.nodup_cons.mp hnodup
    have hn : n ∈ (untriedAfter m (a :: mediums)).filter p := h ▸ List.mem_cons_self
    rw [untriedAfter_cons] at h hn
    have hne : a ≠ n := by
      rintro rfl
      split at hn
      case isTrue => exact ha (List.mem_of_mem_filter hn)
      case isFalse => exact ha (mem_of_mem_untriedAfter (List.mem_of_mem_filter hn))
    rw [untriedAfter_cons, if_neg hne]
    split at h
    case isTrue => exact filter_untriedAfter h
    case isFalse => exact ih hnodup h

theorem fallbacks_cons (hnodup : (s.client.getUpgradeMediums e).Nodup)
    (h : s.fallbacks env e m = n :: rest) :
    s.fallbacks env e n = rest ∧ s.hasHandlerForMedium n = true ∧ n ≠ s.currentMedium env e := by
  rw [fallbacks] at h
  cases hf : (untriedAfter m (s.client.getUpgradeMediums e)).filter s.hasHandlerForMedium with
  | nil =>
    rw [hf] at h
    cases h
  | cons x xs =>
    rw [hf, List.takeWhile_cons] at h
    split at h
    case isFalse => cases h
    case isTrue hx =>
      obtain ⟨rfl, rfl⟩ := List.cons.inj h
      have hmem : x ∈ (untriedAfter m (s.client.getUpgradeMediums e)).filter
          s.hasHandlerForMedium := hf ▸ List.mem_cons_self
      refine ⟨?_, List.of_mem_filter hmem, of_decide_eq_true hx⟩
      rw [fallbacks, filter_untriedAfter_next hnodup hf]

theorem decision_fallbacks (hk : ¬ s.KeepsMedium) (hlan : s.currentMedium env e ≠ .wifiLan)
    (m : Medium) :
    s.decision env e m = match s.fallbacks env e m with
      | [] => .retry
      | n :: _ => .attempt n := by
  rw [decision, if_neg hk, nextTried, ← List.head?_filter, fallbacks]
  cases (untriedAfter m (s.client.getUpgradeMediums e)).filter s.hasHandlerForMedium with
  | nil => exact if_neg hlan
  | cons n ns =>
    rw [List.takeWhile_cons]
    by_cases hn : s.currentMedium env e = n
    · simp [← hn, hlan]
    · simp [hn, Ne.symm hn]

end World

/-! ### Calls that leave the channels alone -/

def Event.Inaudible : Event → Prop
  | .write .. | .read _ | .closeWithReason .. | .resume _ => False
  | _ => True

theorem Event.Reverts.inaudible {ev : Event} (h : ev.Reverts) : ev.Inaudible := by
  cases ev <;> first | exact h.elim | trivial

namespace Side

variable {x : Side} {stage stage' : Swap.Stage} {s w t : World} {env : Env} {m : Medium}

theorem sentOn_inaudible {xs : List Event} (h : ∀ ev ∈ xs, ev.Inaudible) (c : ChannelId) :
    sentOn c xs = [] := by
  refine List.filterMap_eq_nil_iff.mpr fun ev hev => ?_
  have hin := h ev (List.mem_reverse.mp hev)
  cases ev <;> first | exact hin.elim | rfl

theorem readsOn_inaudible {xs : List Event} (h : ∀ ev ∈ xs, ev.Inaudible) (c : ChannelId) :
    readsOn c xs = 0 :=
  List.count_eq_zero.mpr fun hmem => h _ hmem

theorem Passage.of_inaudible (hstands : x.Stands stage' t) (hup : stage' ≠ .upgraded)
    (h : Adds Event.Inaudible w.trace t.trace) : x.Passage w stage stage' [] [] 0 0 t := by
  obtain ⟨xs, htrace, hxs⟩ := h
  refine ⟨hstands, xs, htrace, sentOn_inaudible hxs _, sentOn_inaudible hxs _,
    readsOn_inaudible hxs _, readsOn_inaudible hxs _, ?_, fun hstage => absurd hstage hup⟩
  rintro (hclose | hresume)
  · exact (hxs _ hclose).elim
  · exact (hxs _ hresume).elim

/-- The manager is at `stage`, and otherwise about its peer all is as it was in `s`. -/
structure Abides (x : Side) (s : World) (stage : Swap.Stage) (w : World) : Prop where
  stands : x.Stands stage w
  bearings : World.SameBearings s w
  channels : w.channels = s.channels
  delays : w.retryDelays = s.retryDelays

theorem Stands.abides (h : x.Stands stage s) : x.Abides s stage s :=
  ⟨h, .refl s, rfl, rfl⟩

theorem Abides.setBwuMediumForEndpoint (h : x.Abides s stage w) (e : String) (m : Medium) :
    x.Abides s stage (w.setBwuMediumForEndpoint e m) := by
  have hbearings := h.bearings.trans (World.sameBearings_setBwuMediumForEndpoint w e m)
  rw [World.setBwuMediumForEndpoint_frame] at hbearings ⊢
  obtain ⟨hc, hr, hp, hl, hi⟩ := h.stands
  exact ⟨⟨hc, hr, hp, hl, hi⟩, hbearings, h.channels, h.delays⟩

theorem Abides.emit (h : x.Abides s stage w) (ev : Event) : x.Abides s stage (w.emit ev) := by
  obtain ⟨hconfig, hecm, hclient, hhandlers⟩ := h.bearings
  obtain ⟨hc, hr, hp, hl, hi⟩ := h.stands
  exact ⟨⟨hc, hr, hp, hl, hi⟩, ⟨hconfig, hecm, hclient, hhandlers⟩, h.channels, h.delays⟩

theorem Abides.revert (h : x.Abides s stage w) (u e : String) :
    x.Abides s stage (w.revertBwuMediumForEndpoint u e) := by
  have hbearings := h.bearings.trans (World.sameBearings_revertBwuMediumForEndpoint w u e)
  rw [World.revertBwuMediumForEndpoint_frame] at hbearings ⊢
  obtain ⟨hc, hr, hp, hl, hi⟩ := h.stands
  exact ⟨⟨hc, hr, hp, hl, hi⟩, hbearings, h.channels, h.delays⟩

theorem Abides.leave (h : x.Abides s stage w) (hstage : stage = .idle ∨ stage = .offered false) :
    x.Abides s .idle (w.leaveInProgress x.peer) := by
  obtain ⟨hconfig, hecm, hclient, hhandlers⟩ := h.bearings
  obtain ⟨hc, hr, hp, hl, -⟩ := h.stands
  refine ⟨⟨hc, ?_, ?_, ?_, ?_⟩, ⟨hconfig, hecm, hclient, hhandlers⟩, h.channels, h.delays⟩
  · rcases hstage with rfl | rfl <;> exact hr
  · rcases hstage with rfl | rfl <;> exact hp
  · rcases hstage with rfl | rfl <;> exact hl.trans (by simp)
  · simp [World.leaveInProgress, busy]

theorem Abides.abandoned (h : x.Abides s stage w) (hstage : stage = .idle ∨ stage = .offered false)
    (env : Env) : x.Abides s .idle (w.abandoned env x.peer) := by
  rw [World.abandoned]
  split
  case isTrue => exact (h.leave hstage).revert _ _
  case isFalse => exact h.leave hstage

theorem Abides.asked (h : x.Abides s stage w) (env : Env) (m : Medium) (c : ChannelId) :
    x.Abides s stage (w.asked env x.peer m c).2 := by
  have hprepared : x.Abides s stage (w.prepared x.peer m) := by
    obtain ⟨hconfig, hecm, hclient, hhandlers⟩ :=
      ((h.emit (.initiate x.peer m)).setBwuMediumForEndpoint x.peer m).bearings
    obtain ⟨⟨hc, hr, hp, hl, hi⟩, -, hch, hd⟩ :=
      (h.emit (.initiate x.peer m)).setBwuMediumForEndpoint x.peer m
    exact ⟨⟨hc, hr, hp, hl, hi⟩, ⟨hconfig, hecm, hclient, hhandlers⟩, hch, hd⟩
  have hbearings := hprepared.bearings.trans
    (World.sameBearings_askHandler env _ m (env.serviceId c) x.peer)
  rw [World.asked]
  rw [World.initializeUpgradedMediumForEndpoint_frame] at hbearings ⊢
  obtain ⟨hc, hr, hp, hl, hi⟩ := hprepared.stands
  exact ⟨⟨hc, hr, hp, hl, hi⟩, hbearings, hprepared.channels, hprepared.delays⟩

end Side

/-! ### The bargain -/

/-- What the handlers of the two make of each medium: the initiator's offer, empty where it has
none, the frame this is and the path it names, and whether the responder gets through. -/
structure Terms where
  bytes : Medium → Bytes
  offer : Medium → OfflineFrame
  info : Medium → UpgradePathInfo
  reaches : Medium → Bool

def Side.under (x : Side) (T : Terms) : Side :=
  { x with
    env := { x.env with
      handleInitialize := fun _ m _ _ => T.bytes m
      createUpgraded := fun _ m _ _ _ => if T.reaches m then some x.new else none } }

/-- Both can do `m`: the one has an offer and the other, asked for it in `r`, dials. -/
def Terms.serves (T : Terms) (R : Side) (r : World) (m : Medium) : Bool :=
  decide (T.bytes m ≠ []) && !(r.isWifiLanConnected R.env && decide (m = .wifiHotspot)) &&
    r.hasHandlerForMedium m && T.reaches m

/-- The mediums a request for `m` goes through as long as they fail. -/
def Side.candidates (I : Side) (s : World) (m : Medium) : List Medium :=
  m :: s.fallbacks I.env I.peer m

/-- What the managers start from: no upgrade going on, the initiator not on WiFi LAN and free to
switch, its list without repetitions, the responder not the advertiser, and handlers that do what
the terms say of the mediums of `pool`, all of which the initiator could ask for. -/
structure Bargain (P : Prost) (T : Terms) (I R : Side) (pool : List Medium) (s r : World) :
    Prop where
  initiatorLinks : I.old ≠ I.new
  responderLinks : R.old ≠ R.new
  initiator : I.Stands .idle s
  responder : R.Stands .idle r
  switches : ¬ s.KeepsMedium
  offLan : ¬ s.isWifiLanConnected I.env
  nodup : (s.client.getUpgradeMediums I.peer).Nodup
  usable : ∀ m ∈ pool, s.hasHandlerForMedium m = true ∧ m ≠ s.currentMedium I.env I.peer
  outgoing : r.client.isIncomingConnection R.peer = false
  named : r.client.localEndpointId = I.peer
  handles : ∀ m ∈ pool, ∀ trace, I.env.handleInitialize trace m
    (wrapInitiatorUpgradeServiceId (I.env.serviceId I.old)) I.peer = T.bytes m
  medium : ∀ m ∈ pool, upiMedium (T.info m) = m
  parses : ∀ m ∈ pool, T.bytes m ≠ [] → P.fromBytes (T.bytes m) = .ok (T.offer m)
  event : ∀ m ∈ pool, T.bytes m ≠ [] →
    eventOf (T.offer m) = some (.upgradePathAvailable, some (T.info m))
  codec : ∀ m ∈ pool, ∀ f ∈ forBwuFailure (T.info m) :: R.spoken r (T.info m),
    P.decode (P.encode f) = some f
  creates : ∀ m ∈ pool, ∀ trace, R.env.createUpgraded trace m
    (R.env.serviceId R.old) R.peer (T.info m) = if T.reaches m then some R.new else none

theorem World.asked_bytes {env : Env} {w : World} {e : String} {m : Medium}
    (h : w.hasHandlerForMedium m = true) (c : ChannelId) :
    (w.asked env e m c).1 = env.handleInitialize (w.prepared e m).trace m
      (wrapInitiatorUpgradeServiceId (env.serviceId c)) e := by
  obtain ⟨-, hd, hl⟩ := hasHandlerForMedium_iff.mp h
  have hl' : (w.prepared e m).handlers.lookup m = some hd := by
    rw [prepared, setBwuMediumForEndpoint_frame]
    exact hl
  rw [asked, initializeUpgradedMediumForEndpoint, hl']
  dsimp only
  split <;> rfl

theorem upiMedium_ne_bleL2cap (info : UpgradePathInfo) : upiMedium info ≠ .bleL2cap := by
  rw [upiMedium]
  cases (info.medium.bind UpgradePath.Medium.tryFrom).getD .unknownMedium <;> decide

namespace Bargain

variable {P : Prost} {T : Terms} {I R : Side} {pool : List Medium} {s r : World} {w t v : World}
  {stage : Swap.Stage} {m : Medium}

theorem currentMedium_ne (h : Bargain P T I R pool s r) :
    s.currentMedium I.env I.peer ≠ .wifiLan := by
  intro hlan
  refine h.offLan (World.isWifiLanConnected_of_channel h.initiator.registered ?_)
  rw [World.currentMedium, h.initiator.registered] at hlan
  exact hlan

theorem eligible (h : Bargain P T I R pool s r) (hm : m ∈ pool) :
    s.Eligible I.env I.peer m := by
  have hchannel : s.getChannelForEndpoint I.peer ≠ none := by
    rw [h.initiator.registered]
    simp
  obtain ⟨hhandler, helsewhere⟩ := h.usable m hm
  exact ⟨fun hw => h.offLan hw.1, hhandler, helsewhere, hchannel⟩

theorem passes (h : Bargain P T I R pool s r) (hm : m ∈ pool)
    (hw : I.Abides s .idle w) : w.InitiatePasses I.env I.peer m := by
  refine World.initiatePasses_iff.mpr
    ⟨(hw.bearings.eligible I.env I.peer m).mpr (h.eligible hm), ?_⟩
  simp [hw.stands.inProgress, busy]

theorem asked_bytes (h : Bargain P T I R pool s r) (hm : m ∈ pool)
    (hw : I.Abides s .idle w) (n : Node) :
    (w.asked (I.online P n) I.peer m I.old).1 = T.bytes m := by
  rw [World.asked_bytes ((h.passes hm hw).2.1)]
  exact h.handles m hm _

end Bargain

structure World.RetriesIn (e : String) (delay : Duration) (t : World) : Prop where
  unset : t.getBwuMediumForEndpoint e = .unknownMedium
  alarm : t.retryUpgradeAlarms.lookup e = some delay
  last : t.retryDelays.lookup e = some delay

def ComesTo (f : Nat → Except Abort World) (t : World) : Prop :=
  (∃ fuel, f fuel = .ok t) ∧ ∀ fuel t', f fuel = .ok t' → t' = t

/-- What the initiator comes to when it turns to the mediums `ms`: the first for which it has an
offer is offered in `v`, or there is none and a retry is scheduled after `delay`. -/
inductive Bid (P : Prost) (T : Terms) (I : Side) (s : World) (delay : Duration) (w : World)
    (stage : Swap.Stage) : List Medium → World → Prop
  | offers {skipped rest : List Medium} {k : Medium} {v t : World} :
      (∀ m ∈ skipped, T.bytes m = []) → T.bytes k ≠ [] → s.fallbacks I.env I.peer k = rest →
      I.Abides s .idle v → I.Passage w stage .idle [] [] 0 0 v →
      (∀ n fuel, v.initiateBwuForEndpoint (I.online P n) (fuel + 1) I.peer k = .ok t) →
      I.Abides s (.offered false) t → Bid P T I s delay w stage (skipped ++ k :: rest) t
  | givesUp {ms : List Medium} {t : World} : (∀ m ∈ ms, T.bytes m = []) →
      I.Passage w stage .idle [] [] 0 0 t → World.SameBearings s t → t.RetriesIn I.peer delay →
      Bid P T I s delay w stage ms t

section

variable {P : Prost} {T : Terms} {I : Side} {s w w' t : World} {delay : Duration}
  {stage stage' : Swap.Stage} {m : Medium} {ms : List Medium}

theorem Bid.skip (h : Bid P T I s delay w stage ms t) (hm : T.bytes m = []) :
    Bid P T I s delay w stage (m :: ms) t := by
  cases h with
  | offers hskipped hk hrest hv hpass hinit ht =>
    rw [← List.cons_append]
    exact .offers (List.forall_mem_cons.mpr ⟨hm, hskipped⟩) hk hrest hv hpass hinit ht
  | givesUp hms hpass hbearings hretry =>
    exact .givesUp (List.forall_mem_cons.mpr ⟨hm, hms⟩) hpass hbearings hretry

theorem Bid.after (h : Bid P T I s delay w' stage' ms t)
    (hp : I.Passage w stage stage' [] [] 0 0 w') (hup : stage' ≠ .upgraded) :
    Bid P T I s delay w stage ms t := by
  cases h with
  | offers hskipped hk hrest hv hpass hinit ht =>
    exact .offers hskipped hk hrest hv (hp.trans hpass hup) hinit ht
  | givesUp hms hpass hbearings hretry =>
    exact .givesUp hms (hp.trans hpass hup) hbearings hretry

end

namespace Bargain

variable {P : Prost} {T : Terms} {I R : Side} {pool : List Medium} {s r : World} {w t v : World}
  {stage : Swap.Stage} {m : Medium} {delay : Duration}

theorem initiates (h : Bargain P T I R pool s r) (hm : m ∈ pool)
    (hw : I.Abides s .idle w) (hbytes : T.bytes m ≠ []) :
    ∃ t, (∀ n fuel, w.initiateBwuForEndpoint (I.online P n) (fuel + 1) I.peer m = .ok t) ∧
      I.Abides s (.offered false) t := by
  refine ⟨(w.offered (I.online P { world := w }) I.peer m I.old).2.enterInProgress I.peer,
    fun n fuel => ?_, ?_⟩
  · have hpasses : w.InitiatePasses (I.online P n) I.peer m := h.passes hm hw
    rw [World.initiateBwuForEndpoint, World.initiateBody_passes hpasses hw.stands.registered]
    have hasked : (w.asked (I.online P n) I.peer m I.old).1 ≠ [] := by rwa [h.asked_bytes hm hw n]
    exact (if_neg hasked).trans (if_neg (not_not.mpr rfl))
  · obtain ⟨⟨hc, hr, hp, hl, -⟩, ⟨hconfig, hecm, hclient, hhandlers⟩, hch, hd⟩ :=
      hw.asked (I.online P { world := w }) m I.old
    refine ⟨⟨hc, hr, hp, hl.trans (by simp), ?_⟩, ⟨hconfig, hecm, hclient, hhandlers⟩, hch, hd⟩
    simp [World.enterInProgress, World.emit, busy]

theorem unanswered (h : Bargain P T I R pool s r) (hm : m ∈ pool)
    (hw : I.Abides s .idle w) (hbytes : T.bytes m = []) (n : Node) :
    World.FailedIn (I.online P n) w I.peer m (w.asked (I.online P n) I.peer m I.old).2 := by
  have hpasses : w.InitiatePasses (I.online P n) I.peer m := h.passes hm hw
  exact .unanswered hpasses hw.stands.registered ((h.asked_bytes hm hw n).trans hbytes)

theorem passage_asked (h : Bargain P T I R pool s r) (hm : m ∈ pool)
    (hw : I.Abides s .idle w) (n : Node) :
    I.Passage w .idle .idle [] [] 0 0 (w.asked (I.online P n) I.peer m I.old).2 := by
  refine .of_inaudible (hw.asked _ m I.old).stands (by simp) ?_
  obtain ⟨u, bytes, htrace⟩ := World.asked_trace (I.online P n) I.peer (h.passes hm hw).2.1 I.old
  rw [htrace]
  exact .cons trivial (.one _ trivial)

theorem passage_abandoned (hw : I.Abides s stage w)
    (hstage : stage = .idle ∨ stage = .offered false) (env : Env) :
    I.Passage w stage .idle [] [] 0 0 (w.abandoned env I.peer) :=
  .of_inaudible (hw.abandoned hstage env).stands (by simp)
    ((World.reverts_abandoned env w I.peer).mono fun _ => Event.Reverts.inaudible)

theorem retries (hdelay : s.calculateNextRetryDelay I.peer = some delay)
    (hw : I.Abides s stage w) (hstage : stage = .idle ∨ stage = .offered false) (env : Env) :
    ∃ t, (w.abandoned env I.peer).retryUpgradesAfterDelay I.peer = .ok t ∧
      Bid P T I s delay w stage [] t := by
  have hab := hw.abandoned hstage env
  have hnext : (w.abandoned env I.peer).calculateNextRetryDelay I.peer = some delay := by
    rw [← hdelay, World.calculateNextRetryDelay, hab.delays, hab.bearings.config]
    rfl
  obtain ⟨hc, hr, hp, hl, hi⟩ := hab.stands
  obtain ⟨hconfig, hecm, hclient, hhandlers⟩ := hab.bearings
  rw [World.retryUpgradesAfterDelay, hnext]
  refine ⟨_, rfl, .givesUp (List.forall_mem_nil _) ?_ ⟨hconfig, hecm, hclient, hhandlers⟩
    ⟨?_, ?_, ?_⟩⟩
  · refine (passage_abandoned hw hstage env).trans (.of_inaudible ?_ (by simp) ?_) (by simp)
    · exact ⟨hc, hr, hp, hl, hi⟩
    · exact .one _ trivial
  · exact World.getBwuMediumForEndpoint_abandoned env w I.peer
  · exact AList.lookup_insert _
  · exact AList.lookup_insert _

theorem decides (h : Bargain P T I R pool s r) (hw : I.Abides s stage w) (n : Node) (m : Medium) :
    w.decision (I.online P n) I.peer m = match s.fallbacks I.env I.peer m with
      | [] => .retry
      | k :: _ => .attempt k := by
  rw [hw.bearings.decision]
  exact World.decision_fallbacks h.switches h.currentMedium_ne m

theorem reported_candidate (h : Bargain P T I R pool s r) (hm : m ∈ pool) :
    upiMedium (upgradePathInfoForMedium m) = m :=
  World.reported_eq fun hl2cap => upiMedium_ne_bleL2cap _ (hl2cap ▸ h.medium m hm)

theorem requests (h : Bargain P T I R pool s r) (n : Node) {k : Medium} {rest : List Medium}
    {w₁ : World} (hk : k ∈ pool) (hrest : s.fallbacks I.env I.peer k = rest)
    (hw₁ : I.Abides s .idle w₁) (hpass : I.Passage w stage .idle [] [] 0 0 w₁)
    (hturns : ∀ {v}, I.Abides s .idle v → ∃ t, Bid P T I s delay v .idle rest t ∧
      ComesTo (fun fuel => v.processUpgradeFailureEvent (I.online P n)
        (World.initiateBwuForEndpoint (I.online P n) fuel) I.peer (upgradePathInfoForMedium k)) t) :
    ∃ t, Bid P T I s delay w stage (k :: rest) t ∧
      ComesTo (fun fuel => w₁.initiateBwuForEndpoint (I.online P n) fuel I.peer k) t := by
  by_cases hbytes : T.bytes k = []
  case neg =>
    obtain ⟨t, ht, habides⟩ := h.initiates hk hw₁ hbytes
    have hbid : Bid P T I s delay w stage ([] ++ k :: rest) t :=
      .offers (List.forall_mem_nil _) hbytes hrest hw₁ hpass ht habides
    refine ⟨t, hbid, ⟨1, ht n 0⟩, fun fuel t' ht' => ?_⟩
    cases fuel with
    | zero => cases ht'
    | succ fuel => exact Except.ok.inj (ht'.symm.trans (ht n fuel))
  case pos =>
    obtain ⟨t, hbid, ⟨fuel, ht⟩, huniq⟩ := hturns (hw₁.asked (I.online P n) k I.old)
    have hround : ∀ fuel, w₁.initiateBwuForEndpoint (I.online P n) (fuel + 1) I.peer k = _ :=
      fun fuel => (h.unanswered hk hw₁ hbytes n).failure
    have hpassage := hpass.trans (h.passage_asked hk hw₁ n) (by simp)
    refine ⟨t, (hbid.after hpassage (by simp)).skip hbytes, ⟨fuel + 1, (hround fuel).trans ht⟩,
      fun fuel t' ht' => ?_⟩
    cases fuel with
    | zero => cases ht'
    | succ fuel => exact huniq fuel t' ((hround fuel).symm.trans ht')

theorem turns (h : Bargain P T I R pool s r)
    (hdelay : s.calculateNextRetryDelay I.peer = some delay) (n : Node) {info : UpgradePathInfo}
    {ms : List Medium} (hw : I.Abides s stage w)
    (hstage : stage = .idle ∨ stage = .offered false)
    (hms : s.fallbacks I.env I.peer (upiMedium info) = ms)
    (hsub : ∀ k ∈ ms, k ∈ pool) :
    ∃ t, Bid P T I s delay w stage ms t ∧
      ComesTo (fun fuel => w.processUpgradeFailureEvent (I.online P n)
        (World.initiateBwuForEndpoint (I.online P n) fuel) I.peer info) t := by
  induction ms generalizing w stage info with
  | nil =>
    simp only [World.processUpgradeFailureEvent_decision, h.decides hw n, hms]
    obtain ⟨t, ht, hbid⟩ := retries (P := P) (T := T) hdelay hw hstage (I.online P n)
    exact ⟨t, hbid, ⟨0, ht⟩, fun _ t' ht' => Except.ok.inj (ht'.symm.trans ht)⟩
  | cons k rest ih =>
    simp only [World.processUpgradeFailureEvent_decision, h.decides hw n, hms]
    have hk : k ∈ pool := hsub k List.mem_cons_self
    have hrest : s.fallbacks I.env I.peer k = rest := (World.fallbacks_cons h.nodup hms).1
    have hw₁ := (hw.abandoned hstage (I.online P n)).setBwuMediumForEndpoint I.peer k
    have hset : I.Passage (w.abandoned (I.online P n) I.peer) .idle .idle [] [] 0 0
        ((w.abandoned (I.online P n) I.peer).setBwuMediumForEndpoint I.peer k) := by
      refine .of_inaudible hw₁.stands (by simp) ?_
      rw [World.setBwuMediumForEndpoint_frame]
      exact .refl _ _
    refine h.requests n hk hrest hw₁
      ((passage_abandoned hw hstage (I.online P n)).trans hset (by simp)) fun hv => ?_
    refine ih hv (.inl rfl) ?_ fun k' hk' => hsub k' (List.mem_cons_of_mem _ hk')
    rw [h.reported_candidate hk, hrest]

theorem opens (h : Bargain P T I R pool s r)
    (hdelay : s.calculateNextRetryDelay I.peer = some delay)
    (hsub : ∀ k ∈ I.candidates s m, k ∈ pool) (n : Node) :
    ∃ t, Bid P T I s delay s .idle (I.candidates s m) t ∧
      ComesTo (fun fuel => s.initiateBwuForEndpoint (I.online P n) fuel I.peer m) t := by
  have hm : m ∈ pool := hsub m List.mem_cons_self
  refine h.requests n hm rfl h.initiator.abides h.initiator.stays fun hv => ?_
  refine h.turns hdelay n hv (.inl rfl) ?_ fun k hk => hsub k (List.mem_cons_of_mem _ hk)
  rw [h.reported_candidate hm]

end Bargain

/-! ### The responder turns an offer down -/

theorem World.getBwuMediumForEndpoint_revert (s : World) (u e : String) :
    (s.revertBwuMediumForEndpoint u e).getBwuMediumForEndpoint e = .unknownMedium := by
  rw [getBwuMediumForEndpoint, (sameBearings_revertBwuMediumForEndpoint s u e).config]
  by_cases hflag : s.config.supportMultipleBwuMediums = true
  case pos =>
    rw [if_pos hflag, revertBwuMediumForEndpoint_mediums hflag, AList.lookup_erase]
    rfl
  case neg =>
    rw [if_neg hflag]
    simp only [revertBwuMediumForEndpoint]
    rw [if_pos hflag]
    split
    case isTrue => rw [revertInitiatorState_frame]
    case isFalse => rfl

theorem Side.Abides.tell {x : Side} {s w : World} {env : Env} (hne : x.old ≠ x.new)
    (hwrite : ∀ trace c data, env.write trace c data = .success) (hw : x.Abides s .idle w)
    (info : UpgradePathInfo) :
    x.Passage w .idle .idle [.frame (forBwuFailure info)] [] 0 0
        (w.runUpgradeFailedProtocol env x.peer info) ∧
      x.Abides s .idle (w.runUpgradeFailedProtocol env x.peer info) ∧
      (w.runUpgradeFailedProtocol env x.peer info).getBwuMediumForEndpoint x.peer =
        .unknownMedium := by
  have hreg : w.getChannelForEndpoint x.peer = some x.old := hw.stands.registered
  have hsaid : (w.write env (some x.peer) x.old (.frame (forBwuFailure info))).2 =
      w.emit (.write (some x.peer) x.old (.frame (forBwuFailure info)) (w.channels x.old).paused
        (w.channels x.old).encrypted .success) := by
    rw [World.write, hwrite]
  have hpass : x.Passage w .idle .idle [.frame (forBwuFailure info)] [] 0 0
      (w.write env (some x.peer) x.old (.frame (forBwuFailure info))).2 := by
    rw [hsaid]
    have hemit := hw.stands.emit (.write (some x.peer) x.old (.frame (forBwuFailure info))
      (w.channels x.old).paused (w.channels x.old).encrypted .success) (by simp [Side.Through])
    simpa [sentOn, readsOn, hne] using hemit
  have habides :
      x.Abides s .idle (w.write env (some x.peer) x.old (.frame (forBwuFailure info))).2 := by
    rw [hsaid]
    exact hw.emit _
  have htold := World.runUpgradeFailedProtocol_told env w x.peer info
  generalize w.runUpgradeFailedProtocol env x.peer info = t at htold ⊢
  cases htold with
  | unregistered hc =>
    rw [hreg] at hc
    cases hc
  | unwritten _ hw =>
    rw [hwrite] at hw
    cases hw
  | reverted hc _ _ =>
    cases hreg.symm.trans hc
    refine ⟨hpass.trans (.of_inaudible ((habides.revert _ _).leave (.inl rfl)).stands (by simp) ?_)
      (by simp), (habides.revert _ _).leave (.inl rfl), ?_⟩
    · exact (World.reverts_revertBwuMediumForEndpoint _ _ _).mono fun _ => Event.Reverts.inaudible
    · exact World.getBwuMediumForEndpoint_revert _ _ _
  | mediumless hc _ hunset =>
    cases hreg.symm.trans hc
    refine ⟨hpass.trans (.of_inaudible (habides.leave (.inl rfl)).stands (by simp) ?_) (by simp),
      habides.leave (.inl rfl), hunset⟩
    exact .refl _ _

namespace Bargain

variable {P : Prost} {T : Terms} {I R : Side} {pool : List Medium} {s r w : World} {m : Medium}

def TurnsDown (P : Prost) (T : Terms) (R : Side) (r : World) (m : Medium) (w : World) : Prop :=
  ∀ n : Node, ∃ t, w.beginPathAvailable (R.online P n) R.peer (T.info m) = .returned t ∧
    R.Passage w .idle .idle [.frame (forBwuFailure (T.info m))] [] 0 0 t ∧
    R.Abides r .idle t ∧ t.getBwuMediumForEndpoint R.peer = .unknownMedium

theorem undialled (h : Bargain P T I R pool s r) (hm : m ∈ pool)
    (hw : R.Abides r .idle w) (hmedium : w.getBwuMediumForEndpoint R.peer = m)
    (hno : r.hasHandlerForMedium m = true → T.reaches m = false) (n : Node) :
    ∃ d, w.dialUpgraded (R.online P n) R.peer (T.info m) = (none, d) ∧
      R.Passage w .idle .idle [] [] 0 0 d ∧ R.Abides r .idle d := by
  have hreg : w.getChannelForEndpoint R.peer = some R.old := hw.stands.registered
  simp only [World.dialUpgraded, h.medium m hm, hmedium, ne_eq, not_true_eq_false, if_false, hreg]
  by_cases hh : w.hasHandlerForMedium m = true
  case neg => exact ⟨w, if_pos hh, hw.stands.stays, hw⟩
  case pos =>
    have hreaches : T.reaches m = false := hno ((hw.bearings.handlers m).symm.trans hh)
    have hcreate : (R.online P n).createUpgraded w.trace m ((R.online P n).serviceId R.old) R.peer
        (T.info m) = none := by
      have hnone := h.creates m hm w.trace
      rw [hreaches] at hnone
      exact hnone
    simp only [hh, not_true_eq_false, if_false, hcreate]
    exact ⟨_, rfl, .of_inaudible (hw.emit _).stands (by simp) (.one _ trivial), hw.emit _⟩

theorem refuses (h : Bargain P T I R pool s r) (hm : m ∈ pool)
    (hw : R.Abides r .idle w) (hunset : w.getBwuMediumForEndpoint R.peer = .unknownMedium)
    (hbytes : T.bytes m ≠ []) (hno : ¬ T.serves R r m = true) : TurnsDown P T R r m w := by
  intro n
  have hwrite : ∀ trace c data, (R.online P n).write trace c data = .success := fun _ _ _ => rfl
  have hlan : w.isWifiLanConnected (R.online P n) = r.isWifiLanConnected R.env :=
    World.isWifiLanConnected_congr (R.online P n) hw.bearings.ecm
  simp only [World.beginPathAvailable, h.medium m hm, hlan]
  by_cases hbarred : r.isWifiLanConnected R.env = true ∧ m = .wifiHotspot
  case pos =>
    rw [if_pos hbarred]
    exact ⟨_, rfl, hw.tell h.responderLinks hwrite _⟩
  case neg =>
    have hincoming : w.client.isIncomingConnection R.peer = false := by
      rw [hw.bearings.client]
      exact h.outgoing
    have hidle : R.peer ∉ w.inProgressUpgrades := by simp [hw.stands.inProgress, busy]
    have hw₁ := hw.setBwuMediumForEndpoint R.peer m
    have hget := World.getBwuMediumForEndpoint_set w R.peer m
    have hpass : R.Passage w .idle .idle [] [] 0 0 (w.setBwuMediumForEndpoint R.peer m) := by
      refine .of_inaudible hw₁.stands (by simp) ?_
      rw [World.setBwuMediumForEndpoint_frame]
      exact .refl _ _
    have hunreached : r.hasHandlerForMedium m = true → T.reaches m = false := by
      intro hh
      by_contra hreaches
      have hopen : (r.isWifiLanConnected R.env && decide (m = .wifiHotspot)) = false := by
        rw [← Bool.not_eq_true, Bool.and_eq_true, decide_eq_true_eq]
        exact hbarred
      refine hno ?_
      rw [Terms.serves, hopen, hh, Bool.eq_true_of_not_eq_false hreaches]
      simpa using hbytes
    obtain ⟨d, hdial, hd, habides⟩ := h.undialled hm hw₁ hget hunreached n
    simp only [if_neg hbarred, hincoming, Bool.false_eq_true, if_false, if_neg hidle, hunset,
      if_true, hget, ne_eq, not_true_eq_false, hdial]
    obtain ⟨htell, hafter, hforgotten⟩ := habides.tell h.responderLinks hwrite (T.info m)
    exact ⟨_, rfl, (hpass.trans hd (by simp)).trans htell (by simp), hafter, hforgotten⟩

theorem dismisses (h : Bargain P T I R pool s r) (hm : m ∈ pool) (hw : R.Abides r .idle w)
    (hknown : w.getBwuMediumForEndpoint R.peer ≠ .unknownMedium)
    (hother : m ≠ w.getBwuMediumForEndpoint R.peer) : TurnsDown P T R r m w := by
  intro n
  have hwrite : ∀ trace c data, (R.online P n).write trace c data = .success := fun _ _ _ => rfl
  have htell := hw.tell h.responderLinks hwrite (T.info m)
  have hincoming : w.client.isIncomingConnection R.peer = false := by
    rw [hw.bearings.client]
    exact h.outgoing
  have hidle : R.peer ∉ w.inProgressUpgrades := by simp [hw.stands.inProgress, busy]
  simp only [World.beginPathAvailable, h.medium m hm]
  by_cases hbarred : w.isWifiLanConnected (R.online P n) = true ∧ m = .wifiHotspot
  case pos => exact ⟨_, if_pos hbarred, htell⟩
  case neg =>
    simp only [if_neg hbarred, hincoming, Bool.false_eq_true, if_false, if_neg hidle,
      if_neg hknown, if_pos hother]
    exact ⟨_, rfl, htell⟩

end Bargain

/-! ### What stays on record -/

namespace World

variable {env : Env} {s t : World} {e : String} {c : ChannelId} {info : UpgradePathInfo}

theorem Aside.getBwuMediumForEndpoint (h : Aside s t) (e : String) :
    t.getBwuMediumForEndpoint e = s.getBwuMediumForEndpoint e := by
  rw [World.getBwuMediumForEndpoint, World.getBwuMediumForEndpoint, h.config, h.medium, h.mediums]

theorem getBwuMediumForEndpoint_dialled (hacc : s.Accepts env e info)
    (h : s.beginPathAvailable env e info = .dialled c t) :
    t.getBwuMediumForEndpoint e = upiMedium info := by
  rw [beginPathAvailable_accepts hacc] at h
  split at h
  case isTrue => cases h
  case isFalse hsame =>
    have haside := (aside_dialUpgraded env (s.adopted e (upiMedium info)) e info).1
    split at h
    case h_1 => cases h
    case h_2 =>
      cases h
      rw [haside.getBwuMediumForEndpoint, ← not_not.mp hsame]

theorem runUpgradeFailedProtocol_ecm (env : Env) (s : World) (e : String) (info : UpgradePathInfo) :
    (s.runUpgradeFailedProtocol env e info).ecm = s.ecm := by
  have htold := runUpgradeFailedProtocol_told env s e info
  generalize s.runUpgradeFailedProtocol env e info = t at htold ⊢
  cases htold with
  | unregistered | unwritten | mediumless => rfl
  | reverted => exact (sameBearings_revertBwuMediumForEndpoint _ _ _).ecm

theorem getBwuMediumForEndpoint_finished
    (h : (s.finishPathAvailable env e info c).getChannelForEndpoint e ≠
      s.getChannelForEndpoint e) :
    (s.finishPathAvailable env e info c).getBwuMediumForEndpoint e =
      s.getBwuMediumForEndpoint e := by
  simp only [finishPathAvailable] at h ⊢
  generalize hacked : (if info.supportsClientIntroductionAck.getD false = true then
    s.readClientIntroductionAckFrame env c else (true, s)) = acked at h ⊢
  have hread : Aside s acked.2 ∧ acked.2.ecm = s.ecm := by
    rw [← hacked]
    split
    case isTrue => exact ⟨aside_emit s id, rfl⟩
    case isFalse => exact ⟨.refl s, rfl⟩
  split at h
  case isTrue =>
    refine absurd (getChannelForEndpoint_congr ?_ e) h
    rw [runUpgradeFailedProtocol_ecm]
    exact hread.2
  case isFalse hok =>
    rw [if_neg hok, (aside_runUpgradeProtocol env _ e c _).getBwuMediumForEndpoint]
    exact hread.1.getBwuMediumForEndpoint e

end World

namespace Net

variable {P : Prost} {I R : Side} {m : Medium} {offer : OfflineFrame} {info : UpgradePathInfo}
  {bytes : Bytes} {s r : World} {n n' : Net} {j : Swap.Pair}

def Recorded (R : Side) (m : Medium) (n : Net) : Prop :=
  n.responder.heard ≠ [] → n.responder.world.getBwuMediumForEndpoint R.peer = m

theorem heard_ne_nil {p : Swap.Party} {peer : Swap.Stage} (h : p.Hears [.offer] peer)
    (hidle : p.stage ≠ .idle) : p.heard ≠ [] := by
  obtain ⟨drained, -, hheard⟩ := h
  intro hnil
  rw [hnil] at hheard
  generalize p.stage = stage at hheard hidle
  match stage with
  | .idle => exact hidle rfl
  | .dialled | .offered false | .swapped false => cases hheard.1
  | .offered true | .swapped true => cases hheard.1
  | .upgraded =>
    obtain ⟨more, hmore⟩ := hheard
    cases hmore

theorem eventOf_message_failure (offer : OfflineFrame) {k : Swap.Message} (hk : k ≠ .offer)
    (info : UpgradePathInfo) :
    eventOf (messageFrame offer k) ≠ some (.upgradeFailure, some info) := by
  cases k with
  | offer => exact absurd rfl hk
  | lastWrite => simp [messageFrame, eventOf_forBwuLastWrite]
  | safeToClose => simp [messageFrame, eventOf_forBwuSafeToClose]
  | disconnection => simp [messageFrame, eventOf]

theorem Follows.recorded (hr : Ready P I R m offer info bytes s r)
    (h : n.Follows I R offer info bytes r j) (hj : j.Sound) (hst : Step P I R n n')
    (hn : n.Recorded R m) : n'.Recorded R m := by
  cases hst with
  | frameToInitiator | socket => exact hn
  | @frameToResponder _ _ _ fuel t hnone hq hparse hdials hframe =>
    obtain ⟨k, ks, hinbox, rfl, rfl⟩ := next_message h.responder hr hq hparse
    have hdialled : j.responder.stage ≠ .dialled := by
      intro hd
      rw [h.dialled, if_pos hd] at hnone
      cases hnone
    by_cases hidle : j.responder.stage = .idle
    case pos =>
      obtain ⟨rfl, t', hbegin, -⟩ := h.offerToResponder hr hj hinbox hidle
      exact absurd ⟨info, _, t', hr.event, h.responder.stands.connected, hbegin⟩ hdials
    case neg =>
      have hk := (h.toResponder hr hj hinbox hidle hdialled fuel).1
      have hheard : n.responder.heard ≠ [] := by
        rw [h.responder.heard]
        simpa using heard_ne_nil hj.responder hidle
      intro _
      have hdispatched := World.onIncomingFrame_dispatched hframe
      change t.getBwuMediumForEndpoint R.peer = m
      cases hdispatched with
      | aside haside => rw [haside.getBwuMediumForEndpoint, hn hheard]
      | refused hev | takenUp hev => exact absurd hev (eventOf_message offer hk _)
      | failure _ hev => exact absurd hev (eventOf_message_failure offer hk _)
  | @offerToResponder _ _ _ _ _ t hnone hq hparse hevent hconn hbegin =>
    obtain ⟨k, ks, hinbox, rfl, rfl⟩ := next_message h.responder hr hq hparse
    by_cases hidle : j.responder.stage = .idle
    case neg =>
      have hdialled : j.responder.stage ≠ .dialled := by
        intro hd
        rw [h.dialled, if_pos hd] at hnone
        cases hnone
      exact absurd hevent
        (eventOf_message offer (h.toResponder hr hj hinbox hidle hdialled 0).1 _)
    case pos =>
      obtain ⟨rfl, -⟩ := h.offerToResponder hr hj hinbox hidle
      cases hr.event.symm.trans hevent
      intro _
      have hacc := hr.accepts
      rw [← (h.idle hidle).1] at hacc
      have haccepts : n.responder.world.Accepts
          (R.online P (n.responder.take (ks.map (messagePayload bytes)) offer)) R.peer info :=
        ⟨hacc.connected, hacc.allowed, hacc.outgoing, hacc.idle⟩
      exact (World.getBwuMediumForEndpoint_dialled haccepts hbegin).trans hr.medium
  | finish hd hack ht =>
    rw [h.dialled] at hd
    split at hd
    case isFalse => cases hd
    case isTrue hdialled =>
      cases hd
      have hoffered : info.supportsClientIntroductionAck.getD false = true →
          j.initiator.stage.isOffered = false := by
        intro ha
        have hnew := hack ha
        rw [h.ack (.inr hdialled)] at hnew
        by_contra hoffered
        exact hnew (if_pos (Bool.eq_true_of_not_eq_false hoffered))
      have hbefore := h.responder.stands.registered
      rw [hdialled] at hbefore
      subst ht
      have hafter : World.getChannelForEndpoint _ R.peer = some R.new :=
        (h.finish hr hdialled hoffered rfl).responder.stands.registered
      intro hheard
      refine (World.getBwuMediumForEndpoint_finished fun hsame => ?_).trans (hn hheard)
      exact hr.responderLinks (Option.some.inj (hafter.symm.trans (hsame.trans hbefore))).symm

theorem reached_recorded (hr : Ready P I R m offer info bytes s r) {fuel : Nat} {s' : World}
    (hinit : s.initiateBwuForEndpoint (I.online P { world := s }) fuel I.peer m = .ok s')
    (hn : ReflTransGen (Step P I R) (Net.start I s s' r) n) : n.Recorded R m := by
  induction hn with
  | refl => exact fun hheard => absurd rfl hheard
  | tail hrun hst ih =>
    obtain ⟨j, hj, hf⟩ := reached_follows hr hinit hrun
    exact hf.recorded hr hj hst ih

end Net

/-! ### How it ends -/

def mediumNamed (event : EventType) (frame : OfflineFrame) : Option Medium :=
  (eventOf frame).bind fun x => if x.1 = event then x.2.map upiMedium else none

namespace Net

/-- The responder was offered the mediums it could not do, in order, and then `m`, over which the
two are upgraded and which it keeps on record; the initiator was told of each failure. -/
structure Agreed (I R : Side) (tried : List Medium) (m : Medium) (n : Net) : Prop where
  initiator : I.Stands .upgraded n.initiator.world
  responder : R.Stands .upgraded n.responder.world
  known : n.responder.world.getBwuMediumForEndpoint R.peer = m
  failed : n.initiator.heard.filterMap (mediumNamed .upgradeFailure) = tried
  offered : n.responder.heard.filterMap (mediumNamed .upgradePathAvailable) = tried ++ [m]

structure Quiet (n : Net) : Prop where
  toInitiator : n.initiator.old = [] ∧ n.initiator.new = []
  toResponder : n.responder.old = [] ∧ n.responder.new = []
  undialled : n.incoming = false ∧ n.dialled = none

/-- Every offer failed.  Both are where they were in `s` and `r`, a retry is pending at the
initiator, and the responder has `known` for the medium. -/
structure Parted (I R : Side) (s r : World) (known : Medium) (delay : Duration)
    (tried : List Medium) (n : Net) : Prop where
  quiet : n.Quiet
  initiator : I.Stands .idle n.initiator.world
  bearings : World.SameBearings s n.initiator.world
  retry : n.initiator.world.RetriesIn I.peer delay
  responder : R.Abides r .idle n.responder.world
  known : n.responder.world.getBwuMediumForEndpoint R.peer = known
  failed : n.initiator.heard.filterMap (mediumNamed .upgradeFailure) = tried
  offered : n.responder.heard.filterMap (mediumNamed .upgradePathAvailable) = tried

/-- The two agree on the first of `ms` that both can do, if there is one. -/
def Concluded (T : Terms) (I R : Side) (s r : World) (delay : Duration) (ms tried : List Medium)
    (n : Net) : Prop :=
  (∃ before m after, ms = before ++ m :: after ∧ (∀ k ∈ before, ¬ T.serves R r k = true) ∧
    T.serves R r m = true ∧ n.Agreed I R (tried ++ before.filter (T.bytes · ≠ [])) m) ∨
  (∀ k ∈ ms, ¬ T.serves R r k = true) ∧
    n.Parted I R s r .unknownMedium delay (tried ++ ms.filter (T.bytes · ≠ []))

variable {P : Prost} {T : Terms} {I R : Side} {s r : World} {delay : Duration} {k : Medium}
  {ms tried : List Medium} {n n' : Net}

theorem Concluded.cons (h : n.Concluded T I R s r delay ms (tried ++ [k].filter (T.bytes · ≠ [])))
    (hk : ¬ T.serves R r k = true) : n.Concluded T I R s r delay (k :: ms) tried := by
  have hfilter : ∀ ms : List Medium, (k :: ms).filter (T.bytes · ≠ []) =
      [k].filter (T.bytes · ≠ []) ++ ms.filter (T.bytes · ≠ []) := fun ms =>
    List.filter_append (p := fun m => decide (T.bytes m ≠ [])) [k] ms
  rcases h with ⟨before, m, after, rfl, hbefore, hm, hagreed⟩ | ⟨hms, hparted⟩
  · refine .inl ⟨k :: before, m, after, rfl, List.forall_mem_cons.mpr ⟨hk, hbefore⟩, hm, ?_⟩
    rwa [hfilter, ← List.append_assoc]
  · refine .inr ⟨List.forall_mem_cons.mpr ⟨hk, hms⟩, ?_⟩
    rwa [hfilter, ← List.append_assoc]

theorem Concluded.skip {skipped : List Medium} (h : n.Concluded T I R s r delay ms tried)
    (hskipped : ∀ k ∈ skipped, T.bytes k = []) :
    n.Concluded T I R s r delay (skipped ++ ms) tried := by
  induction skipped with
  | nil => exact h
  | cons k skipped ih =>
    obtain ⟨hk, hskipped⟩ := List.forall_mem_cons.mp hskipped
    have hrest := ih hskipped
    refine Concluded.cons ?_ ?_
    · simpa [hk] using hrest
    · simp [Terms.serves, hk]

theorem Quiet.stuck (h : n.Quiet) (n' : Net) : ¬ Step P I R n n' := by
  intro hst
  cases hst with
  | frameToInitiator hq =>
    rw [h.toInitiator.1] at hq
    cases hq
  | frameToResponder _ hq | offerToResponder _ hq =>
    rw [h.toResponder.1] at hq
    cases hq
  | socket hin =>
    rw [h.undialled.1] at hin
    cases hin
  | finish hd =>
    rw [h.undialled.2] at hd
    cases hd

/-- The offer of `k`, made in `v`, is on the way to the responder, which has `known` for the
medium. -/
structure Bidding (P : Prost) (T : Terms) (I R : Side) (s r : World) (known : Medium)
    (tried : List Medium) (k : Medium) (v : World) (n : Net) : Prop where
  asked : I.Abides s .idle v
  initiates : ∀ a fuel, v.initiateBwuForEndpoint (I.online P a) (fuel + 1) I.peer k =
    .ok n.initiator.world
  initiator : I.Abides s (.offered false) n.initiator.world
  responder : R.Abides r .idle n.responder.world
  known : n.responder.world.getBwuMediumForEndpoint R.peer = known
  toInitiator : n.initiator.old = [] ∧ n.initiator.new = []
  toResponder : n.responder.old = [.offer (T.bytes k)] ∧ n.responder.new = []
  undialled : n.incoming = false ∧ n.dialled = none
  failed : n.initiator.heard.filterMap (mediumNamed .upgradeFailure) = tried
  offered : n.responder.heard.filterMap (mediumNamed .upgradePathAvailable) = tried

structure Reporting (T : Terms) (I R : Side) (s r : World) (tried : List Medium) (k : Medium)
    (n : Net) : Prop where
  initiator : I.Abides s (.offered false) n.initiator.world
  responder : R.Abides r .idle n.responder.world
  unset : n.responder.world.getBwuMediumForEndpoint R.peer = .unknownMedium
  toInitiator : n.initiator.old = [.frame (forBwuFailure (T.info k))] ∧ n.initiator.new = []
  toResponder : n.responder.old = [] ∧ n.responder.new = []
  undialled : n.incoming = false ∧ n.dialled = none
  failed : n.initiator.heard.filterMap (mediumNamed .upgradeFailure) = tried
  offered : n.responder.heard.filterMap (mediumNamed .upgradePathAvailable) = tried ++ [k]

end Net

theorem Side.Passage.proceed {x : Side} {n : Node} {stage stage' : Swap.Stage}
    {onOld onNew : List Payload} {drained taken : Nat} {t : World}
    (h : x.Passage n.world stage stage' onOld onNew drained taken t) :
    (n.proceed x t).old = n.old.drop drained ∧ (n.proceed x t).new = n.new.drop taken := by
  obtain ⟨xs, htrace, -, -, hd, ht, -⟩ := h.calls
  rw [Node.proceed, fresh_eq htrace, hd, ht]
  exact ⟨rfl, rfl⟩

theorem Side.Passage.receive {x : Side} {n : Node} {s : World} {stage stage' : Swap.Stage}
    {onOld onNew : List Payload} {drained taken : Nat} {t : World}
    (h : x.Passage s stage stage' onOld onNew drained taken t) :
    (n.receive x s t).old = n.old ++ onOld ∧ (n.receive x s t).new = n.new ++ onNew := by
  obtain ⟨xs, htrace, hold, hnew, -⟩ := h.calls
  rw [Node.receive, fresh_eq htrace, hold, hnew]
  exact ⟨rfl, rfl⟩

namespace Net

variable {P : Prost} {T : Terms} {I R : Side} {pool : List Medium} {s r v : World}
  {delay : Duration} {known k : Medium} {ms tried : List Medium} {n n' : Net}

theorem mediumNamed_offer (h : Bargain P T I R pool s r) (hk : k ∈ pool)
    (hbytes : T.bytes k ≠ []) : mediumNamed .upgradePathAvailable (T.offer k) = some k := by
  rw [mediumNamed, h.event k hk hbytes]
  exact congrArg some (h.medium k hk)

theorem mediumNamed_failure (h : Bargain P T I R pool s r) (hk : k ∈ pool) :
    mediumNamed .upgradeFailure (forBwuFailure (T.info k)) = some k := by
  rw [mediumNamed, eventOf_forBwuFailure]
  exact congrArg some (h.medium k hk)

theorem Bidding.refused (h : Bargain P T I R pool s r) (hk : k ∈ pool) (hbytes : T.bytes k ≠ [])
    (hno : Bargain.TurnsDown P T R r k n.responder.world)
    (hn : n.Bidding P T I R s r known tried k v) :
    (∃ n', Step P I R n n') ∧ ∀ n', Step P I R n n' → n'.Reporting T I R s r tried k := by
  have hparse : P.fromBytes ((Payload.offer (T.bytes k)).bytes P) = .ok (T.offer k) :=
    h.parses k hk hbytes
  have hevent := h.event k hk hbytes
  obtain ⟨t, hbegin, hpass, habides, hunset⟩ := hno (n.responder.take [] (T.offer k))
  have hconn := hn.responder.stands.connected
  have hframe : ∀ fuel, n.responder.world.onIncomingFrame
      (R.online P (n.responder.take [] (T.offer k))) fuel (T.offer k) R.peer = .ok t := by
    intro fuel
    rw [World.onIncomingFrame_offer fuel hconn hevent, World.processBwuPathAvailableEvent, hbegin]
  have hdials : ¬ Dials (R.online P (n.responder.take [] (T.offer k))) n.responder.world
      (T.offer k) R.peer := by
    rintro ⟨info, c, t', hev, -, hdialled⟩
    cases hevent.symm.trans hev
    cases hbegin.symm.trans hdialled
  refine ⟨⟨_, .frameToResponder hn.undialled.2 hn.toResponder.1 hparse hdials (hframe 0)⟩,
    fun n' hst => ?_⟩
  cases hst with
  | frameToInitiator hq =>
    rw [hn.toInitiator.1] at hq
    cases hq
  | offerToResponder _ hq hparse' hev _ hdialled =>
    cases hn.toResponder.1.symm.trans hq
    cases hparse.symm.trans hparse'
    cases hevent.symm.trans hev
    cases hbegin.symm.trans hdialled
  | socket hin =>
    rw [hn.undialled.1] at hin
    cases hin
  | finish hd =>
    rw [hn.undialled.2] at hd
    cases hd
  | frameToResponder _ hq hparse' _ hframe' =>
    cases hn.toResponder.1.symm.trans hq
    cases hparse.symm.trans hparse'
    cases (hframe _).symm.trans hframe'
    have hproceed : ((n.responder.take [] (T.offer k)).proceed R t).old = [] ∧
        ((n.responder.take [] (T.offer k)).proceed R t).new = n.responder.new :=
      Side.Passage.proceed (n := n.responder.take [] (T.offer k)) hpass
    have hreceive := hpass.receive (n := n.initiator)
    rw [hn.toInitiator.1, hn.toInitiator.2] at hreceive
    refine ⟨hn.initiator, habides, hunset, hreceive,
      ⟨hproceed.1, hproceed.2.trans hn.toResponder.2⟩, hn.undialled, hn.failed, ?_⟩
    change (n.responder.heard ++ [T.offer k]).filterMap _ = _
    rw [List.filterMap_append, hn.offered, List.filterMap_cons, mediumNamed_offer h hk hbytes]
    rfl

structure Turning (R : Side) (r : World) (known : Medium) (tried : List Medium) (a b : Node) :
    Prop where
  responder : R.Abides r .idle b.world
  known : b.world.getBwuMediumForEndpoint R.peer = known
  toInitiator : a.old = [] ∧ a.new = []
  toResponder : b.old = [] ∧ b.new = []
  failed : a.heard.filterMap (mediumNamed .upgradeFailure) = tried
  offered : b.heard.filterMap (mediumNamed .upgradePathAvailable) = tried

inductive Left (P : Prost) (T : Terms) (I R : Side) (s r : World) (known : Medium)
    (delay : Duration) (tried : List Medium) (n : Net) : List Medium → Prop
  | bidding {skipped rest : List Medium} {k : Medium} {v : World} :
      (∀ m ∈ skipped, T.bytes m = []) → T.bytes k ≠ [] → s.fallbacks I.env I.peer k = rest →
      n.Bidding P T I R s r known tried k v →
      Left P T I R s r known delay tried n (skipped ++ k :: rest)
  | parted {ms : List Medium} : (∀ m ∈ ms, T.bytes m = []) →
      n.Parted I R s r known delay tried → Left P T I R s r known delay tried n ms

theorem Turning.left {a b : Node} {t : World} {stage : Swap.Stage} (h : Bargain P T I R pool s r)
    (hab : Turning R r known tried a b) (hbid : Bid P T I s delay a.world stage ms t)
    (hsub : ∀ k ∈ ms, k ∈ pool) (hi : n.initiator = a.proceed I t)
    (hr : n.responder = b.receive I a.world t) (hu : n.incoming = false ∧ n.dialled = none) :
    n.Left P T I R s r known delay tried ms := by
  have hworld : n.initiator.world = t := by rw [hi]; rfl
  have hworld' : n.responder.world = b.world := by rw [hr]; rfl
  have hfailed : n.initiator.heard.filterMap (mediumNamed .upgradeFailure) = tried := by
    rw [hi]
    exact hab.failed
  have hoffered : n.responder.heard.filterMap (mediumNamed .upgradePathAvailable) = tried := by
    rw [hr]
    exact hab.offered
  have hresponder := hab.responder
  have hknown := hab.known
  rw [← hworld'] at hresponder hknown
  cases hbid with
  | @offers skipped rest k v _ hskipped hbytes hrest hv hpass hinit habides =>
    have hk : k ∈ pool := hsub k (by simp)
    have hpasses : v.InitiatePasses (I.online P a) I.peer k := h.passes hk hv
    have hpass' : I.Passage v .idle (.offered false) [.offer (T.bytes k)] [] 0 0 t :=
      hv.stands.initiate (fun _ _ _ => rfl) h.initiatorLinks hpasses hbytes (h.handles k hk _)
        (hinit a 0)
    have hwhole := hpass.trans hpass' (by simp)
    have hto := hwhole.proceed
    have hfrom := hwhole.receive (n := b)
    rw [← hi, hab.toInitiator.1, hab.toInitiator.2] at hto
    rw [← hr, hab.toResponder.1, hab.toResponder.2] at hfrom
    rw [← hworld] at hinit habides
    exact .bidding hskipped hbytes hrest
      ⟨hv, hinit, habides, hresponder, hknown, hto, hfrom, hu, hfailed, hoffered⟩
  | givesUp hms hpass hbearings hretry =>
    have hto := hpass.proceed
    have hfrom := hpass.receive (n := b)
    rw [← hi, hab.toInitiator.1, hab.toInitiator.2] at hto
    rw [← hr, hab.toResponder.1, hab.toResponder.2] at hfrom
    have hstands := hpass.stands
    rw [← hworld] at hstands hbearings hretry
    exact .parted hms
      ⟨⟨hto, hfrom, hu⟩, hstands, hbearings, hretry, hresponder, hknown, hfailed, hoffered⟩

theorem Reporting.turns (h : Bargain P T I R pool s r)
    (hdelay : s.calculateNextRetryDelay I.peer = some delay) (hk : k ∈ pool)
    (hms : s.fallbacks I.env I.peer k = ms) (hsub : ∀ m ∈ ms, m ∈ pool)
    (hn : n.Reporting T I R s r tried k) :
    (∃ n', Step P I R n n') ∧
      ∀ n', Step P I R n n' →
        n'.Left P T I R s r .unknownMedium delay (tried ++ [k]) ms := by
  have hparse : P.fromBytes ((Payload.frame (forBwuFailure (T.info k))).bytes P) =
      .ok (forBwuFailure (T.info k)) :=
    Prost.fromBytes_of_decode (h.codec k hk _ List.mem_cons_self) rfl
  have hconn := hn.initiator.stands.connected
  have hms' : s.fallbacks I.env I.peer (upiMedium (T.info k)) = ms := by rw [h.medium k hk, hms]
  obtain ⟨t, hbid, ⟨fuel, ht⟩, huniq⟩ := h.turns hdelay
    (n.initiator.take [] (forBwuFailure (T.info k))) hn.initiator (.inr rfl) hms' hsub
  have hframe : ∀ fuel, n.initiator.world.onIncomingFrame
      (I.online P (n.initiator.take [] (forBwuFailure (T.info k)))) fuel
      (forBwuFailure (T.info k)) I.peer = _ := fun fuel =>
    World.onIncomingFrame_failure fuel hconn (eventOf_forBwuFailure (T.info k))
  refine ⟨⟨_, .frameToInitiator hn.toInitiator.1 hparse ((hframe fuel).trans ht)⟩, fun n' hst => ?_⟩
  cases hst with
  | frameToResponder _ hq | offerToResponder _ hq =>
    rw [hn.toResponder.1] at hq
    cases hq
  | socket hin =>
    rw [hn.undialled.1] at hin
    cases hin
  | finish hd =>
    rw [hn.undialled.2] at hd
    cases hd
  | frameToInitiator hq hparse' hframe' =>
    cases hn.toInitiator.1.symm.trans hq
    cases hparse.symm.trans hparse'
    cases huniq _ _ ((hframe _).symm.trans hframe')
    refine Turning.left h (a := n.initiator.take [] (forBwuFailure (T.info k))) (b := n.responder)
      ⟨hn.responder, hn.unset, ⟨rfl, hn.toInitiator.2⟩, hn.toResponder, ?_, hn.offered⟩ hbid hsub
      rfl rfl hn.undialled
    change (n.initiator.heard ++ [_]).filterMap _ = _
    rw [List.filterMap_append, hn.failed, List.filterMap_cons, mediumNamed_failure h hk]
    rfl

theorem filterMap_said {event : EventType} (hevent : event = .upgradeFailure ∨
    event = .upgradePathAvailable) (offer : OfflineFrame) {ks : List Swap.Message}
    (hks : ∀ m ∈ ks, m ≠ .offer) :
    (ks.map (messageFrame offer)).filterMap (mediumNamed event) = [] := by
  refine List.filterMap_eq_nil_iff.mpr fun f hf => ?_
  obtain ⟨m, hm, rfl⟩ := List.mem_map.mp hf
  cases m with
  | offer => exact absurd rfl (hks _ hm)
  | lastWrite | safeToClose | disconnection => rcases hevent with rfl | rfl <;> rfl

theorem Ready.settles {m : Medium} {offer : OfflineFrame} {info : UpgradePathInfo} {bytes : Bytes}
    {s' : World} {fuel : Nat} (hr : Ready P I R m offer info bytes s r)
    (hinit : s.initiateBwuForEndpoint (I.online P { world := s }) fuel I.peer m = .ok s') :
    Settles (Step P I R) (Agreed I R [] m) (Net.start I s s' r) := by
  have hstart := Follows.start hr hinit
  refine ⟨hstart.acc hr Swap.Pair.sound_start, fun hrun hstuck => ?_⟩
  obtain ⟨j, hj, hf⟩ := reached_follows hr hinit hrun
  obtain ⟨hi, hu⟩ := hj.stuck fun j' hst => by
    obtain ⟨n', hn'⟩ := hf.progress hr hj hst
    exact hstuck n' hn'
  refine ⟨hi ▸ hf.initiator.stands, hu ▸ hf.responder.stands, reached_recorded hr hinit hrun ?_,
    ?_, ?_⟩
  · rw [hf.responder.heard]
    simpa using heard_ne_nil hj.responder (by simp [hu])
  · obtain ⟨drained, hflow, -⟩ := hj.initiator
    rw [hf.initiator.heard]
    refine filterMap_said (.inl rfl) offer fun x hx => ?_
    have hsaid : x ∈ j.responder.stage.said := by
      rw [List.nil_append] at hflow
      rw [← hflow]
      simp [hx]
    rw [hu] at hsaid
    rintro rfl
    exact absurd hsaid (by decide)
  · obtain ⟨drained, hflow, hheard⟩ := hj.responder
    rw [hu] at hheard
    obtain ⟨more, hmore⟩ := hheard
    rw [← hmore, hi] at hflow
    have hlast : more ++ drained ++ j.responder.inbox = [.disconnection] := by
      simpa [Swap.Stage.said] using hflow
    have hnamed : mediumNamed .upgradePathAvailable offer = some m := by
      rw [mediumNamed, hr.event]
      exact congrArg some hr.medium
    have hrest : ∀ x ∈ .lastWrite :: .safeToClose :: more, x ≠ Swap.Message.offer := by
      have hmore' : ∀ x ∈ more, x ≠ Swap.Message.offer := by
        intro x hx
        have hmem : x ∈ [Swap.Message.disconnection] := hlast ▸ by simp [hx]
        rw [List.mem_singleton.mp hmem]
        decide
      simpa using hmore'
    rw [hf.responder.heard, ← hmore]
    change (offer :: (Swap.Message.lastWrite :: Swap.Message.safeToClose :: more).map
      (messageFrame offer)).filterMap _ = _
    rw [List.filterMap_cons, hnamed, filterMap_said (.inr rfl) offer hrest]
    rfl

theorem Bidding.ready (h : Bargain P T I R pool s r) (hk : k ∈ pool)
    (hserves : T.serves R r k = true) (hn : n.Bidding P T I R s r .unknownMedium tried k v) :
    Ready P I R k (T.offer k) (T.info k) (T.bytes k) v n.responder.world := by
  simp only [Terms.serves, Bool.and_eq_true, decide_eq_true_eq, Bool.not_eq_true'] at hserves
  obtain ⟨⟨⟨hbytes, hlan⟩, hhandler⟩, hreaches⟩ := hserves
  have hw := hn.responder
  have hspoken : R.spoken n.responder.world (T.info k) = R.spoken r (T.info k) := by
    simp only [Side.spoken, Side.introduction, hw.bearings.client, hw.channels]
  refine ⟨fun f hf => ?_, h.initiatorLinks, h.responderLinks, hn.asked.stands, h.passes hk hn.asked,
    h.handles k hk _, hbytes, h.parses k hk hbytes, h.event k hk hbytes, h.medium k hk, hw.stands,
    ⟨hw.stands.connected, ?_, ?_, ?_⟩, hn.known, ?_, ?_, ?_⟩
  · exact h.codec k hk f (List.mem_cons_of_mem _ (hspoken ▸ hf))
  · rw [h.medium k hk, World.isWifiLanConnected_congr R.env hw.bearings.ecm]
    rintro ⟨hconnected, hhotspot⟩
    rw [hconnected, hhotspot] at hlan
    cases hlan
  · rw [hw.bearings.client]
    exact h.outgoing
  · simp [hw.stands.inProgress, busy]
  · rw [hw.bearings.handlers, hhandler]
  · rw [h.creates k hk, hreaches]
    rfl
  · rw [hw.bearings.client, h.named]

theorem Bidding.served (h : Bargain P T I R pool s r) (hk : k ∈ pool)
    (hserves : T.serves R r k = true) (hn : n.Bidding P T I R s r .unknownMedium tried k v) :
    Settles (Step P I R) (Agreed I R tried k) n := by
  have hready := hn.ready h hk hserves
  have hinit := hn.initiates { world := v } 0
  have hpass := hn.asked.stands.initiate (fun _ _ _ => rfl) h.initiatorLinks hready.passes
    hready.offers hready.handles hinit
  have hto := hpass.proceed (n := { world := v })
  have hfrom := hpass.receive (n := { world := n.responder.world })
  have halike : n.Alike n.initiator.heard [] n.responder.heard []
      (Net.start I v n.initiator.world n.responder.world) := by
    refine ⟨⟨rfl, ?_, ?_, [], (List.append_nil _).symm, rfl⟩,
      ⟨rfl, ?_, ?_, [], (List.append_nil _).symm, rfl⟩, hn.undialled.1.symm, hn.undialled.2.symm⟩
    · exact hto.1.trans hn.toInitiator.1.symm
    · exact hto.2.trans hn.toInitiator.2.symm
    · exact hfrom.1.trans hn.toResponder.1.symm
    · exact hfrom.2.trans hn.toResponder.2.symm
  refine halike.settles (Ready.settles hready hinit) fun {t t'} ht hagreed => ?_
  obtain ⟨hini, hres, hknown, hfailed, hoffered⟩ := hagreed
  obtain ⟨since, hheard, hheard'⟩ := ht.initiator.heard
  obtain ⟨since', hrheard, hrheard'⟩ := ht.responder.heard
  rw [ht.initiator.world] at hini
  rw [ht.responder.world] at hres hknown
  rw [hheard', List.nil_append] at hfailed
  rw [hrheard', List.nil_append] at hoffered
  refine ⟨hini, hres, hknown, ?_, ?_⟩
  · rw [hheard, List.filterMap_append, hn.failed, hfailed, List.append_nil]
  · rw [hrheard, List.filterMap_append, hn.offered, hoffered]
    rfl

theorem Bidding.settles {Q : Net → Prop} (h : Bargain P T I R pool s r)
    (hdelay : s.calculateNextRetryDelay I.peer = some delay) (hk : k ∈ pool)
    (hbytes : T.bytes k ≠ []) (hms : s.fallbacks I.env I.peer k = ms) (hsub : ∀ m ∈ ms, m ∈ pool)
    (hn : n.Bidding P T I R s r known tried k v)
    (hno : Bargain.TurnsDown P T R r k n.responder.world)
    (hleft : ∀ {n'}, Left P T I R s r .unknownMedium delay (tried ++ [k]) n' ms →
      Settles (Step P I R) Q n') : Settles (Step P I R) Q n := by
  obtain ⟨hgo, hrefused⟩ := hn.refused h hk hbytes hno
  refine .of_steps hgo fun n₁ hst₁ => ?_
  obtain ⟨hgo, hturns⟩ := (hrefused n₁ hst₁).turns h hdelay hk hms hsub
  exact .of_steps hgo fun n₂ hst₂ => hleft (hturns n₂ hst₂)

theorem Left.settles (h : Bargain P T I R pool s r)
    (hdelay : s.calculateNextRetryDelay I.peer = some delay)
    (hsub : ∀ m ∈ ms, m ∈ pool) (hn : n.Left P T I R s r .unknownMedium delay tried ms) :
    Settles (Step P I R) (Concluded T I R s r delay ms tried) n := by
  generalize hlen : ms.length = len
  induction len using Nat.strong_induction_on generalizing ms tried n with
  | _ len ih =>
    cases hn with
    | parted hnone hparted =>
      refine .of_stuck hparted.quiet.stuck (.inr ⟨fun m hm => ?_, ?_⟩)
      · simp [Terms.serves, hnone m hm]
      · have hfilter : ms.filter (T.bytes · ≠ []) = [] :=
          List.filter_eq_nil_iff.mpr fun m hm => by simp [hnone m hm]
        rwa [hfilter, List.append_nil]
    | @bidding skipped rest k v hskipped hbytes hrest hbidding =>
      have hk : k ∈ pool := hsub k (by simp)
      refine Settles.mono (Q := Concluded T I R s r delay (k :: rest) tried) ?_ (·.skip hskipped)
      by_cases hserves : T.serves R r k = true
      case pos =>
        refine (hbidding.served h hk hserves).mono fun hagreed =>
          .inl ⟨[], k, rest, rfl, List.forall_mem_nil _, hserves, ?_⟩
        simpa using hagreed
      case neg =>
        have hsub' : ∀ m ∈ rest, m ∈ pool := fun m hm => hsub m (by simp [hm])
        have hshort : rest.length < len := by
          rw [← hlen, List.length_append, List.length_cons]
          omega
        refine Settles.mono (hbidding.settles h hdelay hk hbytes hrest hsub' ?_
          fun hleft => ih _ hshort hsub' hleft rfl) fun hconcluded => ?_
        · exact h.refuses hk hbidding.responder hbidding.known hbytes hserves
        refine Concluded.cons ?_ hserves
        simpa [hbytes] using hconcluded

/-- Every run of the two managers comes to an end.  If both can do one of the mediums that the
request goes through, they end upgraded over the first such medium, after the ones before it were
offered and failed; otherwise they stay on the old channel, and the initiator has a retry
pending. -/
theorem settles_on_first_common {P : Prost} {T : Terms} {I R : Side} {m₀ : Medium} {s r : World}
    {delay : Duration} (h : Bargain P T I R (I.candidates s m₀) s r)
    (hunset : r.getBwuMediumForEndpoint R.peer = .unknownMedium)
    (hdelay : s.calculateNextRetryDelay I.peer = some delay) :
    ∃ s', ComesTo (fun fuel =>
        s.initiateBwuForEndpoint (I.online P { world := s }) fuel I.peer m₀) s' ∧
      Settles (Step P I R) (Concluded T I R s r delay (I.candidates s m₀) [])
        (Net.start I s s' r) := by
  obtain ⟨s', hbid, hcomes⟩ := h.opens hdelay (fun _ hm => hm) { world := s }
  refine ⟨s', hcomes, Left.settles h hdelay (fun _ hm => hm) ?_⟩
  refine Turning.left h (a := { world := s }) (b := { world := r }) ?_ hbid (fun _ hm => hm) rfl rfl
    ⟨rfl, rfl⟩
  exact ⟨h.responder.abides, hunset, ⟨rfl, rfl⟩, ⟨rfl, rfl⟩, rfl, rfl⟩

/-! ### Three mediums, of which the third will do -/

def preferred : List Medium := [.wifiHotspot, .webRtc, .wifiLan]

def threePaths (m : Medium) : UpgradePathInfo :=
  if m = .wifiLan then lanOffer
  else { upgradePathInfoForMedium m with webRtcCredentials := some { peerId := some "L" } }

/-- The initiator cannot open an access point, and the responder does not know WebRTC. -/
def threeTerms : Terms where
  bytes m := if m = .wifiLan then [1] else if m = .webRtc then [2] else []
  info := threePaths
  offer m := bwuUpgradePathAvailable (threePaths m)
  reaches m := m = .wifiLan

def threeFrames (R : Side) (r : World) : List OfflineFrame :=
  forBwuLastWrite :: bwuUpgradePathAvailable (threePaths .wifiLan) ::
    bwuUpgradePathAvailable (threePaths .webRtc) ::
      preferred.flatMap fun m => forBwuFailure (threePaths m) :: R.spoken r (threePaths m)

section

variable {R : Side} {r : World} {m : Medium}

theorem threeFrames_parses (hm : m ∈ preferred) (hbytes : threeTerms.bytes m ≠ []) :
    (codebook (threeFrames R r)).fromBytes (threeTerms.bytes m) = .ok (threeTerms.offer m) := by
  simp only [preferred, List.mem_cons, List.not_mem_nil, or_false] at hm
  rcases hm with rfl | rfl | rfl
  · exact absurd rfl hbytes
  · exact Prost.fromBytes_of_decode rfl (by decide)
  · exact Prost.fromBytes_of_decode rfl (by decide)

theorem threeFrames_codec (hlen : (threeFrames R r).length ≤ 256) (hm : m ∈ preferred)
    {f : OfflineFrame} (hf : f ∈ forBwuFailure (threePaths m) :: R.spoken r (threePaths m)) :
    (codebook (threeFrames R r)).decode ((codebook (threeFrames R r)).encode f) = some f := by
  refine codebook_decode hlen ?_
  simp only [threeFrames, List.mem_cons, List.mem_flatMap]
  exact .inr (.inr (.inr ⟨m, hm, List.mem_cons.mp hf⟩))

end

def choosyWorld : World :=
  (World.new {} preferred "L").after reliable 3
    (connect "E" 0 ++ [.setUpgradeMediums "E" preferred])

def choosySide : Side := initiatorSide.under threeTerms

def lanOnlySide : Side := responderSide.under threeTerms

def threeCodec : Prost := codebook (threeFrames lanOnlySide responderWorld)

theorem candidates_choosy : choosySide.candidates choosyWorld .wifiHotspot = preferred := by decide

theorem bargain_choosy :
    Bargain threeCodec threeTerms choosySide lanOnlySide preferred choosyWorld
      responderWorld where
  initiatorLinks := by decide
  responderLinks := by decide
  initiator := ⟨by decide, by decide, by decide, by decide, by decide⟩
  responder := ⟨by decide, by decide, by decide, by decide, by decide⟩
  switches := by decide
  offLan := by decide
  nodup := by decide
  usable := by decide
  outgoing := by decide
  named := by decide
  handles _ _ _ := rfl
  medium := by decide
  parses _ := threeFrames_parses
  event := by decide
  codec m hm f hf := threeFrames_codec (by decide) hm hf
  creates _ _ _ := rfl

theorem settles_on_first_common_third :
    ∃ s' n, choosyWorld.initiateBwuForEndpoint
        (choosySide.online threeCodec { world := choosyWorld }) 2 "E" .wifiHotspot = .ok s' ∧
      ReflTransGen (Step threeCodec choosySide lanOnlySide)
        (Net.start choosySide choosyWorld s' responderWorld) n ∧
      n.Agreed choosySide lanOnlySide [.webRtc] .wifiLan := by
  have hbargain := bargain_choosy
  rw [← candidates_choosy] at hbargain
  have hdelay : choosyWorld.calculateNextRetryDelay "E" = some (Duration.ofSecs 3) := rfl
  obtain ⟨s', ⟨-, huniq⟩, hsettles⟩ := settles_on_first_common hbargain (by decide) hdelay
  obtain ⟨t, ht⟩ : ∃ t, choosyWorld.initiateBwuForEndpoint
      (choosySide.online threeCodec { world := choosyWorld }) 2 "E" .wifiHotspot = .ok t := ⟨_, rfl⟩
  cases huniq 2 t ht
  obtain ⟨n, hrun, hstuck⟩ := exists_stuck hsettles.ends
  refine ⟨_, n, ht, hrun, ?_⟩
  have hconcluded := hsettles.rests hrun hstuck
  rw [candidates_choosy] at hconcluded
  rcases hconcluded with ⟨before, m, after, hsplit, -, hm, hagreed⟩ | ⟨hnone, -⟩
  · rcases before with _ | ⟨a, _ | ⟨b, _ | ⟨c, before⟩⟩⟩
    · cases hsplit
      exact absurd hm (by decide)
    · cases hsplit
      exact absurd hm (by decide)
    · cases hsplit
      exact hagreed
    · simp [preferred] at hsplit
  · exact absurd (by decide) (hnone .wifiLan (by decide))

end Net

end Nearby.Bwu
