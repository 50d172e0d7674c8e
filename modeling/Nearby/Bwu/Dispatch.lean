import Nearby.Bwu.Actions
import Nearby.Lib.Trace

/-! What a frame leads to.  The exchange leaves the negotiation's books alone, and an offer is
dropped, turned down in some world, or taken up. -/

namespace Nearby.Bwu

open Proto Lib

def Event.Negotiates : Event → Prop
  | .revertInitiatorState _ => True
  | .handleRevert _ _ => True
  | .retryScheduled _ _ => True
  | _ => False

namespace World

/-- `t` comes after `s` without the negotiation: no medium, no handler and no retry is
touched, and no upgrade entered. -/
structure Aside (s t : World) : Prop where
  config : t.config = s.config
  handlers : t.handlers = s.handlers
  medium : t.medium = s.medium
  mediums : t.endpointIdToBwuMedium = s.endpointIdToBwuMedium
  alarms : t.retryUpgradeAlarms = s.retryUpgradeAlarms
  delays : t.retryDelays = s.retryDelays
  inProgress : ∀ {e}, e ∈ t.inProgressUpgrades → e ∈ s.inProgressUpgrades
  calls : Adds (¬ ·.Negotiates) s.trace t.trace

namespace Aside

variable {s t v : World}

theorem refl (s : World) : Aside s s :=
  ⟨rfl, rfl, rfl, rfl, rfl, rfl, id, .refl _ _⟩

theorem trans (h : Aside s t) (h' : Aside t v) : Aside s v where
  config := h'.config.trans h.config
  handlers := h'.handlers.trans h.handlers
  medium := h'.medium.trans h.medium
  mediums := h'.mediums.trans h.mediums
  alarms := h'.alarms.trans h.alarms
  delays := h'.delays.trans h.delays
  inProgress he := h.inProgress (h'.inProgress he)
  calls := Adds.trans h.calls h'.calls

end Aside

section

variable {env : Env} {s : World} {e : String}

theorem aside_emit (s : World) {x : Event} (hx : ¬ x.Negotiates) : Aside s (s.emit x) :=
  ⟨rfl, rfl, rfl, rfl, rfl, rfl, id, [x], rfl, List.forall_mem_singleton.mpr hx⟩

theorem aside_call (s : World) (c : ChannelId) (f : ChannelState → ChannelState) {x : Event}
    (hx : ¬ x.Negotiates) : Aside s ((s.modifyChannel c f).emit x) :=
  ⟨rfl, rfl, rfl, rfl, rfl, rfl, id, [x], rfl, List.forall_mem_singleton.mpr hx⟩

theorem aside_write (env : Env) (s : World) (o : Option String) (c : ChannelId) (data : Payload) :
    Aside s (s.write env o c data).2 :=
  aside_emit s id

theorem aside_closeWithReason (s : World) (c : ChannelId) (reason : DisconnectionReason) :
    Aside s (s.closeWithReason c reason) :=
  aside_call s c _ id

theorem aside_quiet {t : World} (h : t = { s with
      ecm := t.ecm
      previousEndpointChannels := t.previousEndpointChannels
      successfullyUpgradedEndpoints := t.successfullyUpgradedEndpoints }) : Aside s t := by
  rw [h]
  exact ⟨rfl, rfl, rfl, rfl, rfl, rfl, id, .refl _ _⟩

theorem aside_leaveInProgress (s : World) (e : String) : Aside s (s.leaveInProgress e) :=
  ⟨rfl, rfl, rfl, rfl, rfl, rfl, fun he => (AList.mem_erase.mp he).2, .refl _ _⟩

theorem aside_closeParked (s : World) (e : String) (reason : DisconnectionReason) :
    Aside s (s.closeParked e reason) := by
  rw [closeParked]
  split
  case h_1 prev _ =>
    have hunpark : Aside s (s.unpark e) := aside_quiet rfl
    exact hunpark.trans (aside_closeWithReason _ prev reason)
  case h_2 => exact .refl s

theorem aside_closeOutOfSync (s : World) (e : String) : Aside s (s.closeOutOfSync e) := by
  have h₁ := aside_closeParked s e .unfinished
  simp only [closeOutOfSync]
  split
  case h_1 cur _ => exact h₁.trans ((aside_call _ cur _ id).trans (aside_closeWithReason _ cur _))
  case h_2 => exact h₁

theorem aside_processLastWriteToPriorChannelEvent (env : Env) (s : World) (e : String) :
    Aside s (s.processLastWriteToPriorChannelEvent env e) := by
  rw [processLastWriteToPriorChannelEvent]
  split
  case h_1 => exact aside_quiet rfl
  case h_2 prev _ =>
    have h₁ := aside_write env s (some e) prev (.frame forBwuSafeToClose)
    dsimp only
    split
    case isTrue => exact (h₁.trans (aside_closeWithReason _ prev .ioError)).trans (aside_quiet rfl)
    case isFalse => exact h₁

theorem aside_runUpgradeProtocol (env : Env) (s : World) (e : String) (c : ChannelId) (b : Bool) :
    Aside s (s.runUpgradeProtocol env e c b) := by
  simp only [runUpgradeProtocol]
  generalize hs₁ : (s.setLocalEndpointId c s.client.localEndpointId).pause c = s₁
  have h₁ : Aside s s₁ := by
    rw [← hs₁]
    exact (aside_call s c _ id).trans (aside_call _ c _ id)
  split
  case h_1 => exact h₁
  case h_2 old _ =>
    have hreplace : Aside s₁ (s₁.replaceChannelForEndpoint e c b) := aside_quiet rfl
    have h₂ := (h₁.trans hreplace).trans (aside_write env _ (some e) old (.frame forBwuLastWrite))
    generalize (s₁.replaceChannelForEndpoint e c b).write env (some e) old
      (.frame forBwuLastWrite) = w at h₂ ⊢
    split
    case isTrue => exact h₂
    case isFalse =>
      have hpark : Aside w.2 (w.2.park e old) :=
        ⟨rfl, rfl, rfl, rfl, rfl, rfl, id, [_], rfl, by simp [Event.Negotiates]⟩
      have h₃ := h₂.trans hpark
      split
      case isTrue =>
        have hunlatch : Aside (w.2.park e old) ((w.2.park e old).unlatch e) := aside_quiet rfl
        exact (h₃.trans hunlatch).trans (aside_processLastWriteToPriorChannelEvent env _ e)
      case isFalse => exact h₃

theorem aside_processSafeToClosePriorChannelEvent (env : Env) (s : World) (e : String) :
    Aside s (s.processSafeToClosePriorChannelEvent env e) := by
  simp only [processSafeToClosePriorChannelEvent]
  split
  case h_1 => exact .refl s
  case h_2 prev _ =>
    generalize hs₁ : (World.closeWithReason _ prev .upgraded) = s₁
    have h₁ : Aside s s₁ := by
      have hunpark : Aside s (s.unpark e) := aside_quiet rfl
      rw [← hs₁]
      exact (((hunpark.trans (aside_call _ prev _ id)).trans (aside_write env _ _ _ _)).trans
        (aside_emit _ id)).trans (aside_closeWithReason _ prev _)
    split
    case h_1 => exact h₁
    case h_2 c _ =>
      have hreport : Aside (s₁.resume c) ((s₁.resume c).onBandwidthChanged e (env.medium c)) :=
        ⟨rfl, rfl, rfl, rfl, rfl, rfl, id, [_], rfl, by simp [Event.Negotiates]⟩
      exact ((h₁.trans (aside_call s₁ c _ id)).trans hreport).trans (aside_leaveInProgress _ e)

end

/-! ### Offers -/

/-- The offer is turned down: `run_upgrade_failed_protocol` runs in the world given. -/
inductive Refused (env : Env) (s : World) (e : String) (info : UpgradePathInfo) : World → Prop
  | stranger : s.client.isConnectedToEndpoint e = false → Refused env s e info s
  | barred : s.client.isConnectedToEndpoint e = true →
      s.isWifiLanConnected env ∧ upiMedium info = .wifiHotspot → Refused env s e info s
  | mismatched : s.Accepts env e info →
      upiMedium info ≠ (s.adopted e (upiMedium info)).getBwuMediumForEndpoint e →
      Refused env s e info (s.adopted e (upiMedium info))
  | undialled {d : World} : s.Accepts env e info →
      upiMedium info = (s.adopted e (upiMedium info)).getBwuMediumForEndpoint e →
      (s.adopted e (upiMedium info)).dialUpgraded env e info = (none, d) → Refused env s e info d
  | unacknowledged {c : ChannelId} {d : World} : s.Accepts env e info →
      upiMedium info = (s.adopted e (upiMedium info)).getBwuMediumForEndpoint e →
      (s.adopted e (upiMedium info)).dialUpgraded env e info = (some c, d) →
      info.supportsClientIntroductionAck.getD false = true →
      (d.readClientIntroductionAckFrame env c).1 = false →
      Refused env s e info ((d.readClientIntroductionAckFrame env c).2.close c)

/-- The offer is taken up: the upgrade to `c` is entered in the world given. -/
inductive TakenUp (env : Env) (s : World) (e : String) (info : UpgradePathInfo) :
    ChannelId → World → Prop
  | acknowledged {c : ChannelId} {d : World} : s.Accepts env e info →
      upiMedium info = (s.adopted e (upiMedium info)).getBwuMediumForEndpoint e →
      (s.adopted e (upiMedium info)).dialUpgraded env e info = (some c, d) →
      info.supportsClientIntroductionAck.getD false = true →
      (d.readClientIntroductionAckFrame env c).1 = true →
      TakenUp env s e info c (d.readClientIntroductionAckFrame env c).2
  | unasked {c : ChannelId} {d : World} : s.Accepts env e info →
      upiMedium info = (s.adopted e (upiMedium info)).getBwuMediumForEndpoint e →
      (s.adopted e (upiMedium info)).dialUpgraded env e info = (some c, d) →
      info.supportsClientIntroductionAck.getD false = false →
      TakenUp env s e info c d

inductive OfferEnds (env : Env) (s : World) (e : String) (info : UpgradePathInfo) : World → Prop
  | dropped : OfferEnds env s e info s
  | outOfSync : OfferEnds env s e info (s.closeOutOfSync e)
  | refused {v : World} : Refused env s e info v →
      OfferEnds env s e info (v.runUpgradeFailedProtocol env e info)
  | takenUp {c : ChannelId} {v : World} : TakenUp env s e info c v →
      OfferEnds env s e info ((v.enterInProgress e).runUpgradeProtocol env e c
        (!info.supportsDisablingEncryption.getD false))

section Offer

variable {env : Env} {s t : World} {e : String} {info : UpgradePathInfo}

theorem adopted_frame (s : World) (e : String) (m : Medium) : s.adopted e m = { s with
    medium := (s.adopted e m).medium
    endpointIdToBwuMedium := (s.adopted e m).endpointIdToBwuMedium } := by
  rw [adopted]
  split
  · exact setBwuMediumForEndpoint_frame s e m
  · rfl

theorem beginPathAvailable_accepts (h : s.Accepts env e info) :
    s.beginPathAvailable env e info =
      if upiMedium info ≠ (s.adopted e (upiMedium info)).getBwuMediumForEndpoint e then
        .returned ((s.adopted e (upiMedium info)).runUpgradeFailedProtocol env e info)
      else
        match ((s.adopted e (upiMedium info)).dialUpgraded env e info).1 with
        | none =>
          .returned <|
            ((s.adopted e (upiMedium info)).dialUpgraded env e info).2.runUpgradeFailedProtocol env
              e info
        | some c => .dialled c ((s.adopted e (upiMedium info)).dialUpgraded env e info).2 := by
  simp only [beginPathAvailable, if_neg h.allowed, h.outgoing, if_neg h.idle, Bool.false_eq_true,
    if_false]
  rfl

theorem processBwuPathAvailableEvent_ends (hconn : s.client.isConnectedToEndpoint e = true) :
    OfferEnds env s e info (s.processBwuPathAvailableEvent env e info) := by
  rw [processBwuPathAvailableEvent]
  by_cases hw : s.isWifiLanConnected env ∧ upiMedium info = .wifiHotspot
  · rw [beginPathAvailable, if_pos hw]
    exact .refused (.barred hconn hw)
  by_cases hc : s.client.isIncomingConnection e = true
  · rw [beginPathAvailable, if_neg hw, if_pos hc]
    exact .dropped
  by_cases hin : e ∈ s.inProgressUpgrades
  · rw [beginPathAvailable, if_neg hw, if_neg hc, if_pos hin]
    exact .outOfSync
  have hacc : s.Accepts env e info := ⟨hconn, hw, Bool.eq_false_of_not_eq_true hc, hin⟩
  rw [beginPathAvailable_accepts hacc]
  by_cases hm : upiMedium info = (s.adopted e (upiMedium info)).getBwuMediumForEndpoint e
  case neg =>
    rw [if_pos hm]
    exact .refused (.mismatched hacc hm)
  case pos =>
    rw [if_neg (not_not.mpr hm)]
    rcases hd : (s.adopted e (upiMedium info)).dialUpgraded env e info with ⟨c, d⟩
    cases c with
    | none => exact .refused (.undialled hacc hm hd)
    | some c =>
      dsimp only
      rw [finishPathAvailable]
      by_cases hask : info.supportsClientIntroductionAck.getD false = true
      case neg =>
        rw [if_neg hask]
        exact .takenUp (.unasked hacc hm hd (Bool.eq_false_of_not_eq_true hask))
      case pos =>
        rw [if_pos hask]
        cases hack : (d.readClientIntroductionAckFrame env c).1 with
        | false =>
          simp only [Bool.false_eq_true, not_false_eq_true, if_true]
          exact .refused (.unacknowledged hacc hm hd hask hack)
        | true =>
          simp only [not_true_eq_false, if_false]
          exact .takenUp (.acknowledged hacc hm hd hask hack)

theorem Accepts.adopted_matches
    (hm : upiMedium info = (s.adopted e (upiMedium info)).getBwuMediumForEndpoint e)
    (h : s.Accepts env e info) : s.beginPathAvailable env e info =
      match ((s.adopted e (upiMedium info)).dialUpgraded env e info).1 with
      | none =>
        .returned <|
          ((s.adopted e (upiMedium info)).dialUpgraded env e info).2.runUpgradeFailedProtocol env e
            info
      | some c => .dialled c ((s.adopted e (upiMedium info)).dialUpgraded env e info).2 := by
  rw [beginPathAvailable_accepts h, if_neg (not_not.mpr hm)]

theorem TakenUp.ends {c : ChannelId} {v : World} (h : TakenUp env s e info c v) :
    s.processBwuPathAvailableEvent env e info = (v.enterInProgress e).runUpgradeProtocol env e c
      (!info.supportsDisablingEncryption.getD false) := by
  rw [processBwuPathAvailableEvent]
  cases h with
  | acknowledged hacc hm hd hask hack =>
    rw [hacc.adopted_matches hm, hd]
    simp only [finishPathAvailable, hask, hack, if_true, not_true_eq_false, if_false]
  | unasked hacc hm hd hask =>
    rw [hacc.adopted_matches hm, hd]
    simp only [finishPathAvailable, hask, Bool.false_eq_true, if_false, not_true_eq_false]

theorem Refused.ends {v : World} (hconn : s.client.isConnectedToEndpoint e = true)
    (h : Refused env s e info v) :
    s.processBwuPathAvailableEvent env e info = v.runUpgradeFailedProtocol env e info := by
  rw [processBwuPathAvailableEvent]
  cases h with
  | stranger hc => exact absurd (hconn.symm.trans hc) (by decide)
  | barred _ hw => rw [beginPathAvailable, if_pos hw]
  | mismatched hacc hm => rw [beginPathAvailable_accepts hacc, if_pos hm]
  | undialled hacc hm hd => rw [hacc.adopted_matches hm, hd]
  | unacknowledged hacc hm hd hask hack =>
    rw [hacc.adopted_matches hm, hd]
    simp only [finishPathAvailable, hask, hack, if_true, Bool.false_eq_true, not_false_eq_true]

theorem aside_dialUpgraded (env : Env) (s : World) (e : String) (info : UpgradePathInfo) :
    Aside s (s.dialUpgraded env e info).2 ∧
      (s.dialUpgraded env e info).2.ecm = s.ecm := by
  have hd := dialUpgraded_dial env s e info
  generalize s.dialUpgraded env e info = d at hd
  cases hd with
  | unable => exact ⟨.refl s, rfl⟩
  | unreachable m u => exact ⟨aside_emit s id, rfl⟩
  | lost m u c intro =>
    exact ⟨((aside_emit s id).trans (aside_write env _ _ _ _)).trans (aside_call _ c _ id), rfl⟩
  | dialled m u c intro => exact ⟨(aside_emit s id).trans (aside_write env _ _ _ _), rfl⟩

theorem Refused.aside {v : World} (h : Refused env s e info v) :
    v.ecm = s.ecm ∧
      (Aside s v ∨ s.Accepts env e info ∧ Aside (s.adopted e (upiMedium info)) v) := by
  have hecm : (s.adopted e (upiMedium info)).ecm = s.ecm := by rw [adopted_frame]
  have hdial := aside_dialUpgraded env (s.adopted e (upiMedium info)) e info
  cases h with
  | stranger | barred => exact ⟨rfl, .inl (.refl s)⟩
  | mismatched hacc => exact ⟨hecm, .inr ⟨hacc, .refl _⟩⟩
  | undialled hacc _ hd =>
    rw [hd] at hdial
    exact ⟨hdial.2.trans hecm, .inr ⟨hacc, hdial.1⟩⟩
  | @unacknowledged c d hacc _ hd =>
    rw [hd] at hdial
    exact ⟨hdial.2.trans hecm,
      .inr ⟨hacc, (hdial.1.trans (aside_emit d id)).trans (aside_call _ c _ id)⟩⟩

theorem TakenUp.aside {c : ChannelId} {v : World} (h : TakenUp env s e info c v) :
    s.Accepts env e info ∧ Aside (s.adopted e (upiMedium info)) v := by
  have hdial := (aside_dialUpgraded env (s.adopted e (upiMedium info)) e info).1
  cases h with
  | @acknowledged d hacc _ hd =>
    rw [hd] at hdial
    exact ⟨hacc, hdial.trans (aside_emit d id)⟩
  | unasked hacc _ hd =>
    rw [hd] at hdial
    exact ⟨hacc, hdial⟩

inductive FailureTold (env : Env) (s : World) (e : String) (info : UpgradePathInfo) : World → Prop
  | unregistered : s.getChannelForEndpoint e = none → FailureTold env s e info s
  | unwritten {c : ChannelId} : s.getChannelForEndpoint e = some c →
      (env.write s.trace c (.frame (forBwuFailure info))).ok = false →
      FailureTold env s e info
        ((s.write env (some e) c (.frame (forBwuFailure info))).2.closeWithReason c .ioError)
  | reverted {c : ChannelId} : s.getChannelForEndpoint e = some c →
      (env.write s.trace c (.frame (forBwuFailure info))).ok = true →
      s.getBwuMediumForEndpoint e ≠ .unknownMedium →
      FailureTold env s e info
        (((s.write env (some e) c (.frame (forBwuFailure info))).2.revertBwuMediumForEndpoint
          (env.serviceId c) e).leaveInProgress e)
  | mediumless {c : ChannelId} : s.getChannelForEndpoint e = some c →
      (env.write s.trace c (.frame (forBwuFailure info))).ok = true →
      s.getBwuMediumForEndpoint e = .unknownMedium →
      FailureTold env s e info
        ((s.write env (some e) c (.frame (forBwuFailure info))).2.leaveInProgress e)

theorem runUpgradeFailedProtocol_told (env : Env) (s : World) (e : String)
    (info : UpgradePathInfo) :
    FailureTold env s e info (s.runUpgradeFailedProtocol env e info) := by
  rw [runUpgradeFailedProtocol]
  split
  case h_1 hc => exact .unregistered hc
  case h_2 c hc =>
    dsimp only
    split
    case isTrue hw => exact .unwritten hc (Bool.eq_false_of_not_eq_true hw)
    case isFalse hw =>
      have hw := not_not.mp hw
      split
      case isTrue hm => exact .reverted hc hw hm
      case isFalse hm => exact .mediumless hc hw (not_not.mp hm)

end Offer

/-! ### Frames -/

inductive Handled (env : Env) (fuel : Nat) (s : World) (frame : OfflineFrame) (e : String) :
    World → Prop
  | ignored : Handled env fuel s frame e s
  | outOfSync : Handled env fuel s frame e (s.closeOutOfSync e)
  | lastWrite : Handled env fuel s frame e
      ((s.emit (.lastWriteDispatched e)).processLastWriteToPriorChannelEvent env e)
  | safeToClose : Handled env fuel s frame e (s.processSafeToClosePriorChannelEvent env e)
  | refused {info : UpgradePathInfo} {v : World} :
      eventOf frame = some (.upgradePathAvailable, some info) → Refused env s e info v →
      Handled env fuel s frame e (v.runUpgradeFailedProtocol env e info)
  | takenUp {info : UpgradePathInfo} {c : ChannelId} {v : World} :
      eventOf frame = some (.upgradePathAvailable, some info) → TakenUp env s e info c v →
      Handled env fuel s frame e ((v.enterInProgress e).runUpgradeProtocol env e c
        (!info.supportsDisablingEncryption.getD false))
  | failure {info : UpgradePathInfo} {t : World} : s.client.isConnectedToEndpoint e = true →
      eventOf frame = some (.upgradeFailure, some info) →
      s.processUpgradeFailureEvent env (initiateBwuForEndpoint env fuel) e info = .ok t →
      Handled env fuel s frame e t

inductive Dispatched (env : Env) (fuel : Nat) (s : World) (frame : OfflineFrame) (e : String) :
    World → Prop
  | aside {t : World} : Aside s t → Dispatched env fuel s frame e t
  | refused {info : UpgradePathInfo} {v : World} :
      eventOf frame = some (.upgradePathAvailable, some info) → Refused env s e info v →
      Dispatched env fuel s frame e (v.runUpgradeFailedProtocol env e info)
  | takenUp {info : UpgradePathInfo} {c : ChannelId} {v : World} :
      eventOf frame = some (.upgradePathAvailable, some info) → TakenUp env s e info c v →
      Dispatched env fuel s frame e ((v.enterInProgress e).runUpgradeProtocol env e c
        (!info.supportsDisablingEncryption.getD false))
  | failure {info : UpgradePathInfo} {t : World} : s.client.isConnectedToEndpoint e = true →
      eventOf frame = some (.upgradeFailure, some info) →
      s.processUpgradeFailureEvent env (initiateBwuForEndpoint env fuel) e info = .ok t →
      Dispatched env fuel s frame e t

theorem onIncomingFrame_other {frame : OfflineFrame} (hev : eventOf frame = none) (env : Env)
    (fuel : Nat) (s : World) (e : String) : s.onIncomingFrame env fuel frame e = .ok s := by
  rw [onIncomingFrame]
  rw [eventOf] at hev
  split
  case isTrue => rfl
  case isFalse hb =>
    rw [if_neg hb, Option.map_eq_none_iff] at hev
    rw [hev]

theorem onIncomingFrame_offer {env : Env} {s : World} {frame : OfflineFrame} {e : String}
    {info : UpgradePathInfo} (fuel : Nat) (hconn : s.client.isConnectedToEndpoint e = true)
    (hev : eventOf frame = some (.upgradePathAvailable, some info)) :
    s.onIncomingFrame env fuel frame e = .ok (s.processBwuPathAvailableEvent env e info) := by
  obtain ⟨bwu, hframe, hevent, hinfo⟩ := onIncomingFrame_dispatch env fuel s e hev
  simp only [hframe, onBwuNegotiationFrame, hevent, hinfo, hconn, not_true_eq_false, if_false]

theorem onIncomingFrame_failure {env : Env} {s : World} {frame : OfflineFrame} {e : String}
    {info : UpgradePathInfo} (fuel : Nat) (hconn : s.client.isConnectedToEndpoint e = true)
    (hev : eventOf frame = some (.upgradeFailure, some info)) :
    s.onIncomingFrame env fuel frame e =
      s.processUpgradeFailureEvent env (initiateBwuForEndpoint env fuel) e info := by
  obtain ⟨bwu, hframe, hevent, hinfo⟩ := onIncomingFrame_dispatch env fuel s e hev
  simp only [hframe, onBwuNegotiationFrame, hevent, hinfo, hconn, not_true_eq_false, if_false]

theorem onIncomingFrame_takenUp {env : Env} {s v : World} {frame : OfflineFrame} {e : String}
    {info : UpgradePathInfo} {c : ChannelId} (fuel : Nat)
    (hev : eventOf frame = some (.upgradePathAvailable, some info))
    (h : TakenUp env s e info c v) :
    s.onIncomingFrame env fuel frame e = .ok ((v.enterInProgress e).runUpgradeProtocol env e c
      (!info.supportsDisablingEncryption.getD false)) := by
  rw [onIncomingFrame_offer fuel h.aside.1.connected hev, h.ends]

theorem onIncomingFrame_refused {env : Env} {s v : World} {frame : OfflineFrame} {e : String}
    {info : UpgradePathInfo} (fuel : Nat)
    (hev : eventOf frame = some (.upgradePathAvailable, some info))
    (h : Refused env s e info v) :
    s.onIncomingFrame env fuel frame e = .ok (v.runUpgradeFailedProtocol env e info) := by
  by_cases hconn : s.client.isConnectedToEndpoint e = true
  case pos => rw [onIncomingFrame_offer fuel hconn hev, h.ends hconn]
  case neg =>
    obtain ⟨bwu, hframe, hevent, hinfo⟩ := onIncomingFrame_dispatch env fuel s e hev
    cases h with
    | stranger =>
      simp only [hframe, onBwuNegotiationFrame, hevent, hinfo]
      rw [if_pos hconn]
    | barred hc => exact absurd hc hconn
    | mismatched hacc | undialled hacc | unacknowledged hacc => exact absurd hacc.connected hconn

theorem onIncomingFrame_handled {env : Env} {fuel : Nat} {s t : World} {frame : OfflineFrame}
    {e : String} (h : s.onIncomingFrame env fuel frame e = .ok t) :
    Handled env fuel s frame e t := by
  cases hev : eventOf frame with
  | none =>
    rw [onIncomingFrame_other hev] at h
    cases h
    exact .ignored
  | some event =>
    obtain ⟨event, info⟩ := event
    obtain ⟨bwu, hframe, hevent, hinfo⟩ := onIncomingFrame_dispatch env fuel s e hev
    rw [hframe] at h
    simp only [onBwuNegotiationFrame, hevent, hinfo] at h
    by_cases hc : s.client.isConnectedToEndpoint e = true
    case neg =>
      rw [if_pos hc] at h
      split at h
      case h_1 => cases h; exact .refused hev (.stranger (Bool.eq_false_of_not_eq_true hc))
      case h_2 => cases h; exact .ignored
    case pos =>
      rw [if_neg (not_not.mpr hc)] at h
      cases event with
      | upgradePathAvailable =>
        cases info with
        | none => cases h; exact .ignored
        | some info =>
          cases h
          have hends : OfferEnds env s e info _ := processBwuPathAvailableEvent_ends hc
          generalize s.processBwuPathAvailableEvent env e info = t at hends
          cases hends with
          | dropped => exact .ignored
          | outOfSync => exact .outOfSync
          | refused hr => exact .refused hev hr
          | takenUp ht => exact .takenUp hev ht
      | upgradeFailure =>
        cases info with
        | none => cases h; exact .ignored
        | some info => exact .failure hc hev h
      | lastWriteToPriorChannel =>
        dsimp only at h
        split at h
        case isTrue => cases h; exact .ignored
        case isFalse => cases h; exact .lastWrite
      | safeToClosePriorChannel =>
        dsimp only at h
        split at h
        case isTrue => cases h; exact .ignored
        case isFalse => cases h; exact .safeToClose
      | _ => cases h; exact .ignored

theorem onIncomingFrame_dispatched {env : Env} {fuel : Nat} {s t : World} {frame : OfflineFrame}
    {e : String} (h : s.onIncomingFrame env fuel frame e = .ok t) :
    Dispatched env fuel s frame e t := by
  cases onIncomingFrame_handled h with
  | ignored => exact .aside (.refl s)
  | outOfSync => exact .aside (aside_closeOutOfSync s e)
  | lastWrite =>
    exact .aside ((aside_emit s id).trans (aside_processLastWriteToPriorChannelEvent env _ e))
  | safeToClose => exact .aside (aside_processSafeToClosePriorChannelEvent env s e)
  | refused hev hr => exact .refused hev hr
  | takenUp hev ht => exact .takenUp hev ht
  | failure hconn hev hst => exact .failure hconn hev hst

theorem onIncomingConnection_aside (env : Env) (s : World) (c : ChannelId) :
    Aside s (s.onIncomingConnection env c) ∨
      ∃ e, s.introducedEndpoint env c = some e ∧
        Aside (s.cancelRetryUpgradeAlarm e) (s.onIncomingConnection env c) := by
  have hread : ∀ v : World, Aside v (v.introduced env c) :=
    fun v => (aside_emit v id).trans (aside_emit _ id)
  have hack : ∀ v : World, Aside v (v.acknowledged env c) :=
    fun v => (hread v).trans (aside_emit _ id)
  have hs := onIncomingConnection_socket env s c
  generalize s.onIncomingConnection env c = t at hs
  cases hs with
  | unreadable => exact .inl ((hread s).trans (aside_call _ c _ id))
  | unwritable => exact .inl ((hack s).trans (aside_call _ c _ id))
  | unattributed => exact .inl (hack s)
  | attributed e b he =>
    have hcancel : Aside (s.cancelRetryUpgradeAlarm e)
        ((s.acknowledged env c).cancelRetryUpgradeAlarm e) :=
      ⟨rfl, rfl, rfl, rfl, rfl, rfl, id, [_, _, _], rfl, by simp [Event.Negotiates]⟩
    exact .inr ⟨e, he, hcancel.trans (aside_runUpgradeProtocol env _ e c b)⟩

end World

end Nearby.Bwu
