import Nearby.Bwu.Actor
import Nearby.Bwu.Disconnect

/-! When a retry is fired.  A timer keeps the deadline it was armed with, so the delay of a retry
is honoured as long as no other retry takes its place while the timer is armed. -/

namespace Nearby.Bwu

open Proto Lib

def Event.retryOf (e : String) : Event → Option Duration
  | .retryScheduled e' delay => if e' = e then some delay else none
  | _ => none

theorem Event.retryOf_eq_none (e : String) {x : Event} (hx : ¬ x.Negotiates) :
    x.retryOf e = none := by
  cases x <;> first | rfl | exact (hx trivial).elim

namespace World

def lastDelay (e : String) (tr : List Event) : Option Duration := tr.findSome? (Event.retryOf e)

theorem lastDelay_append (e : String) (new tr : List Event) :
    lastDelay e (new ++ tr) = (lastDelay e new).or (lastDelay e tr) :=
  List.findSome?_append

def Alarmed (e : String) (s t : World) : Prop :=
  ∃ new, t.trace = new ++ s.trace ∧ (t.pendingRetryDelay e = none ∨
    t.pendingRetryDelay e = (lastDelay e new).or (s.pendingRetryDelay e))

def Silent (e : String) (s t : World) : Prop :=
  ∃ new, t.trace = new ++ s.trace ∧ lastDelay e new = none ∧
    (t.pendingRetryDelay e = none ∨ t.pendingRetryDelay e = s.pendingRetryDelay e)

structure Steady (e : String) (s t : World) : Prop where
  config : t.config = s.config
  delay : t.retryDelays.lookup e = s.retryDelays.lookup e
  silent : Silent e s t

section

variable {env : Env} {s t v : World} {e e' : String} {m : Medium} {c : ChannelId}

theorem Silent.refl (e : String) (s : World) : Silent e s s := ⟨[], rfl, rfl, .inr rfl⟩

theorem Silent.trans (h : Silent e s t) (h' : Silent e t v) : Silent e s v := by
  obtain ⟨new, hnew, hlast, halarm⟩ := h
  obtain ⟨new', hnew', hlast', halarm'⟩ := h'
  refine ⟨new' ++ new, ?_, ?_, ?_⟩
  · rw [hnew', hnew, List.append_assoc]
  · rw [lastDelay_append, hlast', hlast]
    rfl
  · rcases halarm' with h' | h'
    · exact .inl h'
    · rw [h']
      exact halarm

theorem Steady.refl (e : String) (s : World) : Steady e s s := ⟨rfl, rfl, .refl e s⟩

theorem Steady.trans (h : Steady e s t) (h' : Steady e t v) : Steady e s v :=
  ⟨h'.config.trans h.config, h'.delay.trans h.delay, h.silent.trans h'.silent⟩

theorem Silent.alarmed (h : Silent e s t) : Alarmed e s t := by
  obtain ⟨new, hnew, hlast, halarm⟩ := h
  refine ⟨new, hnew, ?_⟩
  rw [hlast]
  exact halarm

theorem Alarmed.trans (h : Alarmed e s t) (h' : Alarmed e t v) : Alarmed e s v := by
  obtain ⟨new, hnew, halarm⟩ := h
  obtain ⟨new', hnew', halarm'⟩ := h'
  refine ⟨new' ++ new, by rw [hnew', hnew, List.append_assoc], ?_⟩
  rw [lastDelay_append]
  cases hlast : lastDelay e new' with
  | some d =>
    rw [hlast] at halarm'
    exact halarm'
  | none =>
    rw [hlast, Option.none_or] at halarm'
    rcases halarm' with h' | h'
    · exact .inl h'
    · rw [h']
      exact halarm

/-! ### The manager's operations -/

theorem silent_of_calls {new : List Event} (halarms : t.retryUpgradeAlarms = s.retryUpgradeAlarms)
    (htrace : t.trace = new ++ s.trace) (hx : ∀ x ∈ new, x.retryOf e = none) : Silent e s t := by
  refine ⟨new, htrace, List.findSome?_eq_none_iff.mpr hx, .inr ?_⟩
  rw [pendingRetryDelay, pendingRetryDelay, halarms]

theorem Aside.silent (h : Aside s t) (e : String) : Silent e s t := by
  obtain ⟨new, hnew, hx⟩ := h.calls
  exact silent_of_calls h.alarms hnew fun x hmem => x.retryOf_eq_none e (hx x hmem)

theorem Aside.steady (h : Aside s t) (e : String) : Steady e s t :=
  ⟨h.config, by rw [h.delays], h.silent e⟩

theorem silent_emit (s : World) {x : Event} (hx : x.retryOf e = none) : Silent e s (s.emit x) :=
  silent_of_calls rfl (List.singleton_append (x := x)).symm (List.forall_mem_singleton.mpr hx)

theorem silent_cancelRetryUpgradeAlarm (s : World) (e e' : String) :
    Silent e s (s.cancelRetryUpgradeAlarm e') := by
  refine ⟨[], rfl, rfl, ?_⟩
  rw [pendingRetryDelay, cancelRetryUpgradeAlarm, HashMap.lookup_erase_eq]
  split
  case isTrue => exact .inl rfl
  case isFalse => exact .inr rfl

theorem silent_setBwuMediumForEndpoint (s : World) (e e' : String) (m : Medium) :
    Silent e s (s.setBwuMediumForEndpoint e' m) := by
  rw [setBwuMediumForEndpoint_frame]
  exact .refl e s

theorem silent_askHandler (env : Env) (s : World) (e : String) (m : Medium) (u e' : String) :
    Silent e s (s.initializeUpgradedMediumForEndpoint env m u e').2 := by
  rw [initializeUpgradedMediumForEndpoint]
  split
  case h_1 => exact .refl e s
  case h_2 =>
    dsimp only
    split <;> exact silent_emit s rfl

theorem silent_revertHandler (s : World) (e : String) (m : Medium)
    (revert : BaseBwuHandler → List String × BaseBwuHandler) :
    Silent e s (s.revertHandler m revert) := by
  rcases revertHandler_eq s m revert with h | ⟨hd, -, h⟩
  · rw [h]
    exact .refl e s
  · rw [h]
    refine silent_of_calls rfl rfl fun x hx => ?_
    obtain ⟨u, -, rfl⟩ := List.mem_map.mp (List.mem_reverse.mp hx)
    rfl

theorem silent_revertBwuMediumForEndpoint (s : World) (e u e' : String) :
    Silent e s (s.revertBwuMediumForEndpoint u e') :=
  revertBwuMediumForEndpoint_rule (R := Silent e) Silent.trans (fun s _ _ => .refl e s)
    (fun s _ => silent_emit s rfl) (fun s m f => silent_revertHandler s e m f) s u e'

theorem steady_revertBwuMediumForEndpoint (s : World) (e u e' : String) :
    Steady e s (s.revertBwuMediumForEndpoint u e') where
  config := by rw [revertBwuMediumForEndpoint_frame]
  delay := by rw [revertBwuMediumForEndpoint_frame]
  silent := silent_revertBwuMediumForEndpoint s e u e'

theorem silent_prepared (s : World) (e : String) (m : Medium) : Silent e s (s.prepared e m) :=
  ((silent_emit s rfl).trans (silent_setBwuMediumForEndpoint _ e e m)).trans
    (silent_cancelRetryUpgradeAlarm _ e e)

theorem silent_asked (env : Env) (s : World) (e : String) (m : Medium) (c : ChannelId) :
    Silent e s (s.asked env e m c).2 :=
  (silent_prepared s e m).trans (silent_askHandler env _ e m (env.serviceId c) e)

theorem silent_offered (env : Env) (s : World) (e : String) (m : Medium) (c : ChannelId) :
    Silent e s (s.offered env e m c).2 :=
  (silent_asked env s e m c).trans (silent_emit _ rfl)

theorem TurnedAway.silent (h : TurnedAway env s e m t) : Silent e s t := by
  have hemit : Silent e s (s.emit (.initiate e m)) := silent_emit s rfl
  cases h with
  | barred => exact hemit
  | refused => exact hemit.trans (silent_setBwuMediumForEndpoint _ e e m)
  | needless => exact silent_prepared s e m

theorem silent_abandoned (env : Env) (s : World) (e : String) : Silent e s (s.abandoned env e) := by
  have hleave : Silent e s (s.leaveInProgress e) := (aside_leaveInProgress s e).silent e
  rw [abandoned]
  split
  case isTrue => exact hleave.trans (silent_revertBwuMediumForEndpoint _ e _ e)
  case isFalse => exact hleave

theorem alarmed_retryUpgradesAfterDelay (h : s.retryUpgradesAfterDelay e = .ok t) :
    Alarmed e s t := by
  obtain ⟨delay, rfl⟩ := retryUpgradesAfterDelay_ok h
  refine ⟨[.retryScheduled e delay], rfl, .inr ?_⟩
  simp [pendingRetryDelay, lastDelay, Event.retryOf]

theorem steady_retryUpgradesAfterDelay (h : s.retryUpgradesAfterDelay e' = .ok t) (hne : e ≠ e') :
    Steady e s t := by
  have hother := untouched_retryUpgradesAfterDelay hne h
  obtain ⟨delay, rfl⟩ := retryUpgradesAfterDelay_ok h
  refine ⟨rfl, hother.delay, [.retryScheduled e' delay], rfl, ?_, .inr hother.alarm⟩
  simp [lastDelay, Event.retryOf, Ne.symm hne]

theorem Move.steady_or (h : Move env e' s t) (e : String) :
    Steady e s t ∨ e' = e ∧ s.retryUpgradesAfterDelay e = .ok t := by
  cases h with
  | quiet hq =>
    cases hq with
    | initiate m => exact .inl ⟨rfl, rfl, silent_emit s rfl⟩
    | setMedium m =>
      refine .inl ⟨?_, ?_, silent_setBwuMediumForEndpoint s e e' m⟩
      · rw [setBwuMediumForEndpoint_frame]
      · rw [setBwuMediumForEndpoint_frame]
    | cancel => exact .inl ⟨rfl, rfl, silent_cancelRetryUpgradeAlarm s e e'⟩
    | retry h =>
      by_cases he : e' = e
      case pos => exact .inr ⟨he, he ▸ h⟩
      case neg => exact .inl (steady_retryUpgradesAfterDelay h (Ne.symm he))
  | askHandler m =>
    refine .inl ⟨?_, ?_, silent_askHandler env s e m _ e'⟩
    · rw [initializeUpgradedMediumForEndpoint_frame]
    · rw [initializeUpgradedMediumForEndpoint_frame]
  | offer bytes => exact .inl ⟨rfl, rfl, silent_emit s rfl⟩
  | enter => exact .inl ⟨rfl, rfl, silent_emit _ rfl⟩
  | revert u => exact .inl (steady_revertBwuMediumForEndpoint s e u e')

theorem Moves.retry_rule {R : World → World → Prop} (trans : ∀ {s t v}, R s t → R t v → R s v)
    (steady : ∀ {s t}, Steady e s t → R s t)
    (retry : ∀ {s t}, s.retryUpgradesAfterDelay e = .ok t → R s t) (h : Moves env e' s t) :
    R s t := by
  induction h with
  | refl => exact steady (.refl e s)
  | tail _ hm ih =>
    rcases hm.steady_or e with hs | ⟨-, hr⟩
    · exact trans ih (steady hs)
    · exact trans ih (retry hr)

theorem Moves.alarmed (h : Moves env e' s t) (e : String) : Alarmed e s t :=
  h.retry_rule Alarmed.trans (fun hs => hs.silent.alarmed) alarmed_retryUpgradesAfterDelay

theorem Moves.silent (h : Moves env e' s t) (hne : e' ≠ e) : Silent e s t := by
  induction h with
  | refl => exact .refl e s
  | tail _ hm ih =>
    rcases hm.steady_or e with hs | ⟨he, -⟩
    · exact ih.trans hs.silent
    · exact absurd he hne

/-! ### What schedules a retry -/

/-- The request is let through and fails: the handler has no offer, or it cannot be written. -/
def OfferFails (env : Env) (s : World) (e : String) (m : Medium) : Prop :=
  s.InitiatePasses env e m ∧ ∃ c, s.getChannelForEndpoint e = some c ∧
    ((s.asked env e m c).1 = [] ∨ ¬ (s.offered env e m c).1.ok)

/-- A failed upgrade of `e` is not tried again: the shared medium is kept, or `e` is on WiFi LAN. -/
def Content (env : Env) (s : World) (e : String) : Prop :=
  s.KeepsMedium ∨ s.currentMedium env e = .wifiLan

/-- The operation may leave a new retry of `e` behind. -/
inductive Reschedules (env : Env) (s : World) (e : String) : Op → Prop
  | failure {frame : OfflineFrame} {info : UpgradePathInfo} :
      s.client.isConnectedToEndpoint e = true →
      eventOf frame = some (.upgradeFailure, some info) → ¬ s.Content env e →
      Reschedules env s e (.onIncomingFrame frame e)
  | request {m : Medium} : s.OfferFails env e m → ¬ s.Content env e →
      Reschedules env s e (.initiateBwuForEndpoint e m)
  | retry : Reschedules env s e (.fireRetryAlarm e)

theorem Content.congr (h : s.Content env e) (hconfig : t.config = s.config) (hecm : t.ecm = s.ecm) :
    t.Content env e :=
  h.imp (fun hk => hk.congr hconfig hecm) (fun hm => (currentMedium_congr env hecm e).trans hm)

theorem chain_silent (env : Env) (e : String) (s₀ : World) :
    Chain env e (fun s m => Silent e s₀ s ∧ (s.OfferFails env e m → s.Content env e))
      (fun s => Silent e s₀ s ∧ s.Content env e)
      (fun s => Silent e s₀ s ∧ s.currentMedium env e = .wifiLan) (Silent e s₀) where
  turnedAway hs ht := hs.1.trans ht.silent
  unanswered := by
    rintro s m c ⟨hs, hfails⟩ hp hc hempty
    refine ⟨hs.trans (silent_asked env s e m c), ?_⟩
    exact (hfails ⟨hp, c, hc, .inl hempty⟩).congr (asked_config ..) (asked_ecm ..)
  unwritten := by
    rintro s m c ⟨hs, hfails⟩ hp hc hlost
    refine ⟨hs.trans (silent_offered env s e m c), ?_⟩
    exact (hfails ⟨hp, c, hc, .inr hlost⟩).congr (asked_config env s e m c) (asked_ecm env s e m c)
  entered := by
    rintro s m c ⟨hs, -⟩ - - - -
    exact (hs.trans (silent_offered env s e m c)).trans (silent_emit _ rfl)
  kept hs _ := hs.1.trans ((aside_leaveInProgress _ e).silent e)
  abandoned := by
    rintro s ⟨hs, hcontent⟩ hk
    refine ⟨hs.trans (silent_abandoned env s e), ?_⟩
    exact (currentMedium_congr env (abandoned_frame env s e).2 e).trans (hcontent.resolve_left hk)
  scheduled hs hlan _ := absurd hs.2 hlan
  settled hs := hs.1
  next := by
    rintro s mediums ⟨hs, hlan⟩ -
    refine ⟨hs.trans (silent_setBwuMediumForEndpoint s e e _), fun _ => .inr ?_⟩
    exact (currentMedium_congr env (setBwuMediumForEndpoint_ecm ..) e).trans hlan

/-! ### Frames and operations -/

theorem steady_told (env : Env) (s : World) (e e' : String) (info : UpgradePathInfo) :
    Steady e s (s.runUpgradeFailedProtocol env e' info) := by
  have ht := runUpgradeFailedProtocol_told env s e' info
  generalize s.runUpgradeFailedProtocol env e' info = t at ht
  have hwrite : ∀ c, Steady e s (s.write env (some e') c (.frame (forBwuFailure info))).2 :=
    fun c => (aside_write env s _ c _).steady e
  have hleave : ∀ v : World, Steady e v (v.leaveInProgress e') :=
    fun v => (aside_leaveInProgress v e').steady e
  cases ht with
  | unregistered => exact .refl e s
  | @unwritten c => exact (hwrite c).trans ((aside_closeWithReason _ c .ioError).steady e)
  | @reverted c =>
    exact ((hwrite c).trans (steady_revertBwuMediumForEndpoint _ e _ e')).trans (hleave _)
  | @mediumless c => exact (hwrite c).trans (hleave _)

theorem steady_adopted (s : World) (e e' : String) (m : Medium) : Steady e s (s.adopted e' m) := by
  rw [adopted_frame]
  exact ⟨rfl, rfl, .refl e s⟩

theorem Dispatched.steady_or {fuel : Nat} {frame : OfflineFrame}
    (h : Dispatched env fuel s frame e' t) (e : String) :
    Steady e s t ∨ ∃ info, s.client.isConnectedToEndpoint e' = true ∧
      eventOf frame = some (.upgradeFailure, some info) ∧
      s.processUpgradeFailureEvent env (initiateBwuForEndpoint env fuel) e' info = .ok t := by
  cases h with
  | aside ha => exact .inl (ha.steady e)
  | refused _ hr =>
    have htold := fun v info => steady_told env v e e' info
    rcases hr.aside.2 with ha | ⟨-, ha⟩
    · exact .inl ((ha.steady e).trans (htold _ _))
    · exact .inl (((steady_adopted s e e' _).trans (ha.steady e)).trans (htold _ _))
  | @takenUp info c v _ ht =>
    have hv := (steady_adopted s e e' _).trans (ht.aside.2.steady e)
    have henter : Steady e v (v.enterInProgress e') := ⟨rfl, rfl, silent_emit _ rfl⟩
    exact .inl ((hv.trans henter).trans ((aside_runUpgradeProtocol ..).steady e))
  | failure hconn hev hst => exact .inr ⟨_, hconn, hev, hst⟩

theorem steady_onIncomingConnection (env : Env) (s : World) (e : String) (c : ChannelId) :
    Steady e s (s.onIncomingConnection env c) := by
  rcases onIncomingConnection_aside env s c with ha | ⟨e', -, ha⟩
  · exact ha.steady e
  · have hcancel : Steady e s (s.cancelRetryUpgradeAlarm e') :=
      ⟨rfl, rfl, silent_cancelRetryUpgradeAlarm s e e'⟩
    exact hcancel.trans (ha.steady e)

theorem silent_onEndpointDisconnect (s : World) (e u e' : String) :
    Silent e s (s.onEndpointDisconnect u e') :=
  onEndpointDisconnect_rule (R := Silent e) (Silent.refl e) Silent.trans
    (fun s _ => silent_emit s rfl) (fun s => (aside_closeParked s e' .shutdown).silent e)
    (fun s => (aside_leaveInProgress s e').silent e) (fun _ => ⟨[], rfl, rfl, .inr rfl⟩)
    (fun s => silent_cancelRetryUpgradeAlarm s e e') (fun _ => ⟨[], rfl, rfl, .inr rfl⟩)
    (fun s u => silent_revertBwuMediumForEndpoint s e u e') s u

theorem silent_shutdown (s : World) (e : String) : Silent e s s.shutdown := by
  have hone : ∀ v m, Silent e v (revertInitiatorState v m) := by
    intro v m
    have htell : Silent e v (v.emit (.revertInitiatorState m)) := silent_emit v rfl
    exact htell.trans (silent_revertHandler _ e m _)
  have hall := foldl_revertInitiatorState (R := Silent e) (Silent.refl e) Silent.trans hone
    s.handlers.keys { s with retryUpgradeAlarms := ∅, retryDelays := ∅ }
  have hcancel : Silent e s { s with retryUpgradeAlarms := ∅, retryDelays := ∅ } :=
    ⟨[], rfl, rfl, .inl rfl⟩
  exact hcancel.trans hall

theorem Step.silent {op : Op} (hst : Step env s op t) (hshutdown : op ≠ .shutdown)
    (hok : ¬ s.Reschedules env e op) : Silent e s t := by
  obtain ⟨fuel, hst⟩ := hst
  cases op with
  | initiateBwuForEndpoint e' m =>
    by_cases hne : e' = e
    case pos =>
      subst hne
      refine (chain_silent env e' s).initiate fuel ⟨.refl e' s, fun hfails => ?_⟩ hst
      by_contra hcontent
      exact hok (.request hfails hcontent)
    case neg => exact Moves.silent (initiateBwuForEndpoint_moves fuel hst) hne
  | onIncomingFrame frame e' =>
    rcases (onIncomingFrame_dispatched hst).steady_or e with hs | ⟨info, hconn, hev, hst⟩
    · exact hs.silent
    · by_cases hne : e' = e
      case pos =>
        subst hne
        refine (chain_silent env e' s).onFailure fuel ⟨.refl e' s, ?_⟩ hst
        by_contra hcontent
        exact hok (.failure hconn hev hcontent)
      case neg =>
        have hleave := (aside_leaveInProgress s e').silent e
        exact hleave.trans (Moves.silent (processUpgradeFailureEvent_moves hst) hne)
  | onIncomingConnection c =>
    cases hst
    exact (steady_onIncomingConnection env s e c).silent
  | fireRetryAlarm e' =>
    refine Moves.silent (fireRetryAlarm_moves hst) ?_
    rintro rfl
    exact hok .retry
  | onEndpointDisconnect u e' =>
    cases hst
    exact silent_onEndpointDisconnect s e u e'
  | shutdown => exact absurd rfl hshutdown
  | registerChannelForEndpoint e' c =>
    cases hst
    exact silent_emit _ rfl
  | resetUpgradeForEndpoint e' =>
    cases hst
    exact (aside_leaveInProgress s e').silent e
  | onConnectionInitiated | localEndpointAcceptedConnection
  | remoteEndpointAcceptedConnection | onConnectionAccepted | onDisconnected | setUpgradeMediums
  | unregisterChannelForEndpoint | closeChannel | enableEncryption =>
    cases hst
    exact .refl e s

theorem Step.alarmed {op : Op} (hst : Step env s op t) (hshutdown : op ≠ .shutdown) (e : String) :
    Alarmed e s t := by
  by_cases hre : s.Reschedules env e op
  case neg => exact (hst.silent hshutdown hre).alarmed
  case pos =>
    obtain ⟨fuel, hst⟩ := hst
    cases hre with
    | failure =>
      rcases (onIncomingFrame_dispatched hst).steady_or e with hs | ⟨info, -, -, hst⟩
      · exact hs.silent.alarmed
      · have hleave := ((aside_leaveInProgress s e).silent e).alarmed
        exact hleave.trans (Moves.alarmed (processUpgradeFailureEvent_moves hst) e)
    | request => exact Moves.alarmed (initiateBwuForEndpoint_moves fuel hst) e
    | retry => exact Moves.alarmed (fireRetryAlarm_moves hst) e

end

theorem handle_op {cmd : BwuCommand} {op : Op} (h : cmd.op = some op) (env : Env) (fuel : Nat)
    (s : World) : s.handle env fuel cmd = (s.apply env fuel op).map (·, none) := by
  cases cmd <;> cases h <;> rfl

theorem handle_query {cmd : BwuCommand} {env : Env} {fuel : Nat} {s t : World}
    {reply : Option Reply} (hop : cmd.op = none) (h : s.handle env fuel cmd = .ok (t, reply)) :
    t = s := by
  cases cmd <;> cases hop <;> cases h
  all_goals rfl

theorem handle_step {env : Env} {fuel : Nat} {s t : World} {cmd : BwuCommand}
    {reply : Option Reply} (h : s.handle env fuel cmd = .ok (t, reply)) :
    t = s ∨ ∃ op, cmd.op = some op ∧ op ≠ .shutdown ∧ Step env s op t := by
  cases hop : cmd.op with
  | none => exact .inl (handle_query hop h)
  | some op =>
    refine .inr ⟨op, rfl, ?_, fuel, ?_⟩
    · rintro rfl
      cases cmd <;> cases hop
    · rw [handle_op hop] at h
      cases hst : s.apply env fuel op with
      | error => rw [hst] at h; cases h
      | ok => rw [hst] at h; cases h; rfl

end World

/-! ### The delay of the retry that is pending -/

def Phase.left : Phase → List String
  | .due endpointIds => endpointIds
  | .firing _ endpointIds => endpointIds
  | .head | .stopped => []

namespace BwuActor

def lastScheduled (a : BwuActor) (e : String) : Option (Instant × Duration) :=
  a.log.findSome? fun x => (x.2.retryOf e).map (x.1, ·)

/-- The command may put another retry in the place of one that is pending. -/
inductive Supersedes (env : Env) (a : BwuActor) : Act → Prop
  | command {cmd : BwuCommand} {op : Op} {e : String} (time : Instant) : cmd.op = some op →
      e ∈ a.world.retryUpgradeAlarms → a.world.Reschedules env e op →
      Supersedes env a (.command cmd time)

structure Punctual (a : BwuActor) : Prop where
  pending : ∀ {e d}, a.world.pendingRetryDelay e = some d → ∃ t, a.lastScheduled e = some (t, d) ∧
    t ≤ a.clock ∧ ∀ {deadline}, a.armed.lookup e = some deadline → t + d ≤ deadline
  left : ∀ {e}, e ∈ a.phase.left → ∃ deadline, a.armed.lookup e = some deadline ∧ deadline ≤ a.clock
  firing : ∀ {e due}, a.phase = .firing e due → a.armed.lookup e = none ∧
    ∃ t d, a.lastScheduled e = some (t, d) ∧ a.world.pendingRetryDelay e = some d ∧ t + d ≤ a.clock

section

variable {env : Env} {latest time : Instant} {a b : BwuActor} {e : String} {phase : Phase}

theorem lastScheduled_advance {world : World} {new : List Event}
    (h : world.trace = new ++ a.world.trace) (time : Instant) (phase : Phase) (e : String) :
    (a.advance world time phase).lastScheduled e =
      ((World.lastDelay e new).map (time, ·)).or (a.lastScheduled e) := by
  have hnew : world.trace.take (world.trace.length - a.world.trace.length) = new := by
    rw [h, List.length_append, Nat.add_sub_cancel_right, List.take_left]
  rw [lastScheduled, advance, hnew, List.findSome?_append, List.findSome?_map, World.lastDelay,
    List.map_findSome?]
  rfl

theorem lastScheduled_idle (a : BwuActor) (time : Instant) (phase : Phase) (e : String) :
    (a.advance a.world time phase).lastScheduled e = a.lastScheduled e :=
  lastScheduled_advance (List.nil_append _).symm time phase e

theorem Punctual.kept {world : World} (h : a.Punctual) (hclock : a.clock ≤ time)
    (halarmed : ∀ e, World.Alarmed e a.world world)
    (hsilent : ∀ {e deadline}, a.armed.lookup e = some deadline → World.Silent e a.world world)
    {d : Duration} (hd : world.pendingRetryDelay e = some d) :
    ∃ t, (a.advance world time phase).lastScheduled e = some (t, d) ∧ t ≤ time ∧
      ∀ {deadline}, a.armed.lookup e = some deadline → t + d ≤ deadline := by
  -- Without a new schedule the old one stands.
  have hold : World.Silent e a.world world → ∃ t,
      (a.advance world time phase).lastScheduled e = some (t, d) ∧ t ≤ time ∧
        ∀ {deadline}, a.armed.lookup e = some deadline → t + d ≤ deadline := by
    rintro ⟨new, hnew, hlast, halarm⟩
    rw [hd] at halarm
    obtain ⟨t, hs, ht, harmed⟩ := h.pending (halarm.resolve_left nofun).symm
    refine ⟨t, ?_, ht.trans hclock, harmed⟩
    rw [lastScheduled_advance hnew, hlast]
    exact hs
  cases harmed : a.armed.lookup e with
  | some deadline =>
    obtain ⟨t, ht⟩ := hold (hsilent harmed)
    exact ⟨t, harmed ▸ ht⟩
  | none =>
    obtain ⟨new, hnew, halarm⟩ := halarmed e
    rw [hd] at halarm
    have halarm := halarm.resolve_left nofun
    cases hlast : World.lastDelay e new with
    | some d' =>
      rw [hlast, Option.some_or] at halarm
      cases halarm
      refine ⟨time, ?_, le_refl time, nofun⟩
      rw [lastScheduled_advance hnew, hlast]
      rfl
    | none =>
      rw [hlast, Option.none_or] at halarm
      obtain ⟨t, ht⟩ := hold ⟨new, hnew, hlast, .inr (hd.trans halarm)⟩
      exact ⟨t, harmed ▸ ht⟩

theorem Punctual.command {cmd : BwuCommand} {fuel : Nat} {world : World} {reply : Option Reply}
    (h : a.Punctual) (ht : a.Tracked) (hclock : a.clock ≤ time)
    (hok : ¬ a.Supersedes env (.command cmd time)) (hp : a.phase = .head)
    (hw : a.world.handle env fuel cmd = .ok (world, reply)) :
    (a.advance world time (.due [])).Punctual := by
  rw [Tracked, hp] at ht
  refine ⟨fun hd => ?_, fun he => (List.not_mem_nil he).elim, fun hphase => by cases hphase⟩
  rcases World.handle_step hw with rfl | ⟨op, hop, hshutdown, hst⟩
  · exact h.kept hclock (fun e => (World.Silent.refl e a.world).alarmed)
      (fun _ => .refl _ a.world) hd
  · refine h.kept hclock (hst.alarmed hshutdown) (fun harmed => ?_) hd
    refine hst.silent hshutdown fun hre => hok ?_
    exact .command time hop ((ht _).mp (HashMap.mem_of_lookup harmed)) hre

theorem Punctual.waited {due : List String} (h : a.Punctual) (ht : a.Tracked)
    (hp : a.phase = .due (e :: due)) :
    ∃ t d, a.lastScheduled e = some (t, d) ∧ a.world.pendingRetryDelay e = some d ∧
      t + d ≤ a.clock := by
  rw [Tracked, hp] at ht
  obtain ⟨d, hd⟩ := HashMap.lookup_of_mem (ht.2 e List.mem_cons_self)
  obtain ⟨t, hs, -, harmed⟩ := h.pending hd
  obtain ⟨deadline, hl, hle⟩ := h.left (by rw [hp]; exact List.mem_cons_self)
  exact ⟨t, d, hs, hd, (harmed hl).trans hle⟩

theorem Punctual.turn {act : Act} (h : a.Punctual) (ht : a.Tracked) (hclock : a.clock ≤ act.time)
    (hok : ¬ a.Supersedes env act) (hturn : Turn env latest a act b) : b.Punctual := by
  -- A step that leaves the manager alone keeps the schedule.
  have hidle : ∀ phase {e d}, a.world.pendingRetryDelay e = some d →
      ∃ t, (a.advance a.world act.time phase).lastScheduled e = some (t, d) ∧ t ≤ act.time ∧
        ∀ {deadline}, a.armed.lookup e = some deadline → t + d ≤ deadline := by
    intro phase e d hd
    exact h.kept hclock (fun e => (World.Silent.refl e a.world).alarmed)
      (fun _ => .refl _ a.world) hd
  cases hturn with
  | command cmd time fuel hp hw => exact h.command ht hclock hok hp hw
  | shutdown time hp =>
    refine ⟨fun {e d} hd => ?_, fun he => (List.not_mem_nil he).elim, fun hphase => by cases hphase⟩
    rw [advance, World.shutdown_frame] at hd
    cases hd
  | closed time hp =>
    exact ⟨hidle _, fun he => (List.not_mem_nil he).elim, fun hphase => by cases hphase⟩
  | elapsed due now hp _ _ hdue =>
    exact ⟨hidle _, fun he => mem_dueEndpoints.mp (hdue.mem_iff.mp he),
      fun hphase => by cases hphase⟩
  | @fire time ep due hp =>
    have hwaited := h.waited ht hp
    rw [Tracked, hp] at ht
    obtain ⟨hnot, -⟩ := List.nodup_cons.mp ht.1
    refine ⟨fun {e d} hd => ?_, fun {e} he => ?_, fun {e due'} hp' => ?_⟩
    · obtain ⟨t, hs, hle, harmed⟩ := hidle (.firing ep due) hd
      refine ⟨t, hs, hle, fun hl => harmed ?_⟩
      rw [HashMap.lookup_erase_eq] at hl
      split at hl
      case isTrue => cases hl
      case isFalse => exact hl
    · obtain ⟨deadline, hl, hle⟩ := h.left (e := e) (by rw [hp]; exact List.mem_cons_of_mem _ he)
      refine ⟨deadline, ?_, hle.trans hclock⟩
      have hne : e ≠ ep := fun heq => hnot (heq ▸ he)
      exact (AList.lookup_erase_ne hne).trans hl
    · cases hp'
      obtain ⟨t, d, hs, hd, hle⟩ := hwaited
      refine ⟨AList.lookup_erase _ _, t, d, ?_, hd, hle.trans hclock⟩
      exact (lastScheduled_idle a time (.firing ep due) ep).trans hs
  | @fired time fuel ep due world hp hw =>
    have hmoves := World.fireRetryAlarm_moves hw
    refine ⟨fun hd => ?_, fun {e} he => ?_, fun hphase => by cases hphase⟩
    · refine h.kept hclock (World.Moves.alarmed hmoves) (fun {e _} harmed => ?_) hd
      refine World.Moves.silent hmoves ?_
      rintro rfl
      cases harmed.symm.trans (h.firing hp).1
    · obtain ⟨deadline, hl, hle⟩ := h.left (e := e) (by rw [hp]; exact he)
      exact ⟨deadline, hl, hle.trans hclock⟩
  | @reconcile now armed hp harm =>
    refine ⟨fun {e d} hd => ?_, fun he => (List.not_mem_nil he).elim, fun hphase => by cases hphase⟩
    obtain ⟨t, hs, hle, harmed⟩ := hidle .head hd
    refine ⟨t, hs, hle, fun {deadline} hl => ?_⟩
    have hd' : a.world.pendingRetryDelay e = some d := hd
    change armed.lookup e = some deadline at hl
    rw [lookup_reconcileTimers harm, hd'] at hl
    cases hold : a.armed.lookup e with
    | some deadline' =>
      rw [hold] at hl
      cases hl
      exact harmed hold
    | none =>
      rw [hold] at hl
      cases hl
      exact Nat.add_le_add_right hle d

end

/-- While no command puts another retry in the place of a pending one, a retry is fired once its
own delay is over, counted from the moment it was scheduled. -/
theorem delay_honoured {env : Env} {latest : Instant} {a : BwuActor}
    (h : a.ReachedBy env latest fun a act => a.clock ≤ act.time ∧ ¬ a.Supersedes env act) :
    ∀ e due, a.phase = .firing e due → ∃ t d, a.lastScheduled e = some (t, d) ∧
      a.world.pendingRetryDelay e = some d ∧ t + d ≤ a.clock := by
  obtain ⟨config, mediums, id, h⟩ := h
  have hinv : a.Tracked ∧ a.Punctual := by
    refine Reach.invariant (fun a => a.Tracked ∧ a.Punctual) ?_ ?_ h
    · refine ⟨⟨.nil, List.forall_mem_nil _⟩, ?_, ?_, nofun⟩
      · exact fun {e d} hd => absurd hd (by simp [build, World.new, World.pendingRetryDelay])
      · exact fun he => (List.not_mem_nil he).elim
    · rintro s act t ⟨ht, hp⟩ ⟨hclock, hok⟩ hturn
      exact ⟨ht.turn hturn, hp.turn ht hclock hok hturn⟩
  exact fun e due hp => (hinv.2.firing hp).2

theorem delay_honoured_once :
    ∃ a : BwuActor, a.phase = .firing "E" [] ∧ ∃ t d, a.lastScheduled "E" = some (t, d) ∧
      a.world.pendingRetryDelay "E" = some d ∧ t + d ≤ a.clock := by
  have hfree : ∀ {a : BwuActor} {cmd : BwuCommand} {time : Instant},
      a.world.retryUpgradeAlarms = ∅ → ¬ a.Supersedes reliable (.command cmd time) := by
    rintro a cmd time hnone ⟨_, _, hmem, -⟩
    rw [hnone] at hmem
    exact AList.notMem_empty _ hmem
  have h : Reach (Turn reliable (10 ^ 18))
      (fun a act => a.clock ≤ act.time ∧ ¬ a.Supersedes reliable act) (build {} [.wifiLan] "L") _ :=
    .refl
  have h := h.snoc ⟨by decide, by nofun⟩ (.reconcile 0 rfl rfl)
  have h := h.snoc ⟨by decide, hfree rfl⟩ (.command (.connectionAccepted "E") 0 0 rfl rfl)
  have h := h.snoc ⟨by decide, by nofun⟩ (.reconcile 0 rfl rfl)
  have h := h.snoc ⟨by decide, hfree rfl⟩
    (.command (.incomingFrame (forBwuFailure lanPath) "E") 0 1 rfl rfl)
  have h := h.snoc ⟨by decide, by nofun⟩ (.reconcile 0 rfl rfl)
  have h := h.snoc ⟨by decide, by nofun⟩
    (.elapsed ["E"] (Duration.ofSecs 3) rfl rfl (by decide) (by decide))
  have h := h.snoc ⟨by decide, by nofun⟩ (.fire (Duration.ofSecs 3) rfl)
  exact ⟨_, rfl, delay_honoured ⟨_, _, _, h⟩ "E" [] rfl⟩

/-- A second failure report comes in while the first retry is pending: the new delay is six
seconds, and the retry is fired a second later. -/
theorem delay_cut_short :
    ∃ a : BwuActor, a.ReachedBy reliable (10 ^ 18) (fun a act => a.clock ≤ act.time) ∧
      a.phase = .firing "E" [] ∧
      a.lastScheduled "E" = some (Duration.ofSecs 2, Duration.ofSecs 6) ∧
      a.world.pendingRetryDelay "E" = some (Duration.ofSecs 6) ∧
      a.clock < Duration.ofSecs 2 + Duration.ofSecs 6 := by
  have h : Reach (Turn reliable (10 ^ 18)) (fun a act => a.clock ≤ act.time)
      (build {} [.wifiLan] "L") _ := .refl
  have h := h.snoc (by decide) (.reconcile 0 rfl rfl)
  have h := h.snoc (by decide) (.command (.connectionAccepted "E") 0 0 rfl rfl)
  have h := h.snoc (by decide) (.reconcile 0 rfl rfl)
  have h := h.snoc (by decide) (.command (.incomingFrame (forBwuFailure lanPath) "E") 0 1 rfl rfl)
  have h := h.snoc (by decide) (.reconcile 0 rfl rfl)
  have h := h.snoc (by decide)
    (.command (.incomingFrame (forBwuFailure lanPath) "E") (Duration.ofSecs 2) 1 rfl rfl)
  have h := h.snoc (by decide) (.reconcile (Duration.ofSecs 2) rfl rfl)
  have h := h.snoc (by decide)
    (.elapsed ["E"] (Duration.ofSecs 3) rfl rfl (by decide) (by decide))
  have h := h.snoc (by decide) (.fire (Duration.ofSecs 3) rfl)
  exact ⟨_, ⟨_, _, _, h⟩, rfl, rfl, rfl, by decide⟩

end BwuActor

end Nearby.Bwu
