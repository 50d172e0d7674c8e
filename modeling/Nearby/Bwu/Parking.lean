import Nearby.Bwu.Dispatch
import Nearby.Swap.Report

/-! Parked channels: each success report is paid for by a parking, and what leaves
`previous_endpoint_channels` has been closed. -/

namespace Nearby.Bwu

open Proto Lib Relation

def Event.isClose (c : ChannelId) : Event → Bool
  | .close c' => c' = c
  | .closeWithReason c' _ => c' = c
  | _ => false

def Event.success : Event → Option (String × Medium)
  | .bandwidthChanged e m => some (e, m)
  | _ => none

theorem isClose_of_absEvent {x : Event} {c : ChannelId} {b : Bool}
    (h : absEvent x = some (.close c b)) : x.isClose c = true := by
  cases x with
  | close c' =>
    cases h
    exact decide_eq_true rfl
  | closeWithReason c' reason =>
    cases h
    exact decide_eq_true rfl
  | createUpgraded _ _ _ _ result => cases result <;> cases h
  | _ => cases h

namespace World

def reports (s : World) (e : String) : Nat := s.client.bandwidthChanged.countP (·.1 = e)

/-! ### Success reports -/

theorem onIncomingFrame_safeToClose {env : Env} {fuel : Nat} {s : World} {frame : OfflineFrame}
    {e : String} {info : Option UpgradePathInfo} (hc : s.client.isConnectedToEndpoint e = true)
    (hev : eventOf frame = some (.safeToClosePriorChannel, info)) :
    s.onIncomingFrame env fuel frame e =
      .ok (if e ∈ s.inProgressUpgrades then s.processSafeToClosePriorChannelEvent env e
        else s) := by
  obtain ⟨bwu, h, het, -⟩ := onIncomingFrame_dispatch env fuel s e hev
  rw [h]
  simp only [onBwuNegotiationFrame, het, hc, not_true_eq_false, if_false]
  by_cases hin : e ∈ s.inProgressUpgrades
  · rw [if_neg (not_not.mpr hin), if_pos hin]
  · rw [if_pos hin, if_neg hin]

/-- `t` is `s` after the completion of the upgrade of `e` that had parked `prev`; the
channel registered now is `c`. -/
structure Completed (env : Env) (s : World) (e : String) (prev c : ChannelId) (t : World) :
    Prop where
  parked : s.previousEndpointChannels.lookup e = some prev
  unparked : t.previousEndpointChannels.lookup e = none
  closed : (t.channels prev).closed = true
  registered : t.getChannelForEndpoint e = some c
  resumed : (t.channels c).paused = false
  left : e ∉ t.inProgressUpgrades
  recorded : t.client.bandwidthChanged = s.client.bandwidthChanged ++ [(e, env.medium c)]
  trace : t.trace =
    .bandwidthChanged e (env.medium c) :: .resume c :: .closeWithReason prev .upgraded ::
      .read prev :: .write (some e) prev (.frame (forDisconnection false false))
        (s.channels prev).paused false
        (env.write (.disableEncryption prev :: s.trace) prev
          (.frame (forDisconnection false false))) ::
      .disableEncryption prev :: s.trace

theorem processSafeToClosePriorChannelEvent_completed (env : Env) {s : World} {e : String}
    {prev c : ChannelId} (hp : s.previousEndpointChannels.lookup e = some prev)
    (hc : s.getChannelForEndpoint e = some c) :
    Completed env s e prev c (s.processSafeToClosePriorChannelEvent env e) := by
  have hc' : s.ecm.lookup e = some c := hc
  simp only [processSafeToClosePriorChannelEvent, hp]
  generalize hs₁ : (World.closeWithReason _ prev .upgraded) = s₁
  have hr : s₁.getChannelForEndpoint e = some c := by rw [← hs₁]; exact hc
  simp only [hr]
  refine ⟨hp, ?_, ?_, hr, ?_, ?_, ?_, ?_⟩
  · rw [← hs₁]
    exact AList.lookup_erase ..
  · by_cases hcc : prev = c
    · subst hcc
      simp [← hs₁, leaveInProgress, onBandwidthChanged, resume, closeWithReason, modifyChannel,
        emit]
    · simp [← hs₁, leaveInProgress, onBandwidthChanged, resume, closeWithReason, modifyChannel,
        emit, hcc]
  · simp [leaveInProgress, onBandwidthChanged, resume, modifyChannel, emit]
  · exact HashMap.not_mem_erase _ e
  · rw [← hs₁]
    rfl
  · simp [← hs₁, leaveInProgress, onBandwidthChanged, resume, closeWithReason, modifyChannel, emit,
      read, write, disableEncryption, unpark]

structure Unreported (s t : World) : Prop where
  client : t.client.bandwidthChanged = s.client.bandwidthChanged
  trace : t.trace.filterMap Event.success = s.trace.filterMap Event.success

section

variable {env : Env} {s t v : World} {e : String} {c : ChannelId} {info : UpgradePathInfo}

theorem Unreported.refl (s : World) : Unreported s s := ⟨rfl, rfl⟩

theorem Unreported.trans (h : Unreported s t) (h' : Unreported t v) : Unreported s v :=
  ⟨h'.client.trans h.client, h'.trace.trans h.trace⟩

theorem unreported_setBwuMediumForEndpoint (s : World) (e : String) (m : Medium) :
    Unreported s (s.setBwuMediumForEndpoint e m) := by
  rw [setBwuMediumForEndpoint_frame, setBwuMediumForEndpoint]
  split <;> exact ⟨rfl, rfl⟩

theorem unreported_adopted (s : World) (e : String) (m : Medium) :
    Unreported s (s.adopted e m) := by
  rw [adopted]
  split
  · exact unreported_setBwuMediumForEndpoint s e m
  · exact .refl s

theorem unreported_revertHandler (s : World) (m : Medium)
    (revert : BaseBwuHandler → List String × BaseBwuHandler) :
    Unreported s (s.revertHandler m revert) := by
  rcases revertHandler_eq s m revert with h | ⟨_, -, h⟩
  · rw [h]
    exact .refl s
  · rw [h]
    refine ⟨rfl, ?_⟩
    dsimp only
    rw [List.filterMap_append, List.filterMap_eq_nil_iff.mpr, List.nil_append]
    intro x hx
    obtain ⟨u, -, rfl⟩ := List.mem_map.mp (List.mem_reverse.mp hx)
    rfl

theorem unreported_revertBwuMediumForEndpoint (s : World) (u e : String) :
    Unreported s (s.revertBwuMediumForEndpoint u e) :=
  revertBwuMediumForEndpoint_rule .trans (fun _ _ _ => ⟨rfl, rfl⟩) (fun _ _ => ⟨rfl, rfl⟩)
    unreported_revertHandler s u e

theorem Move.unreported (h : Move env e s t) : Unreported s t := by
  cases h with
  | quiet hp =>
    cases hp with
    | initiate | cancel => exact ⟨rfl, rfl⟩
    | setMedium m => exact unreported_setBwuMediumForEndpoint s e m
    | retry ht =>
      obtain ⟨delay, rfl⟩ := retryUpgradesAfterDelay_ok ht
      exact ⟨rfl, rfl⟩
  | askHandler m =>
    rw [initializeUpgradedMediumForEndpoint]
    split
    case h_1 => exact .refl s
    case h_2 =>
      dsimp only
      split <;> exact ⟨rfl, rfl⟩
  | offer | enter => exact ⟨rfl, rfl⟩
  | revert u => exact unreported_revertBwuMediumForEndpoint s u e

theorem Moves.unreported (h : Moves env e s t) : Unreported s t := by
  induction h with
  | refl => exact .refl s
  | tail _ hstep ih => exact ih.trans hstep.unreported

theorem unreported_dialUpgraded (env : Env) (s : World) (e : String) (info : UpgradePathInfo) :
    Unreported s (s.dialUpgraded env e info).2 := by
  have hd := dialUpgraded_dial env s e info
  generalize s.dialUpgraded env e info = d at hd
  cases hd <;> exact ⟨rfl, rfl⟩

theorem Refused.unreported (h : Refused env s e info v) : Unreported s v := by
  have hdial : Unreported s ((s.adopted e (upiMedium info)).dialUpgraded env e info).2 :=
    (unreported_adopted s e _).trans (unreported_dialUpgraded env _ e info)
  cases h with
  | stranger | barred => exact .refl s
  | mismatched => exact unreported_adopted s e _
  | undialled _ _ hd => rwa [hd] at hdial
  | unacknowledged _ _ hd =>
    rw [hd] at hdial
    exact hdial.trans ⟨rfl, rfl⟩

theorem TakenUp.unreported (h : TakenUp env s e info c v) : Unreported s v := by
  have hdial : Unreported s ((s.adopted e (upiMedium info)).dialUpgraded env e info).2 :=
    (unreported_adopted s e _).trans (unreported_dialUpgraded env _ e info)
  cases h with
  | acknowledged _ _ hd =>
    rw [hd] at hdial
    exact hdial.trans ⟨rfl, rfl⟩
  | unasked _ _ hd => rwa [hd] at hdial

theorem unreported_runUpgradeFailedProtocol (env : Env) (s : World) (e : String)
    (info : UpgradePathInfo) : Unreported s (s.runUpgradeFailedProtocol env e info) := by
  have htold := runUpgradeFailedProtocol_told env s e info
  generalize s.runUpgradeFailedProtocol env e info = t at htold
  cases htold with
  | unregistered => exact .refl s
  | unwritten | mediumless => exact ⟨rfl, rfl⟩
  | reverted =>
    refine .trans (.trans ?_ (unreported_revertBwuMediumForEndpoint _ _ e)) ⟨rfl, rfl⟩
    exact ⟨rfl, rfl⟩

theorem unreported_closeParked (s : World) (e : String) (reason : DisconnectionReason) :
    Unreported s (s.closeParked e reason) := by
  rw [closeParked]
  split <;> exact ⟨rfl, rfl⟩

theorem unreported_closeOutOfSync (s : World) (e : String) :
    Unreported s (s.closeOutOfSync e) := by
  refine (unreported_closeParked s e .unfinished).trans ?_
  rw [closeOutOfSync]
  split <;> exact ⟨rfl, rfl⟩

theorem unreported_processLastWriteToPriorChannelEvent (env : Env) (s : World) (e : String) :
    Unreported s (s.processLastWriteToPriorChannelEvent env e) := by
  rw [processLastWriteToPriorChannelEvent]
  split
  case h_1 => exact ⟨rfl, rfl⟩
  case h_2 =>
    dsimp only
    split <;> exact ⟨rfl, rfl⟩

theorem unreported_runUpgradeProtocol (env : Env) (s : World) (e : String) (c : ChannelId)
    (b : Bool) : Unreported s (s.runUpgradeProtocol env e c b) := by
  simp only [runUpgradeProtocol]
  split
  case h_1 => exact ⟨rfl, rfl⟩
  case h_2 =>
    split
    case isTrue => exact ⟨rfl, rfl⟩
    case isFalse =>
      split
      case isTrue =>
        refine .trans ?_ (unreported_processLastWriteToPriorChannelEvent env _ e)
        exact ⟨rfl, rfl⟩
      case isFalse => exact ⟨rfl, rfl⟩

theorem unreported_onIncomingConnection (env : Env) (s : World) (c : ChannelId) :
    Unreported s (s.onIncomingConnection env c) := by
  have hsocket := onIncomingConnection_socket env s c
  generalize s.onIncomingConnection env c = t at hsocket
  cases hsocket with
  | unreadable | unwritable | unattributed => exact ⟨rfl, rfl⟩
  | attributed e b =>
    refine .trans ?_ (unreported_runUpgradeProtocol env _ e c b)
    exact ⟨rfl, rfl⟩

theorem unreported_onEndpointDisconnect (s : World) (u e : String) :
    Unreported s (s.onEndpointDisconnect u e) :=
  onEndpointDisconnect_rule .refl .trans (fun _ _ => ⟨rfl, rfl⟩)
    (fun s => unreported_closeParked s e .shutdown) (fun _ => ⟨rfl, rfl⟩) (fun _ => ⟨rfl, rfl⟩)
    (fun _ => ⟨rfl, rfl⟩) (fun _ => ⟨rfl, rfl⟩)
    (fun s u => unreported_revertBwuMediumForEndpoint s u e) s u

theorem unreported_shutdown (s : World) : Unreported s s.shutdown := by
  have hrevert : ∀ (v : World) (m : Medium), Unreported v (v.revertInitiatorState m) := by
    intro v m
    refine .trans ?_ (unreported_revertHandler _ m _)
    exact ⟨rfl, rfl⟩
  have hcancel : Unreported s { s with retryUpgradeAlarms := ∅, retryDelays := ∅ } := ⟨rfl, rfl⟩
  have hreverted := foldl_revertInitiatorState .refl .trans hrevert s.handlers.keys
    { s with retryUpgradeAlarms := ∅, retryDelays := ∅ }
  exact (hcancel.trans hreverted).trans ⟨rfl, rfl⟩

theorem processSafeToClosePriorChannelEvent_reported (env : Env) (s : World) (e : String) :
    Unreported s (s.processSafeToClosePriorChannelEvent env e) ∨
      ∃ prev c, Completed env s e prev c (s.processSafeToClosePriorChannelEvent env e) := by
  cases hp : s.previousEndpointChannels.lookup e with
  | none =>
    rw [processSafeToClosePriorChannelEvent, hp]
    exact .inl (.refl s)
  | some prev =>
    cases hc : s.getChannelForEndpoint e with
    | some c => exact .inr ⟨prev, c, processSafeToClosePriorChannelEvent_completed env hp hc⟩
    | none =>
      simp only [processSafeToClosePriorChannelEvent, hp]
      generalize hs₁ : (World.closeWithReason _ prev .upgraded) = s₁
      have hr : s₁.getChannelForEndpoint e = none := by rw [← hs₁]; exact hc
      simp only [hr]
      rw [← hs₁]
      exact .inl ⟨rfl, rfl⟩

theorem Handled.reported {fuel : Nat} {frame : OfflineFrame} (h : Handled env fuel s frame e t) :
    Unreported s t ∨ ∃ prev c, Completed env s e prev c t := by
  cases h with
  | ignored => exact .inl (.refl s)
  | outOfSync => exact .inl (unreported_closeOutOfSync s e)
  | lastWrite =>
    have hmark : Unreported s (s.emit (.lastWriteDispatched e)) := ⟨rfl, rfl⟩
    exact .inl (hmark.trans (unreported_processLastWriteToPriorChannelEvent env _ e))
  | safeToClose => exact processSafeToClosePriorChannelEvent_reported env s e
  | refused _ hr => exact .inl (hr.unreported.trans (unreported_runUpgradeFailedProtocol ..))
  | @takenUp _ _ v _ ht =>
    have hentered : Unreported v (v.enterInProgress e) := ⟨rfl, rfl⟩
    exact .inl ((ht.unreported.trans hentered).trans (unreported_runUpgradeProtocol ..))
  | failure _ _ hst =>
    have hleft : Unreported s (s.leaveInProgress e) := ⟨rfl, rfl⟩
    exact .inl (hleft.trans (processUpgradeFailureEvent_moves hst).unreported)

theorem Step.reported {op : Op} (hst : Step env s op t) :
    Unreported s t ∨ ∃ e prev c, Completed env s e prev c t := by
  obtain ⟨fuel, hst⟩ := hst
  cases op with
  | initiateBwuForEndpoint e m => exact .inl (initiateBwuForEndpoint_moves fuel hst).unreported
  | onIncomingFrame frame e => exact (onIncomingFrame_handled hst).reported.imp_right (⟨e, ·⟩)
  | onIncomingConnection c => cases hst; exact .inl (unreported_onIncomingConnection env s c)
  | fireRetryAlarm e => exact .inl (fireRetryAlarm_moves hst).unreported
  | onEndpointDisconnect u e => cases hst; exact .inl (unreported_onEndpointDisconnect s u e)
  | shutdown => cases hst; exact .inl (unreported_shutdown s)
  | _ => cases hst; exact .inl ⟨rfl, rfl⟩

/-- The client has recorded the reports of the trace, each once and in their order. -/
def Recorded (s : World) : Prop :=
  s.client.bandwidthChanged = (s.trace.filterMap Event.success).reverse

theorem Recorded.step {op : Op} (h : s.Recorded) (hst : Step env s op t) : t.Recorded := by
  rw [Recorded] at h
  rcases hst.reported with hu | ⟨e, prev, c, hc⟩
  · rw [Recorded, hu.client, hu.trace, h]
  · rw [Recorded, hc.recorded, hc.trace, h, ← List.reverse_cons]
    rfl

end

theorem Reachable.recorded {env : Env} {s : World} (h : Reachable env s) : s.Recorded :=
  ReachedBy.invariant Recorded (fun _ _ _ => rfl) (fun hs _ hst => hs.step hst) h

/-- `op` neither drops a parked channel nor puts another one in its place. -/
def KeepsParked (env : Env) (s : World) (op : Op) : Prop :=
  (op = .shutdown → ∀ e, s.previousEndpointChannels.lookup e = none) ∧
    ∀ e, s.previousEndpointChannels.lookup e ≠ none → s.getChannelForEndpoint e ≠ none →
      ¬ s.Swaps env e op

theorem kept {env : Env} {s : World} (h : ReachedBy env (KeepsParked env) s) : s.abs.Kept := by
  refine ReachedBy.lift Swap.State.Kept
    (fun u l => (∀ e c ok ok', l = .swap e c ok ok' → u.registered e ≠ none → u.parked e = none) ∧
      (l = .shutdown → ∀ e, u.parked e = none))
    (fun hu hl _ => hu.next hl.1 hl.2) ?_ (fun config mediums id => ?_) h
  · intro s op u l _ hok _ hocc
    refine ⟨?_, ?_⟩
    · rintro e c ok ok' rfl hr
      obtain ⟨hswap, ha⟩ := hocc.swaps
      rw [ha.registered] at hr
      rw [ha.parked]
      by_contra hp
      exact hok.2 e hp hr hswap
    · rintro rfl e
      cases hocc
      exact hok.1 rfl e
  · rw [abs_new]
    exact follows_nil _

theorem parked_until_closed {env : Env} {s : World} (h : ReachedBy env (KeepsParked env) s)
    {e : String} {c : ChannelId} {later earlier : List Event}
    (ht : s.trace = later ++ .parked e c :: earlier) :
    s.previousEndpointChannels.lookup e = some c ∨ ∃ x ∈ later, x.isClose c = true := by
  have habs : s.abs.trace =
      later.filterMap absEvent ++ .park e c :: earlier.filterMap absEvent := by
    simp [abs, ht, absEvent]
  rcases kept h _ _ _ habs e c rfl with hp | ⟨b, hb⟩
  · exact .inl hp
  · obtain ⟨x, hx, hxb⟩ := List.mem_filterMap.mp hb
    exact .inr ⟨x, hx, isClose_of_absEvent hxb⟩

theorem keepsParked_frame {env : Env} {frame : OfflineFrame} (s : World) (e : String)
    (hev : ∀ info, eventOf frame ≠ some (.upgradePathAvailable, some info)) :
    s.KeepsParked env (.onIncomingFrame frame e) := by
  constructor
  · intro hop
    cases hop
  · intro e' _ _ hs
    cases hs with
    | offer hf _ => exact hev _ hf

theorem parked_until_closed_in_upgrade :
    ∃ later earlier, (scenario upgrade).trace = later ++ .parked "E" 0 :: earlier ∧
      ((scenario upgrade).previousEndpointChannels.lookup "E" = some 0 ∨
        ∃ x ∈ later, x.isClose 0 = true) := by
  obtain ⟨later, earlier, ht⟩ := List.append_of_mem
    (show Event.parked "E" 0 ∈ (scenario upgrade).trace by decide)
  refine ⟨later, earlier, ht, parked_until_closed (scenario_reached _ fun i hi => ?_) ht⟩
  have hlast : i < 5 ∨ i = 5 ∨ i = 6 := by
    have hlen : i < 7 := hi
    omega
  rcases hlast with hi | rfl | rfl
  · -- Up to the socket nothing is parked.
    have hempty : ∀ i < 5, ((World.new {} [.wifiLan] "L").after reliable 3
        ((connect "E" 0 ++ upgrade).take i)).previousEndpointChannels.keys = [] := by decide
    have hnone : ∀ e, ((World.new {} [.wifiLan] "L").after reliable 3
        ((connect "E" 0 ++ upgrade).take i)).previousEndpointChannels.lookup e = none := by
      intro e
      rw [AList.lookup_eq_none, AList.mem_keys, hempty i hi]
      exact List.not_mem_nil
    exact ⟨fun _ => hnone, fun e hp => absurd (hnone e) hp⟩
  · refine keepsParked_frame _ "E" fun info hev => ?_
    cases eventOf_forBwuLastWrite.symm.trans hev
  · refine keepsParked_frame _ "E" fun info hev => ?_
    cases eventOf_forBwuSafeToClose.symm.trans hev

/-- `shutdown` forgets a parked channel without closing it, and so does a second socket
that arrives before the first exchange is over. -/
theorem parked_lost_open :
    ¬ ∀ s, Reachable reliable s → ∀ e c, .parked e c ∈ s.trace →
      (∃ e', s.previousEndpointChannels.lookup e' = some c) ∨
        ∃ x ∈ s.trace, x.isClose c = true := by
  intro h
  rcases h (scenario (upgrade.take 2 ++ [.shutdown])) (scenario_reachable _) "E" 0 (by decide)
    with ⟨e', he'⟩ | hx
  · have hnone : (scenario (upgrade.take 2 ++ [.shutdown])).previousEndpointChannels = ∅ := rfl
    simp [hnone] at he'
  · revert hx
    decide

end World

end Nearby.Bwu
