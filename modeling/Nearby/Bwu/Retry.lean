import Nearby.Bwu.Dispatch
import Nearby.Bwu.Isolation

/-! A pending retry and a running upgrade.  A request and a socket cancel the retry they make
needless; an offer that is taken up leaves it pending. -/

namespace Nearby.Bwu

open Proto Lib

namespace World

/-- `e` is not upgrading and waiting to retry at once. -/
def Exclusive (e : String) (s : World) : Prop :=
  e ∈ s.inProgressUpgrades → e ∉ s.retryUpgradeAlarms

/-- The frame is an offer, and it is taken up while a retry is pending for its sender. -/
inductive TakesUpRetrying (env : Env) (s : World) : Op → Prop
  | offer {frame : OfflineFrame} {e : String} {info : UpgradePathInfo} {c : ChannelId} {v : World} :
      eventOf frame = some (.upgradePathAvailable, some info) → TakenUp env s e info c v →
      e ∈ s.retryUpgradeAlarms → TakesUpRetrying env s (.onIncomingFrame frame e)

section

variable {env : Env} {s t : World} {e : String} {m : Medium} {c : ChannelId}

/-! ### What the chain does to the retry -/

theorem prepared_alarms (s : World) (e : String) (m : Medium) :
    (s.prepared e m).retryUpgradeAlarms = s.retryUpgradeAlarms.erase e := by
  rw [prepared, setBwuMediumForEndpoint_frame]
  rfl

theorem offered_alarms (env : Env) (s : World) (e : String) (m : Medium) (c : ChannelId) :
    (s.offered env e m c).2.retryUpgradeAlarms = s.retryUpgradeAlarms.erase e := by
  have h : (s.offered env e m c).2.retryUpgradeAlarms = (s.asked env e m c).2.retryUpgradeAlarms :=
    rfl
  rw [h, asked, initializeUpgradedMediumForEndpoint_frame]
  exact prepared_alarms s e m

theorem retryUpgradesAfterDelay_inProgress (h : s.retryUpgradesAfterDelay e = .ok t) :
    t.inProgressUpgrades = s.inProgressUpgrades := by
  obtain ⟨_, rfl⟩ := retryUpgradesAfterDelay_ok h
  rfl

theorem Exclusive.turnedAway (h : s.Exclusive e) (ht : TurnedAway env s e m t) : t.Exclusive e := by
  cases ht with
  | barred => exact h
  | refused =>
    rw [setBwuMediumForEndpoint_frame]
    exact h
  | needless =>
    intro _
    rw [prepared_alarms]
    exact HashMap.not_mem_erase _ e

theorem chain_exclusive (env : Env) (e : String) :
    Chain env e (fun s _ => s.Exclusive e) (fun _ => True) (fun s => e ∉ s.inProgressUpgrades)
      (fun s => s.Exclusive e) where
  turnedAway := Exclusive.turnedAway
  unanswered _ _ _ _ := trivial
  unwritten _ _ _ _ := trivial
  entered := by
    intro s m c _ _ _ _ _ _
    change e ∉ (s.offered env e m c).2.retryUpgradeAlarms
    rw [offered_alarms]
    exact HashMap.not_mem_erase _ e
  kept _ _ hin := absurd hin (HashMap.not_mem_erase _ e)
  abandoned _ _ := not_mem_abandoned env _ e
  scheduled hs _ ht hin := absurd (retryUpgradesAfterDelay_inProgress ht ▸ hin) hs
  settled hs hin := absurd hin hs
  next := by
    intro s mediums hs _ hin
    rw [setBwuMediumForEndpoint_inProgress] at hin
    exact absurd hin hs

/-! ### Frames and sockets -/

theorem Exclusive.aside (h : s.Exclusive e) (ha : Aside s t) : t.Exclusive e := by
  intro hin
  rw [ha.alarms]
  exact h (ha.inProgress hin)

theorem Exclusive.adopted (h : s.Exclusive e) (m : Medium) : (s.adopted e m).Exclusive e := by
  rw [adopted_frame]
  exact h

theorem Exclusive.told {info : UpgradePathInfo} (h : s.Exclusive e) :
    (s.runUpgradeFailedProtocol env e info).Exclusive e := by
  have ht := runUpgradeFailedProtocol_told env s e info
  generalize s.runUpgradeFailedProtocol env e info = t at ht
  cases ht with
  | unregistered => exact h
  | unwritten => exact h
  | reverted | mediumless =>
    exact fun hin => absurd hin (HashMap.not_mem_erase _ e)

theorem Exclusive.dispatched {fuel : Nat} {frame : OfflineFrame} (h : s.Exclusive e)
    (hok : ¬ s.TakesUpRetrying env (.onIncomingFrame frame e))
    (hd : Dispatched env fuel s frame e t) : t.Exclusive e := by
  cases hd with
  | aside ha => exact h.aside ha
  | refused _ hr =>
    rcases hr.aside.2 with ha | ⟨-, ha⟩
    · exact (h.aside ha).told
    · exact ((h.adopted _).aside ha).told
  | @takenUp info c v hev ht =>
    have hv : v.retryUpgradeAlarms = s.retryUpgradeAlarms := by
      rw [ht.aside.2.alarms, adopted_frame]
    have hrun := aside_runUpgradeProtocol env (v.enterInProgress e) e c
      (!info.supportsDisablingEncryption.getD false)
    intro _ hpending
    rw [hrun.alarms] at hpending
    exact hok (.offer hev ht (hv ▸ hpending))
  | failure _ _ hst => exact (chain_exclusive env e).onFailure fuel trivial hst

theorem processLastWriteToPriorChannelEvent_inProgress (env : Env) (s : World) (e : String) :
    (s.processLastWriteToPriorChannelEvent env e).inProgressUpgrades = s.inProgressUpgrades := by
  rw [processLastWriteToPriorChannelEvent]
  split
  case h_1 => rfl
  case h_2 =>
    dsimp only
    split <;> rfl

theorem runUpgradeProtocol_inProgress (env : Env) (s : World) (e : String) (c : ChannelId)
    (b : Bool) : (s.runUpgradeProtocol env e c b).inProgressUpgrades = s.inProgressUpgrades := by
  simp only [runUpgradeProtocol]
  split
  case h_1 => rfl
  case h_2 =>
    split
    case isTrue => rfl
    case isFalse =>
      split
      case isTrue => rw [processLastWriteToPriorChannelEvent_inProgress]; rfl
      case isFalse => rfl

theorem TakesUpRetrying.breaks {op : Op} (h : s.TakesUpRetrying env op) (hst : Step env s op t) :
    ∃ e, e ∈ t.inProgressUpgrades ∧ e ∈ t.retryUpgradeAlarms := by
  obtain ⟨fuel, hst⟩ := hst
  cases h with
  | @offer frame e info c v hev ht hpending =>
    have hv : v.retryUpgradeAlarms = s.retryUpgradeAlarms := by
      rw [ht.aside.2.alarms, adopted_frame]
    cases (onIncomingFrame_takenUp fuel hev ht).symm.trans hst
    refine ⟨e, ?_, ?_⟩
    · rw [runUpgradeProtocol_inProgress]
      exact (AList.mem_insert _).mpr (.inl rfl)
    · rw [(aside_runUpgradeProtocol ..).alarms]
      exact hv ▸ hpending

/-! ### Runs -/

theorem Exclusive.step {op : Op} (h : s.Exclusive e) (hok : ¬ s.TakesUpRetrying env op)
    (hst : Step env s op t) : t.Exclusive e := by
  by_cases htouch : s.Touches env e op
  case neg =>
    have hu := hst.untouched htouch
    intro hin hpending
    obtain ⟨d, hd⟩ := HashMap.lookup_of_mem hpending
    exact h (hu.inProgress.mp hin) (HashMap.mem_of_lookup (hu.alarm ▸ hd))
  case pos =>
    obtain ⟨fuel, hst⟩ := hst
    cases htouch with
    | addressed hop =>
      cases hop with
      | initiateBwuForEndpoint m => exact (chain_exclusive env e).initiate fuel h hst
      | onIncomingFrame frame => exact h.dispatched hok (onIncomingFrame_dispatched hst)
      | fireRetryAlarm =>
        by_cases hpending : e ∈ s.retryUpgradeAlarms
        · exact (chain_exclusive env e).fireRetryAlarm (fun hn => absurd hpending hn)
            (fun hin => h hin hpending) hst
        · simp only [World.apply, World.fireRetryAlarm, if_pos hpending] at hst
          cases hst
          exact h
      | resetUpgradeForEndpoint =>
        cases hst
        exact h.aside (aside_leaveInProgress s e)
      | onEndpointDisconnect u =>
        cases hst
        intro hin
        have habs : e ∈ (s.onEndpointDisconnect u e).abs.inProgress := hin
        rw [abs_onEndpointDisconnect] at habs
        exact absurd rfl habs.2
    | socket hc =>
      cases hst
      rcases onIncomingConnection_aside env s _ with ha | ⟨e', -, ha⟩
      · exact h.aside ha
      · refine Exclusive.aside (s := s.cancelRetryUpgradeAlarm e') ?_ ha
        exact fun hin hpending => h hin (AList.mem_erase.mp hpending).2
    | shutdown =>
      cases hst
      exact fun hin => absurd hin (AList.notMem_empty e)
    | register c =>
      cases hst
      exact h
    | unregister =>
      cases hst
      exact h

end

/-- While no offer is taken up over a pending retry, no endpoint upgrades and waits to retry
at once; such an offer is the only step that makes one do so. -/
theorem retry_excludes_upgrade {env : Env} {s : World}
    (h : ReachedBy env (fun s op => ¬ s.TakesUpRetrying env op) s) :
    (∀ e, e ∈ s.inProgressUpgrades → e ∉ s.retryUpgradeAlarms) ∧
      ∀ op t, Step env s op t → (s.TakesUpRetrying env op ↔
        ∃ e, e ∈ t.inProgressUpgrades ∧ e ∈ t.retryUpgradeAlarms) := by
  have hinv : ∀ e, s.Exclusive e := by
    refine h.invariant (fun s => ∀ e, s.Exclusive e) ?_ fun hs hok hst e => (hs e).step hok hst
    exact fun config mediums id e hin => absurd hin (AList.notMem_empty e)
  refine ⟨hinv, fun op t hst => ⟨fun hop => hop.breaks hst, ?_⟩⟩
  rintro ⟨e, hin, hpending⟩
  by_contra hok
  exact (hinv e).step hok hst hin hpending

def failedThenRequested : List Op :=
  [.onIncomingFrame (forBwuFailure lanPath) "E", .initiateBwuForEndpoint "E" .wifiLan]

theorem retry_excludes_upgrade_on_request :
    "E" ∈ (scenario failedThenRequested).inProgressUpgrades ∧
      "E" ∉ (scenario failedThenRequested).retryUpgradeAlarms := by
  have hin : "E" ∈ (scenario failedThenRequested).inProgressUpgrades := by decide
  refine ⟨hin, (@retry_excludes_upgrade reliable _ ?_).1 "E" hin⟩
  apply scenario_reached
  intro i hi hop
  have hmem := List.getElem_mem hi
  generalize (connect "E" 0 ++ failedThenRequested)[i] = op at hmem hop
  cases hop with
  | offer hev =>
    simp only [connect, failedThenRequested, List.cons_append, List.nil_append, List.mem_cons,
      reduceCtorEq, Op.onIncomingFrame.injEq, List.not_mem_nil, or_false, false_or] at hmem
    rw [hmem.1, eventOf_forBwuFailure] at hev
    cases hev

def failedThenOffered : List Op :=
  [.onIncomingFrame (forBwuFailure lanPath) "E",
    .onIncomingFrame (bwuUpgradePathAvailable lanPath) "E"]

theorem retry_pending_during_upgrade :
    World.ReachedBy reliable (fun _ op => op.Validated) (scenario failedThenOffered) ∧
      "E" ∈ (scenario failedThenOffered).inProgressUpgrades ∧
      "E" ∈ (scenario failedThenOffered).retryUpgradeAlarms := by
  refine ⟨scenario_validated _ ?_, ?_, ?_⟩ <;> decide

end World

end Nearby.Bwu
