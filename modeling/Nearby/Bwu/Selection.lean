import Nearby.Bwu.Abandonment

/-! What follows a failed upgrade: which part of the preference list decides, and that a failure
noticed here and one reported by the peer come to the same. -/

namespace Nearby.Bwu

open Proto Lib

namespace World

instance (s : World) : Decidable s.KeepsMedium := inferInstanceAs (Decidable (_ ∧ _))

instance (env : Env) (s : World) (e : String) (m : Medium) : Decidable (s.InitiatePasses env e m) :=
  inferInstanceAs (Decidable (_ ∧ _))

/-! ### A failure the peer reports -/

structure GivenUp (s : World) (e : String) (v : World) : Prop where
  idle : e ∉ v.inProgressUpgrades
  unset : v.getBwuMediumForEndpoint e = .unknownMedium
  alarms : v.retryUpgradeAlarms = s.retryUpgradeAlarms
  delays : v.retryDelays = s.retryDelays
  calls : Adds Event.Reverts s.trace v.trace

def Schedules (v : World) (e : String) (r : Except Abort World) : Prop :=
  r = v.retryUpgradesAfterDelay e ∧ ∀ delay, v.calculateNextRetryDelay e = some delay →
    ∃ t, r = .ok t ∧ t.retryUpgradeAlarms.lookup e = some delay ∧
      t.trace = .retryScheduled e delay :: v.trace

theorem abandoned_delays (env : Env) (s : World) (e : String) :
    (s.abandoned env e).retryDelays = s.retryDelays := by
  rw [abandoned]
  split
  case isTrue => rw [revertBwuMediumForEndpoint_frame]; rfl
  case isFalse => rfl

theorem givenUp_abandoned (env : Env) (s : World) (e : String) :
    s.GivenUp e (s.abandoned env e) where
  idle := not_mem_abandoned env s e
  unset := getBwuMediumForEndpoint_abandoned env s e
  alarms := abandoned_alarms env s e
  delays := abandoned_delays env s e
  calls := reverts_abandoned env s e

theorem schedules_retryUpgradesAfterDelay (v : World) (e : String) :
    v.Schedules e (v.retryUpgradesAfterDelay e) := by
  refine ⟨rfl, fun delay hdelay => ?_⟩
  rw [retryUpgradesAfterDelay, hdelay]
  exact ⟨_, rfl, AList.lookup_insert _, rfl⟩

theorem keepsMedium_iff (s : World) : s.KeepsMedium ↔
    ¬ (s.config.supportMultipleBwuMediums = true ∨ s.getConnectedEndpointsCount ≤ 1) := by
  rw [KeepsMedium, not_or, gt_iff_lt, not_le]

/-- The selection after an UPGRADE_FAILURE, by the medium `e` is on and the first usable medium
of the untried tail. -/
theorem next_best_selection {env : Env} {s : World} {e : String} {c : ChannelId}
    {frame : OfflineFrame} {info : UpgradePathInfo} (fuel : Nat)
    (hswitch : s.config.supportMultipleBwuMediums = true ∨ s.getConnectedEndpointsCount ≤ 1)
    (hconn : s.client.isConnectedToEndpoint e = true) (hc : s.getChannelForEndpoint e = some c)
    (hev : eventOf frame = some (.upgradeFailure, some info)) :
    dropTried (upiMedium info) (s.client.getUpgradeMediums e) (s.client.getUpgradeMediums e) =
        some (untriedAfter (upiMedium info) (s.client.getUpgradeMediums e)) ∧
      ∃ v, s.GivenUp e v ∧
        (env.medium c ≠ .wifiLan →
          (s.nextTried e (upiMedium info) = none ∨
              s.nextTried e (upiMedium info) = some (env.medium c) →
            v.Schedules e (s.onIncomingFrame env fuel frame e)) ∧
          ∀ n, s.nextTried e (upiMedium info) = some n → n ≠ env.medium c →
            s.onIncomingFrame env fuel frame e =
              (v.setBwuMediumForEndpoint e n).initiateBwuForEndpoint env fuel e n) ∧
        (env.medium c = .wifiLan →
          (∀ n, s.nextTried e (upiMedium info) = some n →
            s.onIncomingFrame env fuel frame e =
              (v.setBwuMediumForEndpoint e n).initiateBwuForEndpoint env fuel e n) ∧
          (s.nextTried e (upiMedium info) = none →
            s.onIncomingFrame env fuel frame e = .ok v)) := by
  have hk : ¬ s.KeepsMedium := fun hk => (keepsMedium_iff s).mp hk hswitch
  have hcur : s.currentMedium env e = env.medium c := by
    rw [currentMedium, hc]
    rfl
  have hschedules := schedules_retryUpgradesAfterDelay (s.abandoned env e) e
  refine ⟨dropTried_self _ _, s.abandoned env e, givenUp_abandoned env s e, ?_⟩
  rw [onIncomingFrame_failure fuel hconn hev, processUpgradeFailureEvent_eq hk, hcur]
  refine ⟨fun hlan => ⟨?_, ?_⟩, fun hlan => ⟨?_, ?_⟩⟩
  · rintro (hnone | hsame)
    · rw [hnone]
      dsimp only
      rwa [if_neg hlan]
    · rw [hsame]
      dsimp only
      rwa [if_pos ⟨rfl, hlan⟩]
  · intro n hn hne
    rw [hn]
    exact if_neg fun h => hne h.1.symm
  · intro n hn
    rw [hn]
    exact if_neg fun h => h.2 (h.1.symm.trans hlan)
  · intro hnone
    rw [hnone]
    exact if_pos hlan

theorem next_best_selection_hotspot :
    ∃ v, bluetoothOnly.GivenUp "X" v ∧
      bluetoothOnly.onIncomingFrame reliable 3 (forBwuFailure lanPath) "X" =
        (v.setBwuMediumForEndpoint "X" .wifiHotspot).initiateBwuForEndpoint reliable 3 "X"
          .wifiHotspot := by
  have hconn : bluetoothOnly.client.isConnectedToEndpoint "X" = true := by decide
  have hc : bluetoothOnly.getChannelForEndpoint "X" = some 3 := by decide
  obtain ⟨-, v, hv, hselect, -⟩ := @next_best_selection reliable bluetoothOnly "X" 3 _ _ 3
    (.inl (by decide)) hconn hc (eventOf_forBwuFailure lanPath)
  exact ⟨v, hv, (hselect (by decide)).2 _ (by decide) (by decide)⟩

/-! ### A failure noticed here -/

inductive Decision : Type
  | keep
  | attempt (n : Medium)
  | retry
  | rest
  deriving DecidableEq

def decision (env : Env) (s : World) (e : String) (last : Medium) : Decision :=
  if s.KeepsMedium then .keep
  else
    match s.nextTried e last with
    | none => if s.currentMedium env e = .wifiLan then .rest else .retry
    | some n => if s.currentMedium env e = n ∧ n ≠ .wifiLan then .retry else .attempt n

/-- The decision is put into effect; `start` is the next request. -/
def Decision.carryOut (env : Env) (start : World → String → Medium → Except Abort World) (v : World)
    (e : String) : Decision → Except Abort World
  | .keep => .ok (v.leaveInProgress e)
  | .attempt n => start ((v.abandoned env e).setBwuMediumForEndpoint e n) e n
  | .retry => (v.abandoned env e).retryUpgradesAfterDelay e
  | .rest => .ok (v.abandoned env e)

section

variable {env : Env} {s v : World} {e : String} {m : Medium}

theorem processUpgradeFailureEvent_decision (env : Env)
    (start : World → String → Medium → Except Abort World) (v : World) (e : String)
    (info : UpgradePathInfo) : v.processUpgradeFailureEvent env start e info =
      (v.decision env e (upiMedium info)).carryOut env start v e := by
  rw [decision]
  split
  case isTrue hk => exact if_pos hk
  case isFalse hk =>
    rw [processUpgradeFailureEvent_eq hk]
    cases v.nextTried e (upiMedium info) with
    | none =>
      dsimp only
      split <;> rfl
    | some n =>
      dsimp only
      split <;> rfl

theorem SameBearings.decision (h : SameBearings s v) (env : Env) (e : String) (last : Medium) :
    v.decision env e last = s.decision env e last := by
  have hk : v.KeepsMedium ↔ s.KeepsMedium := h.keepsMedium
  simp only [World.decision, hk, h.nextTried, h.currentMedium]

/-- The request fails before any offer is out, and the list decides as after `last`. -/
def DecidesAfter (env : Env) (s : World) (e : String) (m : Medium) (v : World) (last : Medium) :
    Prop :=
  ∀ start, s.initiateBody env (fun w => w.processUpgradeFailureEvent env start) e m =
    (s.decision env e last).carryOut env start v e

theorem FailedIn.decidesAfter (h : FailedIn env s e m v) :
    s.DecidesAfter env e m v (reported m) := by
  intro start
  rw [h.failure, processUpgradeFailureEvent_decision, h.sameBearings.decision]
  rfl

theorem decision_eq_or (env : Env) (s : World) (e : String) (last : Medium) :
    (s.decision env e last = if s.KeepsMedium then .keep
      else if s.currentMedium env e = .wifiLan then .rest else .retry) ∨
    ∃ n, s.decision env e last = .attempt n := by
  rw [decision]
  split
  case isTrue => exact .inl rfl
  case isFalse =>
    cases s.nextTried e last with
    | none => exact .inl rfl
    | some n =>
      dsimp only
      split
      case isTrue hcur => exact .inl (by rw [hcur.1, if_neg hcur.2])
      case isFalse => exact .inr ⟨n, rfl⟩

theorem Decision.carryOut_ne_outOfFuel {d : Decision} (hd : ∀ n, d ≠ .attempt n)
    (start : World → String → Medium → Except Abort World) :
    d.carryOut env start v e ≠ .error .outOfFuel := by
  cases d with
  | keep | rest => exact nofun
  | attempt n => exact absurd rfl (hd n)
  | retry => exact retry_ne_outOfFuel _ e

theorem decision_eq_of_carryOut {last last' : Medium}
    (h : ∀ start, (s.decision env e last).carryOut env start v e =
      (s.decision env e last').carryOut env start v e) :
    s.decision env e last = s.decision env e last' := by
  have hidle {x y : Medium} {n : Medium} (hx : s.decision env e x = .attempt n)
      (hxy : ∀ start, (s.decision env e x).carryOut env start v e =
        (s.decision env e y).carryOut env start v e) : ∃ n', s.decision env e y = .attempt n' := by
    by_contra hno
    have hstart := hxy fun _ _ _ => .error .outOfFuel
    rw [hx] at hstart
    exact Decision.carryOut_ne_outOfFuel (not_exists.mp hno) _ hstart.symm
  rcases decision_eq_or env s e last with hlast | ⟨n, hn⟩
  · rcases decision_eq_or env s e last' with hlast' | ⟨n, hn⟩
    · rw [hlast, hlast']
    · obtain ⟨n', hn'⟩ := hidle hn fun start => (h start).symm
      rw [hn'] at hlast
      split at hlast
      case isTrue => cases hlast
      case isFalse => split at hlast <;> cases hlast
  · obtain ⟨n', hn'⟩ := hidle hn h
    have hstart := h fun _ _ x => if x = n then .error .outOfFuel else .error .panic
    rw [hn, hn'] at hstart ⊢
    simp only [Decision.carryOut, if_true] at hstart
    split at hstart
    case isTrue hsame => rw [hsame]
    case isFalse => cases hstart

end

/-- A request that fails here goes on as after an UPGRADE_FAILURE for the same medium, but for BLE
L2CAP, which a path info cannot name: there it goes on as after one for the unknown medium. -/
theorem local_failure_decides_iff {env : Env} {s v : World} {e : String} {m : Medium}
    (h : FailedIn env s e m v) :
    (s.DecidesAfter env e m v m ∧ ∀ info, upiMedium info = m → ∀ start,
      s.initiateBody env (fun w => w.processUpgradeFailureEvent env start) e m =
        v.processUpgradeFailureEvent env start e info) ↔
    (m = .bleL2cap → s.decision env e .bleL2cap = s.decision env e .unknownMedium) := by
  have hreported := h.decidesAfter
  constructor
  · rintro ⟨hdecides, -⟩ rfl
    exact decision_eq_of_carryOut fun start => (hdecides start).symm.trans (hreported start)
  · intro hble
    have hsame : s.decision env e (reported m) = s.decision env e m := by
      by_cases hm : m = .bleL2cap
      · rw [hm]
        exact (hble hm).symm
      · rw [reported_eq hm]
    refine ⟨fun start => ?_, fun info hinfo start => ?_⟩
    · rw [hreported start, hsame]
    · rw [hreported start, hsame, processUpgradeFailureEvent_decision, h.sameBearings.decision,
        hinfo]

def withoutOffers (mediums : List Medium) : World :=
  (World.new {} mediums "L").after unable 3 (connect "E" 0 ++ [.setUpgradeMediums "E" mediums])

theorem failedIn_withoutOffers {m : Medium} {mediums : List Medium}
    (hp : (withoutOffers mediums).InitiatePasses unable "E" m)
    (hc : (withoutOffers mediums).getChannelForEndpoint "E" = some 0) :
    FailedIn unable (withoutOffers mediums) "E" m
      ((withoutOffers mediums).asked unable "E" m 0).2 :=
  .unanswered hp hc (asked_eq_nil (fun _ _ _ _ => rfl) 0)

theorem local_failure_decides_iff_lan :
    ∃ v, FailedIn unable (withoutOffers [.wifiLan, .wifiHotspot]) "E" .wifiLan v ∧
      (withoutOffers [.wifiLan, .wifiHotspot]).DecidesAfter unable "E" .wifiLan v .wifiLan := by
  have hfailed : FailedIn unable (withoutOffers [.wifiLan, .wifiHotspot]) "E" .wifiLan _ :=
    failedIn_withoutOffers (by decide) (by decide)
  exact ⟨_, hfailed, ((local_failure_decides_iff hfailed).mpr (by decide)).1⟩

/-- After BLE L2CAP comes WiFi LAN, but nobody tries it: a retry is scheduled. -/
theorem local_failure_of_l2cap :
    Reachable unable (withoutOffers [.bleL2cap, .wifiLan]) ∧
      (∃ v, FailedIn unable (withoutOffers [.bleL2cap, .wifiLan]) "E" .bleL2cap v ∧
        ¬ (withoutOffers [.bleL2cap, .wifiLan]).DecidesAfter unable "E" .bleL2cap v .bleL2cap) ∧
      (withoutOffers [.bleL2cap, .wifiLan]).decision unable "E" .bleL2cap = .attempt .wifiLan ∧
      ∃ t, Step unable (withoutOffers [.bleL2cap, .wifiLan])
          (.initiateBwuForEndpoint "E" .bleL2cap) t ∧
        .initiate "E" .wifiLan ∉ t.trace ∧ "E" ∈ t.retryUpgradeAlarms := by
  have hfailed : FailedIn unable (withoutOffers [.bleL2cap, .wifiLan]) "E" .bleL2cap _ :=
    failedIn_withoutOffers (by decide) (by decide)
  refine ⟨reachable_after _ _ _ _ _, ⟨_, hfailed, fun hdecides => ?_⟩, by decide, _, ⟨3, rfl⟩,
    ?_, ?_⟩
  · have hsame := decision_eq_of_carryOut fun start =>
      (hdecides start).symm.trans (hfailed.decidesAfter start)
    revert hsame
    decide
  · decide
  · decide

end World

end Nearby.Bwu
