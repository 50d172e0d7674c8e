import Nearby.Bwu.Negotiation
import Nearby.Lib.Fuel
import Nearby.Lib.Trace

/-! The failure chain round by round: a request that fails falls back on the next medium of the
list, and whether that comes to an end depends on the list alone. -/

namespace Nearby.Bwu

open Proto Lib Relation

instance : Fintype Medium :=
  .ofList [.unknownMedium, .mdns, .bluetooth, .wifiHotspot, .ble, .wifiLan, .wifiAware, .nfc,
    .wifiDirect, .webRtc, .bleL2cap, .usb, .webRtcNonCellular, .awdl] fun m => by cases m <;> decide

def Event.initializes (m : Medium) : Event → Bool
  | .handleInitialize m' _ _ _ => m' = m
  | _ => false

def Event.Reverts : Event → Prop
  | .revertInitiatorState _ => True
  | .handleRevert _ _ => True
  | _ => False

namespace World

/-! ### The next medium -/

def untriedAfter (last : Medium) (mediums : List Medium) : List Medium :=
  (mediums.dropWhile (· ≠ last)).tail

theorem untriedAfter_cons (last m : Medium) (mediums : List Medium) :
    untriedAfter last (m :: mediums) =
      if m = last then mediums else untriedAfter last mediums := by
  rw [untriedAfter]
  split
  case isTrue hm => simp [hm]
  case isFalse hm => rw [List.dropWhile_cons_of_pos (by simpa using hm), untriedAfter]

theorem dropTried_self (last : Medium) (mediums : List Medium) :
    dropTried last mediums mediums = some (untriedAfter last mediums) := by
  induction mediums with
  | nil => rfl
  | cons m mediums ih =>
    rw [dropTried, untriedAfter_cons, ih]
    split <;> rfl

def nextTried (s : World) (e : String) (last : Medium) : Option Medium :=
  (untriedAfter last (s.client.getUpgradeMediums e)).find? s.hasHandlerForMedium

/-- The medium under which a failure to upgrade to `m` is taken up: BLE L2CAP has no number. -/
def reported (m : Medium) : Medium := upiMedium (upgradePathInfoForMedium m)

/-- Only an upgrade in progress would keep a request for `m` from the handler. -/
def Eligible (env : Env) (s : World) (e : String) (m : Medium) : Prop :=
  ¬ (s.isWifiLanConnected env ∧ m = .wifiHotspot) ∧ s.hasHandlerForMedium m = true ∧
    m ≠ s.currentMedium env e ∧ s.getChannelForEndpoint e ≠ none

/-- Where upgrading `e` to `m` fails, `n` comes next. -/
def Tries (env : Env) (s : World) (e : String) (m n : Medium) : Prop :=
  s.Eligible env e m ∧ ¬ s.KeepsMedium ∧ s.nextTried e (reported m) = some n

/-- Some medium comes again after itself. -/
def Circles (env : Env) (s : World) (e : String) : Prop :=
  ∃ m, TransGen (s.Tries env e) m m

/-! ### What the choice depends on -/

structure SameBearings (s t : World) : Prop where
  config : t.config = s.config
  ecm : t.ecm = s.ecm
  client : t.client = s.client
  handlers : ∀ m, t.hasHandlerForMedium m = s.hasHandlerForMedium m

section

variable {env : Env} {s t v : World} {e : String} {m n : Medium} {c : ChannelId}

theorem SameBearings.refl (s : World) : SameBearings s s := ⟨rfl, rfl, rfl, fun _ => rfl⟩

theorem SameBearings.trans (h : SameBearings s t) (h' : SameBearings t v) : SameBearings s v where
  config := h'.config.trans h.config
  ecm := h'.ecm.trans h.ecm
  client := h'.client.trans h.client
  handlers m := (h'.handlers m).trans (h.handlers m)

theorem SameBearings.currentMedium (h : SameBearings s t) (env : Env) (e : String) :
    t.currentMedium env e = s.currentMedium env e :=
  currentMedium_congr env h.ecm e

theorem SameBearings.keepsMedium (h : SameBearings s t) : t.KeepsMedium ↔ s.KeepsMedium :=
  ⟨fun hk => hk.congr h.config.symm h.ecm.symm, fun hk => hk.congr h.config h.ecm⟩

theorem SameBearings.nextTried (h : SameBearings s t) (e : String) (last : Medium) :
    t.nextTried e last = s.nextTried e last := by
  have hhas : t.hasHandlerForMedium = s.hasHandlerForMedium := funext h.handlers
  rw [World.nextTried, World.nextTried, h.client, hhas]

theorem SameBearings.eligible (h : SameBearings s t) (env : Env) (e : String) (m : Medium) :
    t.Eligible env e m ↔ s.Eligible env e m := by
  rw [Eligible, Eligible, isWifiLanConnected_congr env h.ecm, h.handlers, h.currentMedium,
    getChannelForEndpoint_congr h.ecm]

theorem SameBearings.tries (h : SameBearings s t) (env : Env) (e : String) :
    t.Tries env e = s.Tries env e := by
  funext m n
  rw [Tries, Tries, h.eligible, h.keepsMedium, h.nextTried]

theorem sameBearings_setBwuMediumForEndpoint (s : World) (e : String) (m : Medium) :
    SameBearings s (s.setBwuMediumForEndpoint e m) := by
  rw [setBwuMediumForEndpoint_frame]
  exact ⟨rfl, rfl, rfl, fun _ => rfl⟩

theorem sameBearings_prepared (s : World) (e : String) (m : Medium) :
    SameBearings s (s.prepared e m) := by
  rw [prepared, setBwuMediumForEndpoint_frame]
  exact ⟨rfl, rfl, rfl, fun _ => rfl⟩

theorem hasHandlerForMedium_insert {h : BaseBwuHandler} (hm : m ∈ s.handlers)
    (ht : t.handlers = s.handlers.insert m h) (m' : Medium) :
    t.hasHandlerForMedium m' = s.hasHandlerForMedium m' := by
  have hmem : m' = m ∨ m' ∈ s.handlers ↔ m' ∈ s.handlers := or_iff_right_of_imp fun h => h ▸ hm
  simp only [hasHandlerForMedium, ht, AList.mem_insert, hmem]

theorem sameBearings_askHandler (env : Env) (s : World) (m : Medium) (u e : String) :
    SameBearings s (s.initializeUpgradedMediumForEndpoint env m u e).2 := by
  rw [initializeUpgradedMediumForEndpoint]
  split
  case h_1 => exact .refl s
  case h_2 h hl =>
    dsimp only
    split
    case isTrue => exact ⟨rfl, rfl, rfl, fun _ => rfl⟩
    case isFalse =>
      exact ⟨rfl, rfl, rfl, hasHandlerForMedium_insert (HashMap.mem_of_lookup hl) rfl⟩

theorem sameBearings_asked (env : Env) (s : World) (e : String) (m : Medium) (c : ChannelId) :
    SameBearings s (s.asked env e m c).2 :=
  (sameBearings_prepared s e m).trans (sameBearings_askHandler env _ m (env.serviceId c) e)

theorem sameBearings_offered (env : Env) (s : World) (e : String) (m : Medium) (c : ChannelId) :
    SameBearings s (s.offered env e m c).2 := by
  obtain ⟨hconfig, hecm, hclient, hhandlers⟩ := sameBearings_asked env s e m c
  exact ⟨hconfig, hecm, hclient, hhandlers⟩

theorem sameBearings_revertHandler (s : World) (m : Medium)
    (revert : BaseBwuHandler → List String × BaseBwuHandler) :
    SameBearings s (s.revertHandler m revert) := by
  rcases revertHandler_eq s m revert with h | ⟨hd, hl, h⟩
  · rw [h]
    exact .refl s
  · rw [h]
    exact ⟨rfl, rfl, rfl, hasHandlerForMedium_insert (HashMap.mem_of_lookup hl) rfl⟩

theorem sameBearings_revertBwuMediumForEndpoint (s : World) (u e : String) :
    SameBearings s (s.revertBwuMediumForEndpoint u e) :=
  revertBwuMediumForEndpoint_rule (R := SameBearings) SameBearings.trans
    (fun _ _ _ => ⟨rfl, rfl, rfl, fun _ => rfl⟩) (fun _ _ => ⟨rfl, rfl, rfl, fun _ => rfl⟩)
    sameBearings_revertHandler s u e

theorem sameBearings_abandoned (env : Env) (s : World) (e : String) :
    SameBearings s (s.abandoned env e) := by
  have hleave : SameBearings s (s.leaveInProgress e) := ⟨rfl, rfl, rfl, fun _ => rfl⟩
  rw [abandoned]
  split
  case isTrue => exact hleave.trans (sameBearings_revertBwuMediumForEndpoint _ _ e)
  case isFalse => exact hleave

/-! ### One round -/

inductive FailedIn (env : Env) (s : World) (e : String) (m : Medium) : World → Prop
  | unanswered {c : ChannelId} : s.InitiatePasses env e m → s.getChannelForEndpoint e = some c →
      (s.asked env e m c).1 = [] → FailedIn env s e m (s.asked env e m c).2
  | unwritten {c : ChannelId} : s.InitiatePasses env e m → s.getChannelForEndpoint e = some c →
      (s.asked env e m c).1 ≠ [] → ¬ (s.offered env e m c).1.ok →
      FailedIn env s e m (s.offered env e m c).2

inductive FallsBack (env : Env) (v : World) (e : String) (last : Medium) : World → Medium → Prop
  | next {n : Medium} : ¬ v.KeepsMedium → v.nextTried e last = some n →
      (v.currentMedium env e = n → n = .wifiLan) →
      FallsBack env v e last ((v.abandoned env e).setBwuMediumForEndpoint e n) n

inductive Settled (env : Env) (v : World) (e : String) : Except Abort World → Prop
  | kept : v.KeepsMedium → Settled env v e (.ok (v.leaveInProgress e))
  | content : ¬ v.KeepsMedium → v.currentMedium env e = .wifiLan →
      Settled env v e (.ok (v.abandoned env e))
  | scheduled : ¬ v.KeepsMedium → v.currentMedium env e ≠ .wifiLan →
      Settled env v e ((v.abandoned env e).retryUpgradesAfterDelay e)

def Attempt (env : Env) (e : String) (x y : World × Medium) : Prop :=
  ∃ v, FailedIn env x.1 e x.2 v ∧ FallsBack env v e (reported x.2) y.1 y.2

theorem initiatePasses_iff :
    s.InitiatePasses env e m ↔ s.Eligible env e m ∧ e ∉ s.inProgressUpgrades := by
  rw [InitiatePasses, Eligible]
  tauto

theorem chooseBestUpgradeMedium_of_unknown (h : s.getBwuMediumForEndpoint e = .unknownMedium)
    (mediums : List Medium) :
    s.chooseBestUpgradeMedium e mediums =
      (mediums.find? s.hasHandlerForMedium).getD .unknownMedium := by
  rw [chooseBestUpgradeMedium, h, stripOutUnavailableMediums, List.head?_filter]
  rfl

theorem getBwuMediumForEndpoint_abandoned (env : Env) (s : World) (e : String) :
    (s.abandoned env e).getBwuMediumForEndpoint e = .unknownMedium := by
  have hrevert : ∀ v u, (World.revertBwuMediumForEndpoint v u e).getBwuMediumForEndpoint e =
      .unknownMedium := by
    intro v u
    rw [getBwuMediumForEndpoint, (sameBearings_revertBwuMediumForEndpoint v u e).config]
    simp only [revertBwuMediumForEndpoint]
    cases v.config.supportMultipleBwuMediums with
    | true =>
      simp only [not_true_eq_false, if_false, if_true]
      split
      case isTrue => simp
      case isFalse =>
        split
        case isTrue =>
          split
          case isTrue => rw [revertHandler_frame]; simp
          case isFalse => simp
        case isFalse => rw [revertHandler_frame]; simp
    | false =>
      simp only [Bool.false_eq_true, not_false_eq_true, if_true, if_false]
      split
      case isTrue => rw [revertInitiatorState_frame]
      case isFalse => rfl
  rw [abandoned]
  split
  case isTrue => exact hrevert _ _
  case isFalse h => exact not_not.mp h

theorem tryNextBestUpgradeMediums_eq {start : World → String → Medium → Except Abort World}
    (h : s.getBwuMediumForEndpoint e = .unknownMedium) (mediums : List Medium) :
    s.tryNextBestUpgradeMediums env start e mediums =
      match mediums.find? s.hasHandlerForMedium with
      | none =>
        if s.currentMedium env e = .wifiLan then .ok s else s.retryUpgradesAfterDelay e
      | some n =>
        if s.currentMedium env e = n ∧ n ≠ .wifiLan then s.retryUpgradesAfterDelay e
        else start (s.setBwuMediumForEndpoint e n) e n := by
  simp only [tryNextBestUpgradeMediums, chooseBestUpgradeMedium_of_unknown h]
  cases hfind : mediums.find? s.hasHandlerForMedium with
  | none =>
    by_cases hlan : s.currentMedium env e = .wifiLan
    · simp [hlan, hasHandlerForMedium]
    · simp [hlan]
  | some n =>
    have hhas : s.hasHandlerForMedium n = true := List.find?_some hfind
    have hne : n ≠ .unknownMedium := (hasHandlerForMedium_iff.mp hhas).1
    have hmediums : mediums ≠ [] := fun hnil => by simp [hnil] at hfind
    simp only [Option.getD_some, hne, hmediums, or_false, hhas, not_true_eq_false, if_false]
    by_cases hcur : s.currentMedium env e = n
    · simp [hcur]
    · simp [hcur, Ne.symm hcur]

theorem processUpgradeFailureEvent_eq {start : World → String → Medium → Except Abort World}
    {info : UpgradePathInfo} (hk : ¬ s.KeepsMedium) :
    s.processUpgradeFailureEvent env start e info =
      match s.nextTried e (upiMedium info) with
      | none =>
        if s.currentMedium env e = .wifiLan then .ok (s.abandoned env e)
        else (s.abandoned env e).retryUpgradesAfterDelay e
      | some n =>
        if s.currentMedium env e = n ∧ n ≠ .wifiLan then
          (s.abandoned env e).retryUpgradesAfterDelay e
        else start ((s.abandoned env e).setBwuMediumForEndpoint e n) e n := by
  have hb := sameBearings_abandoned env s e
  have hnext := hb.nextTried e (upiMedium info)
  have htry : s.processUpgradeFailureEvent env start e info =
      (s.abandoned env e).tryNextBestUpgradeMediums env start e
        (untriedAfter (upiMedium info) ((s.abandoned env e).client.getUpgradeMediums e)) := by
    have hk' : ¬ (¬ (s.leaveInProgress e).config.supportMultipleBwuMediums ∧
        (s.leaveInProgress e).getConnectedEndpointsCount > 1) := hk
    simp only [processUpgradeFailureEvent]
    rw [if_neg hk']
    simp only [dropTried_self]
    rfl
  rw [htry, tryNextBestUpgradeMediums_eq (getBwuMediumForEndpoint_abandoned env s e),
    hb.currentMedium, ← hnext]
  rfl

theorem FallsBack.failure {start : World → String → Medium → Except Abort World} {w : World}
    {info : UpgradePathInfo} (h : FallsBack env v e (upiMedium info) w n) :
    v.processUpgradeFailureEvent env start e info = start w e n := by
  cases h with
  | next hk hnext hcur =>
    rw [processUpgradeFailureEvent_eq hk, hnext]
    exact if_neg fun hh => hh.2 (hcur hh.1)

theorem exists_settled (info : UpgradePathInfo)
    (h : ∀ w n, ¬ FallsBack env v e (upiMedium info) w n) :
    ∃ r, Settled env v e r ∧ ∀ start, v.processUpgradeFailureEvent env start e info = r := by
  by_cases hk : v.KeepsMedium
  case pos => exact ⟨_, .kept hk, fun start => if_pos hk⟩
  case neg =>
    simp only [processUpgradeFailureEvent_eq hk]
    cases hnext : v.nextTried e (upiMedium info) with
    | none =>
      by_cases hlan : v.currentMedium env e = .wifiLan
      · exact ⟨_, .content hk hlan, fun _ => if_pos hlan⟩
      · exact ⟨_, .scheduled hk hlan, fun _ => if_neg hlan⟩
    | some n =>
      by_cases hcur : v.currentMedium env e = n ∧ n ≠ .wifiLan
      · exact ⟨_, .scheduled hk (hcur.1 ▸ hcur.2), fun _ => if_pos hcur⟩
      · refine absurd (.next hk hnext fun hn => ?_) (h _ _)
        by_contra hlan
        exact hcur ⟨hn, hlan⟩

theorem retry_ne_outOfFuel (s : World) (e : String) :
    s.retryUpgradesAfterDelay e ≠ .error .outOfFuel := by
  rw [retryUpgradesAfterDelay]
  split <;> simp

theorem Settled.ne_outOfFuel {r : Except Abort World} (h : Settled env v e r) :
    r ≠ .error .outOfFuel := by
  cases h with
  | kept | content => exact nofun
  | scheduled => exact retry_ne_outOfFuel _ e

theorem FailedIn.failure {onFailure : World → String → UpgradePathInfo → Except Abort World}
    (h : FailedIn env s e m v) :
    initiateBody env onFailure s e m = onFailure v e (upgradePathInfoForMedium m) := by
  cases h with
  | unanswered hp hc hempty => rw [initiateBody_passes hp hc, if_pos hempty]
  | unwritten hp hc hbytes hlost => rw [initiateBody_passes hp hc, if_neg hbytes, if_pos hlost]

inductive Rests (env : Env) (s : World) (e : String) (m : Medium) : World → Prop
  | turnedAway {t : World} : ¬ s.InitiatePasses env e m → TurnedAway env s e m t →
      Rests env s e m t
  | entered {c : ChannelId} : s.InitiatePasses env e m → s.getChannelForEndpoint e = some c →
      (s.offered env e m c).1.ok = true →
      Rests env s e m ((s.offered env e m c).2.enterInProgress e)

theorem initiateBody_returns (hp : ¬ s.InitiatePasses env e m) :
    ∃ t, ∀ onFailure, initiateBody env onFailure s e m = .ok t := by
  simp only [initiateBody]
  by_cases hw : (s.emit (.initiate e m)).isWifiLanConnected env ∧ m = .wifiHotspot
  · exact ⟨_, fun _ => if_pos hw⟩
  simp only [if_neg hw]
  generalize hs₁ : (s.emit (.initiate e m)).setBwuMediumForEndpoint e m = s₁
  have hb : SameBearings s s₁ := by
    have hemit : SameBearings s (s.emit (.initiate e m)) := ⟨rfl, rfl, rfl, fun _ => rfl⟩
    rw [← hs₁]
    exact hemit.trans (sameBearings_setBwuMediumForEndpoint _ e m)
  by_cases hh : s₁.hasHandlerForMedium m = true
  case neg => exact ⟨_, fun _ => if_pos hh⟩
  by_cases hin : e ∈ s₁.inProgressUpgrades
  · simp only [hh, not_true_eq_false, if_false, if_pos hin]
    exact ⟨_, fun _ => rfl⟩
  by_cases hm : m = s₁.currentMedium env e
  · simp only [hh, not_true_eq_false, if_false, if_neg hin]
    exact ⟨_, fun _ => if_pos hm⟩
  cases hc : s₁.getChannelForEndpoint e with
  | none =>
    have hc' : (s₁.cancelRetryUpgradeAlarm e).getChannelForEndpoint e = none := hc
    simp only [hh, not_true_eq_false, if_false, if_neg hin, hc']
    exact ⟨_, fun _ => if_neg hm⟩
  | some c =>
    refine absurd (initiatePasses_iff.mpr ⟨(hb.eligible env e m).mp ⟨?_, hh, hm, ?_⟩, ?_⟩) hp
    · rw [isWifiLanConnected_congr env hb.ecm]
      exact hw
    · rw [hc]
      simp
    · rw [← hs₁, setBwuMediumForEndpoint_inProgress] at hin
      exact hin

theorem exists_turnedAway (hp : ¬ s.InitiatePasses env e m) :
    ∃ t, TurnedAway env s e m t ∧ ∀ onFailure, initiateBody env onFailure s e m = .ok t := by
  obtain ⟨t, ht⟩ := initiateBody_returns hp
  exact ⟨t, initiateBody_turnedAway hp (ht fun _ _ _ => .error .panic), ht⟩

theorem exists_rests (h : ∀ v, ¬ FailedIn env s e m v) :
    ∃ t, Rests env s e m t ∧ ∀ onFailure, initiateBody env onFailure s e m = .ok t := by
  by_cases hp : s.InitiatePasses env e m
  case neg =>
    obtain ⟨t, haway, ht⟩ := exists_turnedAway hp
    exact ⟨t, .turnedAway hp haway, ht⟩
  case pos =>
    obtain ⟨c, hc⟩ := Option.ne_none_iff_exists'.mp hp.2.2.2.2
    have hbytes : (s.asked env e m c).1 ≠ [] := fun hempty => h _ (.unanswered hp hc hempty)
    have hok : ¬ ¬ (s.offered env e m c).1.ok = true :=
      fun hlost => h _ (.unwritten hp hc hbytes hlost)
    refine ⟨_, .entered hp hc (not_not.mp hok), fun onFailure => ?_⟩
    rw [initiateBody_passes hp hc, if_neg hbytes, if_neg hok]

/-! ### The chain -/

inductive LastRound (env : Env) (e : String) (x : World × Medium) : Except Abort World → Prop
  | rests {t : World} : Rests env x.1 e x.2 t → LastRound env e x (.ok t)
  | settled {v : World} {r : Except Abort World} : FailedIn env x.1 e x.2 v → Settled env v e r →
      LastRound env e x r

theorem attempt_round {x y : World × Medium} (h : Attempt env e x y) (fuel : Nat) :
    x.1.initiateBwuForEndpoint env (fuel + 1) e x.2 =
      y.1.initiateBwuForEndpoint env fuel e y.2 := by
  obtain ⟨v, hfailed, hback⟩ := h
  rw [initiateBwuForEndpoint, hfailed.failure]
  exact hback.failure

theorem exists_lastRound {x : World × Medium} (h : ∀ y, ¬ Attempt env e x y) :
    ∃ r, LastRound env e x r ∧ ∀ fuel, x.1.initiateBwuForEndpoint env (fuel + 1) e x.2 = r := by
  by_cases hfailed : ∃ v, FailedIn env x.1 e x.2 v
  case pos =>
    obtain ⟨v, hfailed⟩ := hfailed
    obtain ⟨r, hr, hrun⟩ := exists_settled (upgradePathInfoForMedium x.2)
      fun w n hback => h (w, n) ⟨v, hfailed, hback⟩
    refine ⟨r, .settled hfailed hr, fun fuel => ?_⟩
    rw [initiateBwuForEndpoint, hfailed.failure, hrun]
  case neg =>
    obtain ⟨t, ht, hrun⟩ := exists_rests (not_exists.mp hfailed)
    exact ⟨_, .rests ht, fun fuel => hrun _⟩

theorem fuelled_initiate (env : Env) (e : String) :
    Fuelled (fun fuel (x : World × Medium) => x.1.initiateBwuForEndpoint env fuel e x.2)
      (Attempt env e) (.error .outOfFuel) where
  dry _ := rfl
  round h := attempt_round h
  halt h := by
    obtain ⟨r, hr, hrun⟩ := exists_lastRound h
    refine ⟨r, ?_, hrun⟩
    cases hr with
    | rests => exact nofun
    | settled _ hs => exact hs.ne_outOfFuel

theorem FailedIn.eligible (h : FailedIn env s e m v) : s.Eligible env e m := by
  cases h with
  | unanswered hp => exact (initiatePasses_iff.mp hp).1
  | unwritten hp => exact (initiatePasses_iff.mp hp).1

theorem FailedIn.sameBearings (h : FailedIn env s e m v) : SameBearings s v := by
  cases h with
  | unanswered => exact sameBearings_asked ..
  | unwritten => exact sameBearings_offered ..

theorem FallsBack.sameBearings {last : Medium} {w : World} (h : FallsBack env v e last w n) :
    SameBearings v w := by
  cases h with
  | next => exact (sameBearings_abandoned env v e).trans (sameBearings_setBwuMediumForEndpoint ..)

theorem FallsBack.tried {last : Medium} {w : World} (h : FallsBack env v e last w n) :
    ¬ v.KeepsMedium ∧ v.nextTried e last = some n := by
  cases h with
  | next hk hnext => exact ⟨hk, hnext⟩

theorem FallsBack.idle {last : Medium} {w : World} (h : FallsBack env v e last w n) :
    e ∉ w.inProgressUpgrades := by
  cases h with
  | next =>
    rw [setBwuMediumForEndpoint_inProgress]
    exact not_mem_abandoned env v e

theorem Attempt.sameBearings {x y : World × Medium} (h : Attempt env e x y) :
    SameBearings x.1 y.1 := by
  obtain ⟨v, hfailed, hback⟩ := h
  exact hfailed.sameBearings.trans hback.sameBearings

theorem Attempt.tries {x y : World × Medium} (h : Attempt env e x y) :
    x.1.Tries env e x.2 y.2 := by
  obtain ⟨v, hfailed, hback⟩ := h
  obtain ⟨hk, hnext⟩ := hback.tried
  have hb := hfailed.sameBearings
  exact ⟨hfailed.eligible, fun hk' => hk (hb.keepsMedium.mpr hk'), hb.nextTried e _ ▸ hnext⟩

/-! ### How often a handler is asked -/

theorem asked_trace (env : Env) (e : String) (hh : s.hasHandlerForMedium m = true) (c : ChannelId) :
    ∃ u bytes, (s.asked env e m c).2.trace =
      .handleInitialize m u e bytes :: .initiate e m :: s.trace := by
  obtain ⟨-, h, hl⟩ := hasHandlerForMedium_iff.mp hh
  have hl' : (s.prepared e m).handlers.lookup m = some h := by
    rw [prepared, setBwuMediumForEndpoint_frame]
    exact hl
  have htrace : (s.prepared e m).trace = .initiate e m :: s.trace := by
    rw [prepared, setBwuMediumForEndpoint_frame]
    rfl
  rw [← htrace, asked, initializeUpgradedMediumForEndpoint, hl']
  dsimp only
  split <;> exact ⟨_, _, rfl⟩

theorem reverts_revertHandler (s : World) (m : Medium)
    (revert : BaseBwuHandler → List String × BaseBwuHandler) :
    Adds Event.Reverts s.trace (s.revertHandler m revert).trace := by
  rcases revertHandler_eq s m revert with h | ⟨hd, -, h⟩
  · rw [h]
    exact .refl _ _
  · rw [h]
    refine ⟨_, rfl, fun x hx => ?_⟩
    obtain ⟨u, -, rfl⟩ := List.mem_map.mp (List.mem_reverse.mp hx)
    trivial

theorem reverts_revertBwuMediumForEndpoint (s : World) (u e : String) :
    Adds Event.Reverts s.trace (s.revertBwuMediumForEndpoint u e).trace :=
  revertBwuMediumForEndpoint_rule (R := fun s t => Adds Event.Reverts s.trace t.trace) Adds.trans
    (fun _ _ _ => .refl _ _) (fun _ _ => .one _ trivial)
    reverts_revertHandler s u e

theorem reverts_abandoned (env : Env) (s : World) (e : String) :
    Adds Event.Reverts s.trace (s.abandoned env e).trace := by
  rw [abandoned]
  split
  case isTrue => exact reverts_revertBwuMediumForEndpoint (s.leaveInProgress e) _ e
  case isFalse => exact .refl _ _

def initializations (m : Medium) (tr : List Event) : Nat := tr.countP (·.initializes m)

theorem initializations_of_reverts {tr tr' : List Event} (h : Adds Event.Reverts tr tr')
    (m : Medium) : initializations m tr' = initializations m tr := by
  obtain ⟨new, rfl, hnew⟩ := h
  have hnone : new.countP (·.initializes m) = 0 := by
    refine List.countP_eq_zero.mpr fun x hx => ?_
    have hrevert := hnew x hx
    cases x <;> first | exact hrevert.elim | exact Bool.false_ne_true
  rw [initializations, List.countP_append, hnone, Nat.zero_add, initializations]

theorem initializations_asked (hh : s.hasHandlerForMedium m = true) (c : ChannelId) (x : Medium) :
    initializations x (s.asked env e m c).2.trace =
      initializations x s.trace + if m = x then 1 else 0 := by
  obtain ⟨u, bytes, htrace⟩ := asked_trace env e hh c
  rw [htrace, initializations, List.countP_cons, List.countP_cons]
  simp [Event.initializes, initializations]

theorem FailedIn.initializations (h : FailedIn env s e m v) (x : Medium) :
    World.initializations x v.trace =
      World.initializations x s.trace + if m = x then 1 else 0 := by
  have hh : s.hasHandlerForMedium m = true := h.eligible.2.1
  cases h with
  | unanswered => exact initializations_asked hh _ x
  | unwritten => exact initializations_asked hh _ x

theorem Attempt.initializations {y z : World × Medium} (h : Attempt env e y z) (x : Medium) :
    World.initializations x z.1.trace =
      World.initializations x y.1.trace + if y.2 = x then 1 else 0 := by
  obtain ⟨v, hfailed, hback⟩ := h
  have htrace : World.initializations x z.1.trace = World.initializations x v.trace := by
    generalize z.1 = w at hback
    cases hback with
    | next =>
      rw [setBwuMediumForEndpoint_frame]
      exact initializations_of_reverts (reverts_abandoned env v e) x
  rw [htrace, hfailed.initializations]

theorem TurnedAway.trace (h : TurnedAway env s e m t) : t.trace = .initiate e m :: s.trace := by
  cases h with
  | barred => rfl
  | refused => rw [setBwuMediumForEndpoint_frame]; rfl
  | needless => rw [prepared, setBwuMediumForEndpoint_frame]; rfl

theorem Settled.initializations (h : Settled env v e (.ok t)) (x : Medium) :
    World.initializations x t.trace = World.initializations x v.trace := by
  have habandoned := initializations_of_reverts (reverts_abandoned env v e) x
  generalize hr : Except.ok t = r at h
  cases h with
  | kept => cases hr; rfl
  | content => cases hr; exact habandoned
  | scheduled =>
    obtain ⟨_, rfl⟩ := retryUpgradesAfterDelay_ok hr.symm
    exact habandoned

theorem LastRound.initializations {y : World × Medium} (h : LastRound env e y (.ok t))
    (x : Medium) : World.initializations x t.trace ≤
      World.initializations x y.1.trace + if y.2 = x then 1 else 0 := by
  cases h with
  | rests hr =>
    cases hr with
    | turnedAway _ ht =>
      rw [ht.trace]
      exact Nat.le_add_right _ _
    | @entered c hp => exact (@initializations_asked env y.1 e y.2 hp.2.1 c x).le
  | settled hfailed hs => exact (hs.initializations x).trans_le (hfailed.initializations x).le

/-! ### Where the chain starts -/

end

/-- What sets off the chain: a request, the report of a failure, or a retry that comes due. -/
inductive Cause : Type
  | request (m : Medium)
  | failure (info : UpgradePathInfo)
  | retry

def Cause.run (env : Env) (fuel : Nat) (s : World) (e : String) : Cause → Except Abort World
  | request m => s.initiateBwuForEndpoint env fuel e m
  | failure info => s.processUpgradeFailureEvent env (initiateBwuForEndpoint env fuel) e info
  | retry => s.fireRetryAlarm env fuel e

inductive Begins (env : Env) (s : World) (e : String) : Cause → World → Medium → Prop
  | request (m : Medium) : Begins env s e (.request m) s m
  | failure {info : UpgradePathInfo} {w : World} {n : Medium} :
      FallsBack env s e (upiMedium info) w n → Begins env s e (.failure info) w n
  | retry {n : Medium} : e ∈ s.retryUpgradeAlarms → s.client.isConnectedToEndpoint e = true →
      (∀ start, (s.cancelRetryUpgradeAlarm e).tryNextBestUpgradeMediums env start e
        (s.client.getUpgradeMediums e) =
          start ((s.cancelRetryUpgradeAlarm e).setBwuMediumForEndpoint e n) e n) →
      Begins env s e .retry ((s.cancelRetryUpgradeAlarm e).setBwuMediumForEndpoint e n) n

section

variable {env : Env} {s t v w : World} {e : String} {m n : Medium} {cause : Cause}

theorem tryNextBestUpgradeMediums_cases (env : Env) (s : World) (e : String)
    (mediums : List Medium) :
    (∀ start, s.tryNextBestUpgradeMediums env start e mediums = s.retryUpgradesAfterDelay e) ∨
      (∀ start, s.tryNextBestUpgradeMediums env start e mediums = .ok s) ∨
      ∃ n, ∀ start, s.tryNextBestUpgradeMediums env start e mediums =
        start (s.setBwuMediumForEndpoint e n) e n := by
  simp only [tryNextBestUpgradeMediums]
  by_cases hretry : s.currentMedium env e ≠ .wifiLan ∧
      (s.chooseBestUpgradeMedium e mediums = s.currentMedium env e ∨
        s.chooseBestUpgradeMedium e mediums = .unknownMedium ∨ mediums = [])
  · exact .inl fun _ => if_pos hretry
  simp only [if_neg hretry]
  by_cases hh : s.hasHandlerForMedium (s.chooseBestUpgradeMedium e mediums) = true
  case neg => exact .inr (.inl fun _ => if_pos hh)
  case pos => exact .inr (.inr ⟨_, fun _ => if_neg (not_not.mpr hh)⟩)

theorem Begins.run (h : Begins env s e cause w n) (fuel : Nat) :
    cause.run env fuel s e = w.initiateBwuForEndpoint env fuel e n := by
  cases h with
  | request => rfl
  | failure hback => exact hback.failure
  | retry hpending hconn hnext =>
    have hconn' : ¬ ¬ (s.cancelRetryUpgradeAlarm e).client.isConnectedToEndpoint e = true :=
      not_not.mpr hconn
    rw [Cause.run, fireRetryAlarm, if_neg (not_not.mpr hpending), if_neg hconn']
    exact hnext _

theorem Begins.sameBearings (h : Begins env s e cause w n) : SameBearings s w := by
  cases h with
  | request => exact .refl s
  | failure hback => exact hback.sameBearings
  | retry =>
    have hcancel : SameBearings s (s.cancelRetryUpgradeAlarm e) := ⟨rfl, rfl, rfl, fun _ => rfl⟩
    exact hcancel.trans (sameBearings_setBwuMediumForEndpoint ..)

theorem FallsBack.reverts {last : Medium} (h : FallsBack env v e last w n) :
    Adds Event.Reverts v.trace w.trace := by
  cases h with
  | next =>
    rw [setBwuMediumForEndpoint_frame]
    exact reverts_abandoned env v e

theorem Begins.reverts (h : Begins env s e cause w n) : Adds Event.Reverts s.trace w.trace := by
  cases h with
  | request => exact .refl _ _
  | failure hback => exact hback.reverts
  | retry =>
    rw [setBwuMediumForEndpoint_frame]
    exact .refl _ _

theorem initializations_retry (h : s.retryUpgradesAfterDelay e = .ok t) (x : Medium) :
    initializations x t.trace = initializations x s.trace := by
  obtain ⟨_, rfl⟩ := retryUpgradesAfterDelay_ok h
  rfl

theorem exists_over (h : ∀ w n, ¬ Begins env s e cause w n) :
    ∃ r, r ≠ .error .outOfFuel ∧ (∀ fuel, cause.run env fuel s e = r) ∧
      ∀ t, r = .ok t → ∀ x, initializations x t.trace = initializations x s.trace := by
  have hsame : ∀ v : World, v.trace = s.trace → ∀ t, Except.ok (ε := Abort) v = .ok t →
      ∀ x, initializations x t.trace = initializations x s.trace := by
    intro v hv t ht x
    cases ht
    rw [hv]
  cases cause with
  | request m => exact absurd (.request m) (h s m)
  | failure info =>
    obtain ⟨r, hr, hrun⟩ := exists_settled info fun w n hback => h w n (.failure hback)
    refine ⟨r, hr.ne_outOfFuel, fun fuel => hrun _, ?_⟩
    rintro t rfl
    exact hr.initializations
  | retry =>
    simp only [Cause.run, fireRetryAlarm]
    by_cases hidle : e ∉ s.retryUpgradeAlarms
    · exact ⟨.ok s, by simp, fun _ => if_pos hidle, hsame s rfl⟩
    by_cases hconn : (s.cancelRetryUpgradeAlarm e).client.isConnectedToEndpoint e = true
    case neg =>
      simp only [if_neg hidle, if_pos hconn]
      exact ⟨.ok (s.cancelRetryUpgradeAlarm e), by simp, fun _ => rfl, hsame _ rfl⟩
    case pos =>
      simp only [if_neg hidle, if_neg (not_not.mpr hconn)]
      rcases tryNextBestUpgradeMediums_cases env (s.cancelRetryUpgradeAlarm e) e
        (s.client.getUpgradeMediums e) with hr | hr | ⟨n, hr⟩
      · refine ⟨_, retry_ne_outOfFuel _ e, fun _ => hr _, fun t ht x => ?_⟩
        exact initializations_retry ht x
      · exact ⟨.ok (s.cancelRetryUpgradeAlarm e), by simp, fun _ => hr _, hsame _ rfl⟩
      · exact absurd (.retry (not_not.mp hidle) hconn hr) (h _ n)

end

/-- The chain comes to a request for `n` in `w`, whether or not it ends. -/
def Comes (env : Env) (s : World) (e : String) (cause : Cause) (w : World) (n : Medium) : Prop :=
  ∃ w₀ n₀, Begins env s e cause w₀ n₀ ∧ ReflTransGen (Attempt env e) (w₀, n₀) (w, n)

end World

end Nearby.Bwu
