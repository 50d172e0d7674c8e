import Nearby.Bwu.Run

/-! What the failure chain can do.  `initiate_bwu_for_endpoint`, the failure event and the
choice of the next medium call each other without a bound; whatever they do to the world
is a sequence of the moves below, all of them about one endpoint. -/

namespace Nearby.Bwu

open Proto Lib Relation

namespace World

inductive Prelude (e : String) : World → World → Prop
  | initiate (s : World) (m : Medium) : Prelude e s (s.emit (.initiate e m))
  | setMedium (s : World) (m : Medium) : Prelude e s (s.setBwuMediumForEndpoint e m)
  | cancel (s : World) : Prelude e s (s.cancelRetryUpgradeAlarm e)
  | retry {s t : World} : s.retryUpgradesAfterDelay e = .ok t → Prelude e s t

inductive Move (env : Env) (e : String) : World → World → Prop
  | quiet {s t : World} : Prelude e s t → Move env e s t
  | askHandler {s : World} {c : ChannelId} (m : Medium) : s.getChannelForEndpoint e = some c →
      Move env e s (s.initializeUpgradedMediumForEndpoint env m (env.serviceId c) e).2
  | offer {s : World} {c : ChannelId} (bytes : Bytes) : s.getChannelForEndpoint e = some c →
      Move env e s (s.write env (some e) c (.offer bytes)).2
  | enter {s : World} : e ∉ s.inProgressUpgrades → Move env e s (s.enterInProgress e)
  | revert (s : World) (u : String) : Move env e s (s.revertBwuMediumForEndpoint u e)

abbrev Preludes (e : String) : World → World → Prop := ReflTransGen (Prelude e)

abbrev Moves (env : Env) (e : String) : World → World → Prop := ReflTransGen (Move env e)

theorem Preludes.moves {env : Env} {e : String} {s t : World} (h : Preludes e s t) :
    Moves env e s t :=
  ReflTransGen.mono (fun _ _ => Move.quiet) _ _ h

/-- The guards of `initiate_bwu_for_endpoint` all let the request through. -/
def InitiatePasses (env : Env) (s : World) (e : String) (m : Medium) : Prop :=
  ¬ (s.isWifiLanConnected env ∧ m = .wifiHotspot) ∧ s.hasHandlerForMedium m = true ∧
    e ∉ s.inProgressUpgrades ∧ m ≠ s.currentMedium env e ∧ s.getChannelForEndpoint e ≠ none

/-! ### The guards read nothing a prelude move writes -/

@[simp] theorem setBwuMediumForEndpoint_inProgress (s : World) (e : String) (m : Medium) :
    (s.setBwuMediumForEndpoint e m).inProgressUpgrades = s.inProgressUpgrades := by
  rw [setBwuMediumForEndpoint_frame]

@[simp] theorem setBwuMediumForEndpoint_ecm (s : World) (e : String) (m : Medium) :
    (s.setBwuMediumForEndpoint e m).ecm = s.ecm := by
  rw [setBwuMediumForEndpoint_frame]

@[simp] theorem setBwuMediumForEndpoint_handlers (s : World) (e : String) (m : Medium) :
    (s.setBwuMediumForEndpoint e m).handlers = s.handlers := by
  rw [setBwuMediumForEndpoint_frame]

theorem getChannelForEndpoint_congr {s t : World} (h : t.ecm = s.ecm) (e : String) :
    t.getChannelForEndpoint e = s.getChannelForEndpoint e := by
  rw [getChannelForEndpoint, getChannelForEndpoint, h]

theorem currentMedium_congr {s t : World} (env : Env) (h : t.ecm = s.ecm) (e : String) :
    t.currentMedium env e = s.currentMedium env e := by
  rw [currentMedium, currentMedium, getChannelForEndpoint_congr h]

theorem isWifiLanConnected_congr {s t : World} (env : Env) (h : t.ecm = s.ecm) :
    t.isWifiLanConnected env = s.isWifiLanConnected env := by
  rw [isWifiLanConnected, isWifiLanConnected, h]

theorem hasHandlerForMedium_congr {s t : World} (h : t.handlers = s.handlers) (m : Medium) :
    t.hasHandlerForMedium m = s.hasHandlerForMedium m := by
  rw [hasHandlerForMedium, hasHandlerForMedium, h]

/-! ### One request -/

/-- The world in which a request that passes the guards reaches the medium handler. -/
def prepared (s : World) (e : String) (m : Medium) : World :=
  ((s.emit (.initiate e m)).setBwuMediumForEndpoint e m).cancelRetryUpgradeAlarm e

theorem prepared_ecm (s : World) (e : String) (m : Medium) : (s.prepared e m).ecm = s.ecm := by
  simp [prepared, cancelRetryUpgradeAlarm, emit]

theorem prepared_inProgress (s : World) (e : String) (m : Medium) :
    (s.prepared e m).inProgressUpgrades = s.inProgressUpgrades := by
  simp [prepared, cancelRetryUpgradeAlarm, emit]

inductive TurnedAway (env : Env) (s : World) (e : String) (m : Medium) : World → Prop
  | barred : s.isWifiLanConnected env ∧ m = .wifiHotspot →
      TurnedAway env s e m (s.emit (.initiate e m))
  | refused : ¬ (s.isWifiLanConnected env ∧ m = .wifiHotspot) →
      TurnedAway env s e m ((s.emit (.initiate e m)).setBwuMediumForEndpoint e m)
  | needless : ¬ (s.isWifiLanConnected env ∧ m = .wifiHotspot) →
      TurnedAway env s e m (s.prepared e m)

theorem TurnedAway.preludes {env : Env} {s t : World} {e : String} {m : Medium}
    (h : TurnedAway env s e m t) : Preludes e s t := by
  have h₁ : Preludes e s (s.emit (.initiate e m)) := .single (.initiate s m)
  have h₂ := h₁.tail (.setMedium _ m)
  cases h with
  | barred => exact h₁
  | refused => exact h₂
  | needless => exact h₂.tail (.cancel _)

theorem initiateBody_turnedAway {env : Env} {onFailure s e m t}
    (hp : ¬ s.InitiatePasses env e m)
    (h : initiateBody env onFailure s e m = .ok t) : TurnedAway env s e m t := by
  simp only [initiateBody] at h
  split at h
  case isTrue hw => cases h; exact .barred hw
  case isFalse hw =>
    split at h
    case isTrue => cases h; exact .refused hw
    case isFalse hh =>
      split at h
      case isTrue => cases h; exact .refused hw
      case isFalse hin =>
        split at h
        case isTrue => cases h; exact .needless hw
        case isFalse hm =>
          split at h
          case h_1 => cases h; exact .needless hw
          case h_2 c hc =>
            refine absurd ⟨hw, ?_, ?_, ?_, ?_⟩ hp
            · simpa [hasHandlerForMedium, emit] using hh
            · simpa [emit] using hin
            · rw [currentMedium_congr (s := s) env (by simp [cancelRetryUpgradeAlarm, emit])] at hm
              exact hm
            · rw [getChannelForEndpoint_congr (s := s)
                (by simp [cancelRetryUpgradeAlarm, emit])] at hc
              simp [hc]

def asked (env : Env) (s : World) (e : String) (m : Medium) (c : ChannelId) : Bytes × World :=
  (s.prepared e m).initializeUpgradedMediumForEndpoint env m (env.serviceId c) e

def offered (env : Env) (s : World) (e : String) (m : Medium) (c : ChannelId) : Exception × World :=
  (s.asked env e m c).2.write env (some e) c (.offer (s.asked env e m c).1)

theorem initiateBody_passes {env : Env} {onFailure s e m}
    (hp : s.InitiatePasses env e m) {c : ChannelId} (hc : s.getChannelForEndpoint e = some c) :
    initiateBody env onFailure s e m =
      if (s.asked env e m c).1 = [] then
        onFailure (s.asked env e m c).2 e (upgradePathInfoForMedium m)
      else if ¬ (s.offered env e m c).1.ok then
        onFailure (s.offered env e m c).2 e (upgradePathInfoForMedium m)
      else .ok ((s.offered env e m c).2.enterInProgress e) := by
  obtain ⟨hw, hh, hin, hm, -⟩ := hp
  have hc' : (s.prepared e m).getChannelForEndpoint e = some c := by
    rw [getChannelForEndpoint_congr (prepared_ecm s e m), hc]
  have hm' : m ≠ (s.prepared e m).currentMedium env e := by
    rwa [currentMedium_congr env (prepared_ecm s e m)]
  have hw' : ¬ ((s.emit (.initiate e m)).isWifiLanConnected env ∧ m = .wifiHotspot) := hw
  have hh' :
      ((s.emit (.initiate e m)).setBwuMediumForEndpoint e m).hasHandlerForMedium m = true := by
    rwa [hasHandlerForMedium_congr (s := s) (by simp [emit])]
  simp only [initiateBody]
  rw [if_neg hw', if_neg (by simp [hh']), if_neg (by simpa [emit] using hin)]
  rw [← prepared, if_neg hm', hc']
  rfl

@[simp] theorem initializeUpgradedMediumForEndpoint_ecm (env : Env) (s : World) (m : Medium)
    (u e : String) : (s.initializeUpgradedMediumForEndpoint env m u e).2.ecm = s.ecm := by
  rw [initializeUpgradedMediumForEndpoint_frame]

@[simp] theorem initializeUpgradedMediumForEndpoint_inProgress (env : Env) (s : World)
    (m : Medium) (u e : String) :
    (s.initializeUpgradedMediumForEndpoint env m u e).2.inProgressUpgrades =
      s.inProgressUpgrades := by
  rw [initializeUpgradedMediumForEndpoint_frame]

theorem asked_inProgress (env : Env) (s : World) (e : String) (m : Medium) (c : ChannelId) :
    (s.asked env e m c).2.inProgressUpgrades = s.inProgressUpgrades := by
  rw [asked, initializeUpgradedMediumForEndpoint_inProgress, prepared_inProgress]

theorem offered_inProgress (env : Env) (s : World) (e : String) (m : Medium) (c : ChannelId) :
    (s.offered env e m c).2.inProgressUpgrades = s.inProgressUpgrades :=
  asked_inProgress env s e m c

theorem asked_config (env : Env) (s : World) (e : String) (m : Medium) (c : ChannelId) :
    (s.asked env e m c).2.config = s.config := by
  rw [asked, initializeUpgradedMediumForEndpoint_frame, prepared, setBwuMediumForEndpoint_frame]
  rfl

theorem asked_ecm (env : Env) (s : World) (e : String) (m : Medium) (c : ChannelId) :
    (s.asked env e m c).2.ecm = s.ecm := by
  rw [asked, initializeUpgradedMediumForEndpoint_ecm, prepared_ecm]

/-! ### The chain -/

def abandoned (env : Env) (s : World) (e : String) : World :=
  let serviceId := ((s.getChannelForEndpoint e).map env.serviceId).getD unknownServiceId
  if (s.leaveInProgress e).getBwuMediumForEndpoint e ≠ .unknownMedium then
    (s.leaveInProgress e).revertBwuMediumForEndpoint (wrapInitiatorUpgradeServiceId serviceId) e
  else s.leaveInProgress e

/-- The endpoints share one medium and there are others, so it is not switched. -/
def KeepsMedium (s : World) : Prop :=
  ¬ s.config.supportMultipleBwuMediums ∧ s.getConnectedEndpointsCount > 1

theorem abandoned_frame (env : Env) (s : World) (e : String) :
    (s.abandoned env e).config = s.config ∧ (s.abandoned env e).ecm = s.ecm := by
  rw [abandoned]
  split
  · rw [revertBwuMediumForEndpoint_frame]
    exact ⟨rfl, rfl⟩
  · exact ⟨rfl, rfl⟩

theorem not_mem_abandoned (env : Env) (s : World) (e : String) :
    e ∉ (s.abandoned env e).inProgressUpgrades := by
  have hleft : e ∉ (s.leaveInProgress e).inProgressUpgrades :=
    HashMap.not_mem_erase _ e
  rw [abandoned]
  split
  case isTrue =>
    rw [revertBwuMediumForEndpoint_frame]
    exact hleft
  case isFalse => exact hleft

theorem KeepsMedium.congr {s t : World} (h : s.KeepsMedium) (hconfig : t.config = s.config)
    (hecm : t.ecm = s.ecm) : t.KeepsMedium := by
  rw [KeepsMedium, getConnectedEndpointsCount, hconfig, hecm]
  exact h

/-- What has to be shown of an invariant to carry it through the chain: `Pre` holds of a
request, `Failed` where its failure is taken up, `Next` where the next medium is chosen, `Post`
at the end. -/
structure Chain (env : Env) (e : String) (Pre : World → Medium → Prop)
    (Failed Next Post : World → Prop) : Prop where
  turnedAway : ∀ {s m t}, Pre s m → TurnedAway env s e m t → Post t
  unanswered : ∀ {s m c}, Pre s m → s.InitiatePasses env e m →
    s.getChannelForEndpoint e = some c → (s.asked env e m c).1 = [] → Failed (s.asked env e m c).2
  unwritten : ∀ {s m c}, Pre s m → s.InitiatePasses env e m →
    s.getChannelForEndpoint e = some c → ¬ (s.offered env e m c).1.ok →
    Failed (s.offered env e m c).2
  entered : ∀ {s m c}, Pre s m → s.InitiatePasses env e m →
    s.getChannelForEndpoint e = some c → (s.asked env e m c).1 ≠ [] →
    (s.offered env e m c).1.ok = true → Post ((s.offered env e m c).2.enterInProgress e)
  kept : ∀ {s}, Failed s → s.KeepsMedium → Post (s.leaveInProgress e)
  abandoned : ∀ {s}, Failed s → ¬ s.KeepsMedium → Next (s.abandoned env e)
  scheduled : ∀ {s t}, Next s → s.currentMedium env e ≠ .wifiLan →
    s.retryUpgradesAfterDelay e = .ok t → Post t
  settled : ∀ {s}, Next s → Post s
  next : ∀ {s mediums}, Next s →
    s.hasHandlerForMedium (s.chooseBestUpgradeMedium e mediums) = true →
    Pre (s.setBwuMediumForEndpoint e (s.chooseBestUpgradeMedium e mediums))
      (s.chooseBestUpgradeMedium e mediums)

namespace Chain

variable {env : Env} {e : String} {Pre : World → Medium → Prop} {Failed Next Post : World → Prop}
  {start : World → String → Medium → Except Abort World} {s t : World}

theorem tryNext (h : Chain env e Pre Failed Next Post)
    (hi : ∀ {s m t}, Pre s m → start s e m = .ok t → Post t) {mediums : List Medium}
    (hs : Next s) (hst : s.tryNextBestUpgradeMediums env start e mediums = .ok t) : Post t := by
  simp only [tryNextBestUpgradeMediums] at hst
  split at hst
  case isTrue hlan => exact h.scheduled hs hlan.1 hst
  case isFalse =>
    split at hst
    case isTrue => cases hst; exact h.settled hs
    case isFalse hh => exact hi (h.next hs (not_not.mp hh)) hst

theorem failure (h : Chain env e Pre Failed Next Post)
    (hi : ∀ {s m t}, Pre s m → start s e m = .ok t → Post t) {info : UpgradePathInfo}
    (hs : Failed s) (hst : s.processUpgradeFailureEvent env start e info = .ok t) : Post t := by
  simp only [processUpgradeFailureEvent] at hst
  split at hst
  case isTrue hk => cases hst; exact h.kept hs hk
  case isFalse hk =>
    split at hst
    case h_1 => cases hst
    case h_2 => exact h.tryNext hi (h.abandoned hs hk) hst

theorem initiate (h : Chain env e Pre Failed Next Post) (fuel : Nat) :
    ∀ {s m t}, Pre s m → s.initiateBwuForEndpoint env fuel e m = .ok t → Post t := by
  induction fuel with
  | zero => intro s m t _ hst; cases hst
  | succ fuel ih =>
    intro s m t hs hst
    rw [initiateBwuForEndpoint] at hst
    by_cases hp : s.InitiatePasses env e m
    case neg => exact h.turnedAway hs (initiateBody_turnedAway hp hst)
    case pos =>
      obtain ⟨c, hc⟩ := Option.ne_none_iff_exists'.mp hp.2.2.2.2
      rw [initiateBody_passes hp hc] at hst
      split at hst
      case isTrue hempty => exact h.failure ih (h.unanswered hs hp hc hempty) hst
      case isFalse hbytes =>
        split at hst
        case isTrue hlost => exact h.failure ih (h.unwritten hs hp hc hlost) hst
        case isFalse hok =>
          cases hst
          exact h.entered hs hp hc hbytes (not_not.mp hok)

theorem onFailure (h : Chain env e Pre Failed Next Post) (fuel : Nat) {info : UpgradePathInfo}
    (hs : Failed s)
    (hst : s.processUpgradeFailureEvent env (initiateBwuForEndpoint env fuel) e info = .ok t) :
    Post t :=
  h.failure (h.initiate fuel) hs hst

theorem fireRetryAlarm (h : Chain env e Pre Failed Next Post) {fuel : Nat}
    (hidle : e ∉ s.retryUpgradeAlarms → Post s) (hs : Next (s.cancelRetryUpgradeAlarm e))
    (hst : s.fireRetryAlarm env fuel e = .ok t) : Post t := by
  simp only [World.fireRetryAlarm] at hst
  split at hst
  case isTrue ha => cases hst; exact hidle ha
  case isFalse =>
    split at hst
    case isTrue => cases hst; exact h.settled hs
    case isFalse => exact h.tryNext (h.initiate fuel) hs hst

end Chain

theorem leaveInProgress_of_notMem {s : World} {e : String} (h : e ∉ s.inProgressUpgrades) :
    s.leaveInProgress e = s := by
  have herase : s.inProgressUpgrades.erase e = s.inProgressUpgrades :=
    AList.ext (List.kerase_of_notMem_keys h)
  rw [leaveInProgress, herase]

theorem chain_moves (env : Env) (e : String) (s₀ : World) :
    Chain env e (fun s _ => Moves env e s₀ s) (fun s => Moves env e s₀ (s.leaveInProgress e))
      (Moves env e s₀) (Moves env e s₀) := by
  have hasked : ∀ {s m c}, Moves env e s₀ s → s.InitiatePasses env e m →
      s.getChannelForEndpoint e = some c → Moves env e s₀ (s.asked env e m c).2 ∧
        Moves env e s₀ (s.offered env e m c).2 := by
    intro s m c hs hp hc
    have hc₁ : (s.prepared e m).getChannelForEndpoint e = some c := by
      rw [getChannelForEndpoint_congr (prepared_ecm s e m), hc]
    have hc₂ : (s.asked env e m c).2.getChannelForEndpoint e = some c := by
      rw [asked, getChannelForEndpoint_congr (initializeUpgradedMediumForEndpoint_ecm ..), hc₁]
    have hprep : Preludes e s (s.prepared e m) :=
      ((ReflTransGen.single (.initiate s m)).tail (.setMedium _ m)).tail (.cancel _)
    have h₁ := (hs.trans hprep.moves).tail (.askHandler m hc₁)
    exact ⟨h₁, h₁.tail (.offer _ hc₂)⟩
  exact
    { turnedAway := fun hs ht => hs.trans ht.preludes.moves
      unanswered := by
        intro s m c hs hp hc _
        rw [leaveInProgress_of_notMem (asked_inProgress env s e m c ▸ hp.2.2.1)]
        exact (hasked hs hp hc).1
      unwritten := by
        intro s m c hs hp hc _
        rw [leaveInProgress_of_notMem (offered_inProgress env s e m c ▸ hp.2.2.1)]
        exact (hasked hs hp hc).2
      entered := by
        intro s m c hs hp hc _ _
        exact (hasked hs hp hc).2.tail (.enter (offered_inProgress env s e m c ▸ hp.2.2.1))
      kept := fun hs _ => hs
      abandoned := by
        intro s hs _
        rw [abandoned]
        split
        case isTrue => exact hs.tail (.revert _ _)
        case isFalse => exact hs
      scheduled := fun hs _ ht => hs.tail (.quiet (.retry ht))
      settled := id
      next := fun hs _ => hs.tail (.quiet (.setMedium _ _)) }

theorem initiateBwuForEndpoint_moves {env : Env} {e : String} (fuel : Nat) {s t : World}
    {m : Medium} (h : s.initiateBwuForEndpoint env fuel e m = .ok t) : Moves env e s t :=
  (chain_moves env e s).initiate fuel .refl h

theorem processUpgradeFailureEvent_moves {env : Env} {e : String} {fuel : Nat} {s t : World}
    {info : UpgradePathInfo}
    (h : s.processUpgradeFailureEvent env (initiateBwuForEndpoint env fuel) e info = .ok t) :
    Moves env e (s.leaveInProgress e) t :=
  (chain_moves env e (s.leaveInProgress e)).onFailure fuel .refl h

theorem initiateBwuForEndpoint_prelude {env : Env} {fuel : Nat} {s t : World} {e : String}
    {m : Medium} (hp : ¬ s.InitiatePasses env e m)
    (h : s.initiateBwuForEndpoint env fuel e m = .ok t) : Preludes e s t := by
  cases fuel with
  | zero => cases h
  | succ fuel => exact (initiateBody_turnedAway hp h).preludes

theorem tryNextBestUpgradeMediums_prelude {env : Env} {fuel : Nat} {s t : World} {e : String}
    {mediums : List Medium} (hin : e ∈ s.inProgressUpgrades)
    (h : s.tryNextBestUpgradeMediums env (initiateBwuForEndpoint env fuel) e mediums = .ok t) :
    Preludes e s t := by
  unfold tryNextBestUpgradeMediums at h
  dsimp only at h
  split at h
  case isTrue => exact .single (.retry h)
  case isFalse =>
    split at h
    case isTrue => cases h; exact .refl
    case isFalse =>
      refine .head (.setMedium s _) (initiateBwuForEndpoint_prelude ?_ h)
      rintro ⟨-, -, hnot, -⟩
      exact hnot (by simpa using hin)

def RetryPasses (s : World) (e : String) : Prop :=
  e ∈ s.retryUpgradeAlarms ∧ s.client.isConnectedToEndpoint e = true ∧ e ∉ s.inProgressUpgrades

theorem fireRetryAlarm_moves {env : Env} {fuel : Nat} {s t : World} {e : String}
    (h : s.fireRetryAlarm env fuel e = .ok t) : Moves env e s t :=
  (chain_moves env e s).fireRetryAlarm (fun _ => .refl) (.single (.quiet (.cancel s))) h

theorem fireRetryAlarm_prelude {env : Env} {fuel : Nat} {s t : World} {e : String}
    (hp : ¬ s.RetryPasses e) (h : s.fireRetryAlarm env fuel e = .ok t) : Preludes e s t := by
  unfold fireRetryAlarm at h
  dsimp only at h
  have h₁ : Preludes e s (s.cancelRetryUpgradeAlarm e) := .single (.cancel s)
  split at h
  case isTrue => cases h; exact .refl
  case isFalse ha =>
    split at h
    case isTrue => cases h; exact h₁
    case isFalse hc =>
      refine h₁.trans (tryNextBestUpgradeMediums_prelude ?_ h)
      by_contra hin
      exact hp ⟨not_not.mp ha, not_not.mp hc, hin⟩

end World

end Nearby.Bwu
