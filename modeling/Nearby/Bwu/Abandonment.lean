import Nearby.Bwu.Protection
import Nearby.Bwu.Retry
import Nearby.Bwu.Termination

/-! What becomes of an upgrade that the peer reports as failed: a new offer, a pending retry, or
neither. -/

namespace Nearby.Bwu

open Proto Lib Relation

namespace World

/-- The last thing done was to write an offer to `e` and enter its upgrade. -/
def OfferOut (t : World) (e : String) : Prop :=
  ∃ c bytes paused encrypted result rest, result.ok = true ∧ t.trace =
    .started e :: .write (some e) c (.offer bytes) paused encrypted result :: rest

def Pursued (t : World) (e : String) : Prop :=
  (e ∈ t.inProgressUpgrades ∧ t.OfferOut e ∧ e ∉ t.retryUpgradeAlarms) ∨
    (e ∉ t.inProgressUpgrades ∧ e ∈ t.retryUpgradeAlarms)

/-- After a failure of `last` the list can lead to the hotspot, which is out of the question while
some endpoint is on WiFi LAN.  A retry that is pending survives only if no other medium is tried
before. -/
def Stranded (env : Env) (s : World) (e : String) (last : Medium) : Prop :=
  s.isWifiLanConnected env = true ∧ s.currentMedium env e ≠ .wifiHotspot ∧
    ∃ n, s.nextTried e last = some n ∧ ReflTransGen (s.Tries env e) n .wifiHotspot ∧
      (n = .wifiHotspot → e ∉ s.retryUpgradeAlarms)

section

variable {env : Env} {s t v w : World} {e : String} {m n last : Medium} {info : UpgradePathInfo}

/-! ### How the chain can end -/

theorem abandoned_alarms (env : Env) (s : World) (e : String) :
    (s.abandoned env e).retryUpgradeAlarms = s.retryUpgradeAlarms := by
  rw [abandoned]
  split
  case isTrue => rw [revertBwuMediumForEndpoint_frame]; rfl
  case isFalse => rfl

theorem FallsBack.alarms (h : FallsBack env v e last w n) :
    w.retryUpgradeAlarms = v.retryUpgradeAlarms := by
  cases h with
  | next =>
    rw [setBwuMediumForEndpoint_frame]
    exact abandoned_alarms env v e

theorem FailedIn.alarms (h : FailedIn env s e m v) :
    v.retryUpgradeAlarms = s.retryUpgradeAlarms.erase e := by
  cases h with
  | unanswered => exact offered_alarms ..
  | unwritten => exact offered_alarms ..

theorem Attempt.not_mem_alarms {x y : World × Medium} (h : Attempt env e x y) :
    e ∉ y.1.retryUpgradeAlarms := by
  obtain ⟨v, hfailed, hback⟩ := h
  rw [hback.alarms, hfailed.alarms]
  exact HashMap.not_mem_erase _ e

theorem pursued_entered {c : ChannelId} (hok : (s.offered env e m c).1.ok = true) :
    ((s.offered env e m c).2.enterInProgress e).Pursued e := by
  refine .inl ⟨?_, ⟨_, _, _, _, _, _, hok, rfl⟩, ?_⟩
  · exact (AList.mem_insert _).mpr (.inl rfl)
  · change e ∉ (s.offered env e m c).2.retryUpgradeAlarms
    rw [offered_alarms]
    exact HashMap.not_mem_erase _ e

theorem Settled.pursued (h : Settled env v e (.ok t)) (hk : ¬ v.KeepsMedium)
    (hcur : v.currentMedium env e ≠ .wifiLan) : t.Pursued e := by
  generalize hr : Except.ok t = r at h
  cases h with
  | kept hkept => exact absurd hkept hk
  | content _ hlan => exact absurd hlan hcur
  | scheduled =>
    have hidle := not_mem_abandoned env v e
    obtain ⟨delay, rfl⟩ := retryUpgradesAfterDelay_ok hr.symm
    exact .inr ⟨hidle, (AList.mem_insert _).mpr (.inl rfl)⟩

theorem barred_of_turnedAway (hb : SameBearings s v) (hback : FallsBack env v e last w n)
    (hcur : s.currentMedium env e ≠ .wifiLan) (hc : s.getChannelForEndpoint e ≠ none)
    (hp : ¬ w.InitiatePasses env e n) : s.isWifiLanConnected env = true ∧ n = .wifiHotspot := by
  have hb' := hb.trans hback.sameBearings
  by_contra hw
  refine hp (initiatePasses_iff.mpr ⟨(hb'.eligible env e n).mpr ⟨hw, ?_, ?_, hc⟩, hback.idle⟩)
  · have hhas : v.hasHandlerForMedium n = true := List.find?_some hback.tried.2
    rwa [← hb.handlers]
  · rw [← hb.currentMedium] at hcur ⊢
    cases hback with
    | next _ _ hn => exact fun h => hcur (h ▸ hn h.symm)

theorem LastRound.pursued (h : LastRound env e (w, n) (.ok t)) (hb : SameBearings s v)
    (hback : FallsBack env v e last w n) (hk : ¬ s.KeepsMedium)
    (hcur : s.currentMedium env e ≠ .wifiLan) (hc : s.getChannelForEndpoint e ≠ none)
    (hpending : s.isWifiLanConnected env = true → n = .wifiHotspot → e ∈ w.retryUpgradeAlarms) :
    t.Pursued e := by
  have hb' := hb.trans hback.sameBearings
  cases h with
  | rests hr =>
    cases hr with
    | turnedAway hp ht =>
      have hw := barred_of_turnedAway hb hback hcur hc hp
      have hw' : w.isWifiLanConnected env ∧ n = .wifiHotspot :=
        ⟨(isWifiLanConnected_congr env hb'.ecm).trans hw.1, hw.2⟩
      cases ht with
      | barred => exact .inr ⟨hback.idle, hpending hw.1 hw.2⟩
      | refused hno | needless hno => exact absurd hw' hno
    | entered _ _ hok => exact pursued_entered hok
  | settled hfailed hs =>
    have hb'' := hb'.trans hfailed.sameBearings
    refine hs.pursued (fun hk' => hk (hb''.keepsMedium.mp hk')) ?_
    rwa [hb''.currentMedium]

/-! ### What the chain has come to -/

theorem attempts_tries {x y : World × Medium} (h : ReflTransGen (Attempt env e) x y) :
    SameBearings x.1 y.1 ∧ ReflTransGen (x.1.Tries env e) x.2 y.2 := by
  induction h with
  | refl => exact ⟨.refl _, .refl⟩
  | tail _ hyz ih => exact ⟨ih.1.trans hyz.sameBearings, ih.2.tail (ih.1.tries env e ▸ hyz.tries)⟩

theorem FallsBack.ne_hotspot (hb : SameBearings s v) (h : FallsBack env v e last w .wifiHotspot) :
    s.currentMedium env e ≠ .wifiHotspot := by
  rw [← hb.currentMedium]
  cases h with
  | next _ _ hn => exact fun hcur => absurd (hn hcur) (by decide)

theorem failure_pursued {fuel : Nat} (hk : ¬ s.KeepsMedium)
    (hcur : s.currentMedium env e ≠ .wifiLan) (hc : s.getChannelForEndpoint e ≠ none)
    (hno : ¬ s.Stranded env e (upiMedium info))
    (hst : (Cause.failure info).run env fuel s e = .ok t) : t.Pursued e := by
  by_cases hbegins : ∃ w n, FallsBack env s e (upiMedium info) w n
  case neg =>
    obtain ⟨r, hr, hrun⟩ := exists_settled info fun w n hback => hbegins ⟨w, n, hback⟩
    have hrt : r = .ok t := (hrun _).symm.trans hst
    rw [hrt] at hr
    exact hr.pursued hk hcur
  case pos =>
    obtain ⟨w₁, n₁, hfirst⟩ := hbegins
    have hnext := hfirst.tried.2
    rw [(Begins.failure hfirst).run] at hst
    obtain ⟨⟨w, n⟩, hpath, hstuck, hlast⟩ := (fuelled_initiate env e).last (s := (w₁, n₁))
      (n := fuel) (by rw [hst]; nofun)
    obtain ⟨r, hr, hrun⟩ := exists_lastRound hstuck
    have hrt : r = .ok t := (hrun 0).symm.trans ((hlast 0).trans hst)
    rw [hrt] at hr
    rcases hpath.cases_tail with hx | ⟨⟨w₂, n₂⟩, hpath', hround⟩
    · -- No other medium was tried before, so a retry is still pending if one was.
      cases hx
      refine hr.pursued (.refl s) hfirst hk hcur hc fun hlan hn => ?_
      subst hn
      by_contra hidle
      have hcur' := hfirst.ne_hotspot (.refl s)
      exact hno ⟨hlan, hcur', _, hnext, .refl, fun _ => hfirst.alarms ▸ hidle⟩
    · obtain ⟨hb, htried⟩ := attempts_tries hpath'
      have hb₂ := hfirst.sameBearings.trans hb
      have htries := hround.tries
      obtain ⟨v, hfailed, hback⟩ := hround
      have hbv := hb₂.trans hfailed.sameBearings
      rw [hfirst.sameBearings.tries] at htried
      rw [hb₂.tries] at htries
      refine hr.pursued hbv hback hk hcur hc fun hlan hn => ?_
      subst hn
      refine absurd ⟨hlan, hback.ne_hotspot hbv, n₁, hnext, htried.tail htries, ?_⟩ hno
      rintro rfl
      -- Nothing is tried after the hotspot.
      obtain ⟨_, hhead, -⟩ := TransGen.head'_iff.mp (TransGen.tail' htried htries)
      exact absurd ⟨hlan, rfl⟩ hhead.1.1

/-! ### The way to the hotspot -/

theorem currentMedium_ne_of_leads (hcur : s.currentMedium env e ≠ .wifiHotspot)
    (hpath : ReflTransGen (s.Tries env e) n .wifiHotspot) : s.currentMedium env e ≠ n := by
  rcases ReflTransGen.cases_head hpath with rfl | ⟨_, hhead, -⟩
  · exact hcur
  · exact Ne.symm hhead.1.2.2.1

theorem initiate_stranded (hfail : ∀ tr m u e, env.handleInitialize tr m u e = [])
    (hlan : s.isWifiLanConnected env = true) (hcur : s.currentMedium env e ≠ .wifiHotspot)
    (hpath : ReflTransGen (s.Tries env e) n .wifiHotspot) :
    ∀ w, SameBearings s w → e ∉ w.inProgressUpgrades →
      (n = .wifiHotspot → e ∉ w.retryUpgradeAlarms) →
      ∃ fuel t, w.initiateBwuForEndpoint env fuel e n = .ok t ∧ e ∉ t.inProgressUpgrades ∧
        e ∉ t.retryUpgradeAlarms := by
  induction hpath using ReflTransGen.head_induction_on with
  | refl =>
    intro w hb hin halarms
    have hbarred : (w.emit (.initiate e .wifiHotspot)).isWifiLanConnected env ∧
        Medium.wifiHotspot = .wifiHotspot :=
      ⟨(isWifiLanConnected_congr env hb.ecm).trans hlan, rfl⟩
    refine ⟨1, w.emit (.initiate e .wifiHotspot), ?_, hin, halarms rfl⟩
    rw [initiateBwuForEndpoint, initiateBody, if_pos hbarred]
  | @head m n hmn hrest ih =>
    intro w hb hin _
    have hp := initiatePasses_iff.mpr ⟨(hb.eligible env e m).mpr hmn.1, hin⟩
    obtain ⟨c, hc⟩ := Option.ne_none_iff_exists'.mp hp.2.2.2.2
    have hb' := hb.trans (sameBearings_asked env w e m c)
    have hn := currentMedium_ne_of_leads hcur hrest
    obtain ⟨w', hback⟩ := fallsBack_of_tries (hb'.tries env e ▸ hmn) (hb'.currentMedium env e ▸ hn)
    have hattempt : Attempt env e (w, m) (w', n) :=
      ⟨_, .unanswered hp hc (asked_eq_nil hfail c), hback⟩
    obtain ⟨fuel, t, hrun, hidle⟩ := ih w' (hb'.trans hback.sameBearings) hback.idle
      fun _ => hattempt.not_mem_alarms
    exact ⟨fuel + 1, t, (attempt_round hattempt fuel).trans hrun, hidle⟩

theorem failure_stranded (hfail : ∀ tr m u e, env.handleInitialize tr m u e = [])
    (hk : ¬ s.KeepsMedium) (h : s.Stranded env e (upiMedium info)) :
    ∃ fuel t, (Cause.failure info).run env fuel s e = .ok t ∧ e ∉ t.inProgressUpgrades ∧
      e ∉ t.retryUpgradeAlarms := by
  obtain ⟨hlan, hcur, n, hnext, hpath, halarms⟩ := h
  have hn := currentMedium_ne_of_leads hcur hpath
  have hback : FallsBack env s e (upiMedium info) _ n := .next hk hnext fun h => absurd h hn
  obtain ⟨fuel, t, hrun, hidle⟩ := initiate_stranded hfail hlan hcur hpath _ hback.sameBearings
    hback.idle (hback.alarms ▸ halarms)
  exact ⟨fuel, t, ((Begins.failure hback).run fuel).trans hrun, hidle⟩

end

/-- With a medium for each endpoint, an upgrade that the peer reports as failed is taken further,
whatever the handlers and channels do, unless its list leads to a hotspot that is barred. -/
theorem failure_pursued_iff {env : Env} {s : World} {e : String} {c : ChannelId}
    {frame : OfflineFrame} {info : UpgradePathInfo}
    (hflag : s.config.supportMultipleBwuMediums = true)
    (hconn : s.client.isConnectedToEndpoint e = true) (hc : s.getChannelForEndpoint e = some c)
    (hm : env.medium c ≠ .wifiLan) (hev : eventOf frame = some (.upgradeFailure, some info)) :
    (∀ handleInitialize write t,
      Step (env.behaving handleInitialize write) s (.onIncomingFrame frame e) t → t.Pursued e) ↔
      ¬ s.Stranded env e (upiMedium info) := by
  have hk : ¬ s.KeepsMedium := fun hk => hk.1 hflag
  have hcur : s.currentMedium env e ≠ .wifiLan := by
    rw [currentMedium, hc]
    exact hm
  have hc' : s.getChannelForEndpoint e ≠ none := by
    rw [hc]
    simp
  constructor
  · intro h hstranded
    obtain ⟨fuel, t, hrun, hidle, halarms⟩ :=
      @failure_stranded (env.behaving (fun _ _ _ _ => []) env.write) s e info
        (fun _ _ _ _ => rfl) hk hstranded
    have hst : Step (env.behaving (fun _ _ _ _ => []) env.write) s (.onIncomingFrame frame e) t :=
      ⟨fuel, (onIncomingFrame_failure fuel hconn hev).trans hrun⟩
    rcases h _ _ t hst with hin | hpending
    · exact hidle hin.1
    · exact halarms hpending.2
  · rintro hno handleInitialize write t ⟨fuel, hst⟩
    have hrun := (onIncomingFrame_failure fuel hconn hev).symm.trans hst
    have hno' : ¬ s.Stranded (env.behaving handleInitialize write) e (upiMedium info) := hno
    have hcur' : s.currentMedium (env.behaving handleInitialize write) e ≠ .wifiLan := hcur
    exact failure_pursued hk hcur' hc' hno' hrun

def bluetoothOnly : World :=
  (World.new {} [.wifiLan, .wifiHotspot] "L").after reliable 3
    (connect "X" 3 ++ [.setUpgradeMediums "X" [.wifiLan, .wifiHotspot]])

theorem failure_pursued_iff_hotspot :
    ¬ bluetoothOnly.Stranded reliable "X" .wifiLan ∧
      ∃ t, Step (reliable.behaving reliable.handleInitialize reliable.write) bluetoothOnly
        (.onIncomingFrame (forBwuFailure lanPath) "X") t ∧ t.Pursued "X" := by
  have hno : ¬ bluetoothOnly.Stranded reliable "X" .wifiLan := fun h => absurd h.1 (by decide)
  have hst : ∃ t, Step (reliable.behaving reliable.handleInitialize reliable.write) bluetoothOnly
      (.onIncomingFrame (forBwuFailure lanPath) "X") t := ⟨_, 3, rfl⟩
  obtain ⟨t, hst⟩ := hst
  have h := (@failure_pursued_iff reliable bluetoothOnly "X" 3 _ _ (by decide) (by decide)
    (by decide) (by decide) (eventOf_forBwuFailure lanPath)).mpr hno
  exact ⟨hno, t, hst, h _ _ t hst⟩

/-- With "E" on WiFi LAN, "X" cannot go on to the hotspot, and nobody comes back to it. -/
theorem failure_abandoned :
    Reachable reliable lanAndBluetooth ∧ lanAndBluetooth.config.supportMultipleBwuMediums = true ∧
      lanAndBluetooth.client.isConnectedToEndpoint "X" = true ∧
      lanAndBluetooth.currentMedium reliable "X" = .bluetooth ∧
      ∃ t, Step reliable lanAndBluetooth (.onIncomingFrame (forBwuFailure lanPath) "X") t ∧
        "X" ∉ t.inProgressUpgrades ∧ "X" ∉ t.retryUpgradeAlarms := by
  refine ⟨reachable_after _ _ _ _ _, by decide, by decide, by decide, _, ⟨3, rfl⟩, ?_, ?_⟩
  · decide
  · decide

end World

end Nearby.Bwu
