import Nearby.Bwu.Selection

/-! A request turned away at a guard.  `initiate_bwu_for_endpoint` notes the medium asked for
between its first guard and the others. -/

namespace Nearby.Bwu

open Proto Lib

namespace World

/-- The upgrade medium on record for `e`, in the field that the flag selects. -/
def recordedMedium (s : World) (e : String) : Option Medium :=
  if s.config.supportMultipleBwuMediums then s.endpointIdToBwuMedium.lookup e else some s.medium

/-- The books of `s` are those of `t`, but for a retry of `e` that may have been cancelled. -/
structure Unchanged (s : World) (e : String) (t : World) : Prop where
  inProgress : t.inProgressUpgrades = s.inProgressUpgrades
  medium : t.medium = s.medium
  mediums : ∀ e', t.endpointIdToBwuMedium.lookup e' = s.endpointIdToBwuMedium.lookup e'
  channels : t.previousEndpointChannels = s.previousEndpointChannels
  upgraded : t.successfullyUpgradedEndpoints = s.successfullyUpgradedEndpoints
  delays : t.retryDelays = s.retryDelays
  alarms : ∀ e', t.retryUpgradeAlarms.lookup e' = s.retryUpgradeAlarms.lookup e' ∨
    e' = e ∧ t.retryUpgradeAlarms.lookup e' = none

section

variable {env : Env} {s t v : World} {e : String} {m : Medium}

theorem Unchanged.refl (s : World) (e : String) : s.Unchanged e s :=
  ⟨rfl, rfl, fun _ => rfl, rfl, rfl, rfl, fun _ => .inl rfl⟩

theorem Unchanged.recordedMedium (h : s.Unchanged e t) (hconfig : t.config = s.config) :
    t.recordedMedium e = s.recordedMedium e := by
  rw [World.recordedMedium, World.recordedMedium, hconfig, h.mediums, h.medium]

theorem Unchanged.cancel (h : s.Unchanged e t) : s.Unchanged e (t.cancelRetryUpgradeAlarm e) := by
  refine { h with alarms := fun e' => ?_ }
  have hlookup := HashMap.lookup_erase_eq t.retryUpgradeAlarms e' e
  split at hlookup
  case isTrue he => exact .inr ⟨he, hlookup⟩
  case isFalse he =>
    have hkept := (h.alarms e').resolve_right fun hgone => he hgone.1
    exact .inl (hlookup.trans hkept)

theorem recordedMedium_setBwuMediumForEndpoint (s : World) (e : String) (m : Medium) :
    (s.setBwuMediumForEndpoint e m).recordedMedium e = some m := by
  rw [recordedMedium, setBwuMediumForEndpoint]
  split
  case isTrue => exact AList.lookup_insert _
  case isFalse => rfl

theorem unchanged_setBwuMediumForEndpoint (h : s.recordedMedium e = some m) :
    s.Unchanged e (s.setBwuMediumForEndpoint e m) := by
  rw [recordedMedium] at h
  rw [setBwuMediumForEndpoint]
  split at h
  case isTrue hflag =>
    rw [if_pos hflag]
    refine { Unchanged.refl s e with mediums := fun e' => ?_ }
    rw [HashMap.lookup_insert_eq]
    split
    case isTrue he => rw [he, h]
    case isFalse => rfl
  case isFalse hflag =>
    rw [if_neg hflag]
    exact { Unchanged.refl s e with medium := (Option.some.inj h).symm }

theorem TurnedAway.config (h : TurnedAway env s e m t) : t.config = s.config := by
  cases h with
  | barred => rfl
  | refused => rw [setBwuMediumForEndpoint_frame]; rfl
  | needless => rw [prepared, setBwuMediumForEndpoint_frame]; rfl

theorem TurnedAway.recordedMedium (h : TurnedAway env s e m t)
    (hw : ¬ (s.isWifiLanConnected env ∧ m = .wifiHotspot)) : t.recordedMedium e = some m := by
  cases h with
  | barred hbarred => exact absurd hbarred hw
  | refused => exact recordedMedium_setBwuMediumForEndpoint _ e m
  | needless => exact recordedMedium_setBwuMediumForEndpoint _ e m

theorem TurnedAway.unchanged (h : TurnedAway env s e m t)
    (hm : (s.isWifiLanConnected env ∧ m = .wifiHotspot) ∨ s.recordedMedium e = some m) :
    s.Unchanged e t := by
  have hset (hw : ¬ (s.isWifiLanConnected env ∧ m = .wifiHotspot)) :
      s.Unchanged e ((s.emit (.initiate e m)).setBwuMediumForEndpoint e m) :=
    { unchanged_setBwuMediumForEndpoint (s := s.emit (.initiate e m)) (hm.resolve_left hw) with }
  cases h with
  | barred => exact { Unchanged.refl s e with }
  | refused hw => exact hset hw
  | needless hw => exact (hset hw).cancel

end

/-- A request that is turned away leaves the books as they were just if the hotspot guard did it or
the medium asked for was on record before. -/
theorem refused_initiate_unchanged_iff {env : Env} {s : World} {e : String} {m : Medium}
    (hp : ¬ s.InitiatePasses env e m) :
    ∃ t, (∀ fuel, s.initiateBwuForEndpoint env (fuel + 1) e m = .ok t) ∧
      (s.Unchanged e t ↔
        (s.isWifiLanConnected env ∧ m = .wifiHotspot) ∨ s.recordedMedium e = some m) := by
  obtain ⟨t, haway, ht⟩ := exists_turnedAway hp
  refine ⟨t, fun fuel => ht _, fun hsame => ?_, haway.unchanged⟩
  by_cases hw : s.isWifiLanConnected env ∧ m = .wifiHotspot
  · exact .inl hw
  · right
    rw [← hsame.recordedMedium haway.config]
    exact haway.recordedMedium hw

def offeredLan : World :=
  (World.new {} [.wifiLan, .wifiHotspot] "L").after reliable 3
    (connect "E" 0 ++ [.initiateBwuForEndpoint "E" .wifiLan])

theorem refused_initiate_unchanged_iff_repeated :
    ∃ t, offeredLan.initiateBwuForEndpoint reliable 1 "E" .wifiLan = .ok t ∧
      offeredLan.Unchanged "E" t := by
  obtain ⟨t, ht, hiff⟩ :=
    @refused_initiate_unchanged_iff reliable offeredLan "E" .wifiLan (by decide)
  exact ⟨t, ht 0, hiff.mpr (.inr (by decide))⟩

/-- A request for the hotspot while the offer of WiFi LAN is out is turned away, but the hotspot is
on record from then on. -/
theorem refused_hotspot_on_record :
    Reachable reliable offeredLan ∧ "E" ∈ offeredLan.inProgressUpgrades ∧
      ¬ offeredLan.InitiatePasses reliable "E" .wifiHotspot ∧
      ∃ t, offeredLan.initiateBwuForEndpoint reliable 1 "E" .wifiHotspot = .ok t ∧
        offeredLan.getBwuMediumForEndpoint "E" = .wifiLan ∧
        t.getBwuMediumForEndpoint "E" = .wifiHotspot ∧ ¬ offeredLan.Unchanged "E" t := by
  refine ⟨reachable_after _ _ _ _ _, by decide, by decide, _, rfl, by decide, by decide, ?_⟩
  intro hsame
  exact absurd (hsame.mediums "E") (by decide)

end World

end Nearby.Bwu
