import Nearby.Bwu.Attempts
import Nearby.Bwu.Dispatch

/-! Frames that must not start an upgrade: whatever comes from an endpoint that is not connected,
and an offer from one that has connected to us. -/

namespace Nearby.Bwu

open Proto Lib

def Event.Upgrades : Event → Prop
  | .handleInitialize _ _ _ _ => True
  | .createUpgraded _ _ _ _ _ => True
  | .bandwidthChanged _ _ => True
  | _ => False

def Event.isWrite : Event → Bool
  | .write _ _ _ _ _ _ => true
  | _ => false

theorem Event.Reverts.not_upgrades {x : Event} (h : x.Reverts) : ¬ x.Upgrades := by
  cases x <;> first | exact id | cases h

theorem Event.Reverts.not_isWrite {x : Event} (h : x.Reverts) : x.isWrite = false := by
  cases x <;> first | rfl | cases h

namespace World

def Gated (s : World) (frame : OfflineFrame) (e : String) : Prop :=
  s.client.isConnectedToEndpoint e = false ∨
    s.client.isIncomingConnection e = true ∧
      ∃ info, eventOf frame = some (.upgradePathAvailable, info)

/-- No upgrade is begun or reported in `new`, and all that is written is at most one
UPGRADE_FAILURE, on the channel registered for `e`. -/
def OnlyDeclines (s : World) (e : String) (new : List Event) : Prop :=
  (∀ x ∈ new, ¬ x.Upgrades) ∧
    (new.filter Event.isWrite = [] ∨ ∃ c info paused encrypted result,
      s.getChannelForEndpoint e = some c ∧ new.filter Event.isWrite =
        [.write (some e) c (.frame (forBwuFailure info)) paused encrypted result])

structure StartsNothing (s : World) (e : String) (t : World) : Prop where
  inProgress : ∀ e', e' ∈ t.inProgressUpgrades → e' ∈ s.inProgressUpgrades
  parked : t.previousEndpointChannels = s.previousEndpointChannels
  latched : t.successfullyUpgradedEndpoints = s.successfullyUpgradedEndpoints
  alarms : t.retryUpgradeAlarms = s.retryUpgradeAlarms
  delays : t.retryDelays = s.retryDelays
  registered : t.ecm = s.ecm
  client : t.client = s.client
  calls : ∃ new, t.trace = new ++ s.trace ∧ s.OnlyDeclines e new

section

variable {env : Env} {s : World} {e : String}

theorem StartsNothing.refl (s : World) (e : String) : StartsNothing s e s :=
  ⟨fun _ => id, rfl, rfl, rfl, rfl, rfl, rfl, [], rfl, List.forall_mem_nil _, .inl rfl⟩

theorem onlyDeclines_failure {c : ChannelId} (hc : s.getChannelForEndpoint e = some c)
    (info : UpgradePathInfo) (paused encrypted : Bool) (result : Exception) {new : List Event}
    (hnew : ∀ x ∈ new, ¬ x.Upgrades ∧ x.isWrite = false) :
    s.OnlyDeclines e
      (new ++ [.write (some e) c (.frame (forBwuFailure info)) paused encrypted result]) := by
  have hnone : new.filter Event.isWrite = [] := by
    rw [List.filter_eq_nil_iff]
    intro x hx
    simp [(hnew x hx).2]
  refine ⟨?_, .inr ⟨c, info, paused, encrypted, result, hc, ?_⟩⟩
  · exact List.forall_mem_append.mpr
      ⟨fun x hx => (hnew x hx).1, List.forall_mem_singleton.mpr id⟩
  · rw [List.filter_append, hnone]
    rfl

theorem startsNothing_runUpgradeFailedProtocol (env : Env) (s : World) (e : String)
    (info : UpgradePathInfo) : StartsNothing s e (s.runUpgradeFailedProtocol env e info) := by
  have htold := runUpgradeFailedProtocol_told env s e info
  generalize s.runUpgradeFailedProtocol env e info = t at htold
  cases htold with
  | unregistered => exact .refl s e
  | @unwritten c hc =>
    refine ⟨fun _ => id, rfl, rfl, rfl, rfl, rfl, rfl, _, List.append_cons [_] _ _,
      onlyDeclines_failure hc info _ _ _ ?_⟩
    exact List.forall_mem_singleton.mpr ⟨id, rfl⟩
  | @reverted c hc =>
    generalize hw : (s.write env (some e) c (.frame (forBwuFailure info))).2 = w
    have hframe := revertBwuMediumForEndpoint_frame w (env.serviceId c) e
    obtain ⟨new, hnew, hrev⟩ := reverts_revertBwuMediumForEndpoint w (env.serviceId c) e
    rw [hframe]
    subst hw
    refine ⟨fun _ he => (AList.mem_erase.mp he).2, rfl, rfl, rfl, rfl, rfl, rfl, _,
      hnew.trans (List.append_cons _ _ _), onlyDeclines_failure hc info _ _ _ ?_⟩
    exact fun x hx => ⟨(hrev x hx).not_upgrades, (hrev x hx).not_isWrite⟩
  | @mediumless c hc =>
    exact ⟨fun _ he => (AList.mem_erase.mp he).2, rfl, rfl, rfl, rfl, rfl, rfl, _,
      List.append_cons [] _ _, onlyDeclines_failure hc info _ _ _ (List.forall_mem_nil _)⟩

theorem onIncomingFrame_gated {frame : OfflineFrame} (env : Env) (fuel : Nat)
    (h : s.Gated frame e) :
    s.onIncomingFrame env fuel frame e = .ok s ∨ ∃ info,
      s.onIncomingFrame env fuel frame e = .ok (s.runUpgradeFailedProtocol env e info) := by
  cases hev : eventOf frame with
  | none => exact .inl (onIncomingFrame_other hev env fuel s e)
  | some event =>
    obtain ⟨event, info⟩ := event
    obtain ⟨bwu, hframe, hevent, hinfo⟩ := onIncomingFrame_dispatch env fuel s e hev
    rw [hframe, onBwuNegotiationFrame, hevent, hinfo]
    by_cases hc : s.client.isConnectedToEndpoint e = true
    case neg =>
      rw [if_pos hc]
      split
      case h_1 => exact .inr ⟨_, rfl⟩
      case h_2 => exact .inl rfl
    case pos =>
      have hincoming : s.client.isIncomingConnection e = true ∧
          ∃ info, eventOf frame = some (.upgradePathAvailable, info) :=
        h.resolve_left fun hnot => by simp [hc] at hnot
      obtain ⟨hin, i, hoffer⟩ := hincoming
      cases hev.symm.trans hoffer
      rw [if_neg (not_not.mpr hc)]
      cases info with
      | none => exact .inl rfl
      | some info =>
        dsimp only
        rw [processBwuPathAvailableEvent, beginPathAvailable]
        by_cases hw : s.isWifiLanConnected env ∧ upiMedium info = .wifiHotspot
        · rw [if_pos hw]
          exact .inr ⟨info, rfl⟩
        · rw [if_neg hw, if_pos hin]
          exact .inl rfl

end

/-- A frame from an endpoint that is not connected, and an offer from an incoming one, start
nothing. -/
theorem gated_frame_starts_nothing {s : World} {frame : OfflineFrame} {e : String} (env : Env)
    (fuel : Nat) (h : s.Gated frame e) :
    ∃ t, s.onIncomingFrame env fuel frame e = .ok t ∧ s.StartsNothing e t := by
  rcases onIncomingFrame_gated env fuel h with hdrop | ⟨info, hfail⟩
  · exact ⟨s, hdrop, .refl s e⟩
  · exact ⟨_, hfail, startsNothing_runUpgradeFailedProtocol env s e info⟩

def advertiser : World :=
  (World.new {} [.wifiLan, .wifiHotspot] "L").after reliable 3
    [.onConnectionInitiated "E" true true, .onConnectionAccepted "E",
      .registerChannelForEndpoint "E" 1]

theorem gated_frame_starts_nothing_hotspot :
    ∃ t, advertiser.onIncomingFrame reliable 0
        (bwuUpgradePathAvailable (upgradePathInfoForMedium .wifiHotspot)) "E" = .ok t ∧
      advertiser.StartsNothing "E" t := by
  have hincoming : advertiser.client.isIncomingConnection "E" = true := by decide
  exact gated_frame_starts_nothing reliable 0
    (.inr ⟨hincoming, _, eventOf_bwuUpgradePathAvailable _⟩)

end World

end Nearby.Bwu
