import Nearby.Bwu.Dispatch
import Nearby.Bwu.Isolation

/-! `on_endpoint_disconnect`: what is left of an endpoint after it, and in every later run that
neither asks for an upgrade of the endpoint nor delivers a frame of it. -/

namespace Nearby.Bwu

open Proto Lib

/-- The operation neither asks for an upgrade of `e` nor delivers a frame of it. -/
def Op.Avoids (e : String) : Op → Prop
  | .initiateBwuForEndpoint e' _ => e' ≠ e
  | .onIncomingFrame _ e' => e' ≠ e
  | _ => True

inductive Op.Registers (e : String) : Op → Prop
  | register (c : ChannelId) : Registers e (.registerChannelForEndpoint e c)
  | unregister : Registers e (.unregisterChannelForEndpoint e)

namespace World

structure Erased (e : String) (s : World) : Prop where
  inProgress : e ∉ s.inProgressUpgrades
  parked : s.previousEndpointChannels.lookup e = none
  latched : e ∉ s.successfullyUpgradedEndpoints
  medium : s.endpointIdToBwuMedium.lookup e = none
  alarm : s.retryUpgradeAlarms.lookup e = none
  delay : s.retryDelays.lookup e = none

structure Cleared (e : String) (s v : World) : Prop where
  config : v.config = s.config
  handlers : v.handlers = s.handlers
  ecm : v.ecm = s.ecm
  medium : v.medium = s.medium
  mediums : v.endpointIdToBwuMedium = s.endpointIdToBwuMedium
  inProgress : e ∉ v.inProgressUpgrades
  parked : v.previousEndpointChannels.lookup e = none
  latched : e ∉ v.successfullyUpgradedEndpoints
  alarm : v.retryUpgradeAlarms.lookup e = none
  delay : v.retryDelays.lookup e = none
  calls : Adds (¬ ·.Negotiates) s.trace v.trace

theorem closeParked_ecm (s : World) (e : String) (reason : DisconnectionReason) :
    (s.closeParked e reason).ecm = s.ecm := by
  rw [closeParked]
  split <;> rfl

theorem closeParked_parked (s : World) (e : String) (reason : DisconnectionReason) :
    (s.closeParked e reason).previousEndpointChannels.lookup e = none := by
  rw [closeParked]
  split
  case h_1 => exact AList.lookup_erase _ _
  case h_2 h => exact h

theorem cleanUp_frame (s : World) (e : String) :
    World.unlatch (World.cancelRetryUpgradeAlarm
      { s.leaveInProgress e with retryDelays := s.retryDelays.erase e } e) e = { s with
        inProgressUpgrades := s.inProgressUpgrades.erase e
        retryDelays := s.retryDelays.erase e
        retryUpgradeAlarms := s.retryUpgradeAlarms.erase e
        successfullyUpgradedEndpoints := s.successfullyUpgradedEndpoints.erase e } :=
  rfl

theorem onEndpointDisconnect_cleared (s : World) (u e : String) :
    ∃ v, Cleared e s v ∧ s.onEndpointDisconnect u e =
      if s.config.supportMultipleBwuMediums ∨ s.getConnectedEndpointsCount ≤ 1 then
        v.revertBwuMediumForEndpoint u e
      else v := by
  generalize hs₁ : (if s.hasHandlerForMedium (s.getBwuMediumForEndpoint e) = true then
    s.emit (.handlerDisconnect (s.getBwuMediumForEndpoint e) e) else s) = s₁
  have h₁ : Aside s s₁ ∧ s₁.ecm = s.ecm := by
    rw [← hs₁]
    split
    · exact ⟨aside_emit s id, rfl⟩
    · exact ⟨.refl s, rfl⟩
  have h₂ := h₁.1.trans (aside_closeParked s₁ e .shutdown)
  have hecm := (closeParked_ecm s₁ e .shutdown).trans h₁.2
  have hparked := closeParked_parked s₁ e .shutdown
  have hcleared : Cleared e s (World.unlatch (World.cancelRetryUpgradeAlarm
      { (s₁.closeParked e .shutdown).leaveInProgress e with
        retryDelays := (s₁.closeParked e .shutdown).retryDelays.erase e } e) e) := by
    rw [cleanUp_frame]
    generalize s₁.closeParked e .shutdown = s₂ at h₂ hecm hparked
    exact
      { config := h₂.config
        handlers := h₂.handlers
        ecm := hecm
        medium := h₂.medium
        mediums := h₂.mediums
        inProgress := HashMap.not_mem_erase _ e
        parked := hparked
        latched := HashMap.not_mem_erase _ e
        alarm := AList.lookup_erase e _
        delay := AList.lookup_erase e _
        calls := h₂.calls }
  have hguard : ∀ v : World, Cleared e s v →
      (v.config.supportMultipleBwuMediums = true ∨ v.getConnectedEndpointsCount ≤ 1 ↔
        s.config.supportMultipleBwuMediums = true ∨ s.getConnectedEndpointsCount ≤ 1) := by
    intro v hv
    rw [getConnectedEndpointsCount, getConnectedEndpointsCount, hv.config, hv.ecm]
  refine ⟨_, hcleared, ?_⟩
  simp only [onEndpointDisconnect, hs₁]
  exact if_congr (hguard _ hcleared) rfl rfl

/-! ### What is left -/

section

variable {env : Env} {s t : World} {e : String}

theorem onEndpointDisconnect_eq (hflag : s.config.supportMultipleBwuMediums = true) (u e : String) :
    ∃ v, Cleared e s v ∧ s.onEndpointDisconnect u e = v.revertBwuMediumForEndpoint u e := by
  obtain ⟨v, hv, h⟩ := onEndpointDisconnect_cleared s u e
  rw [if_pos (.inl hflag)] at h
  exact ⟨v, hv, h⟩

theorem revertBwuMediumForEndpoint_mediums (hflag : s.config.supportMultipleBwuMediums = true)
    (u e : String) :
    (s.revertBwuMediumForEndpoint u e).endpointIdToBwuMedium = s.endpointIdToBwuMedium.erase e := by
  obtain ⟨_, rfl, h | ⟨-, m, h⟩ | ⟨m, h⟩⟩ := revertBwuMediumForEndpoint_eq hflag u e
  · rw [h]
  · rw [h, revertHandler_frame]
  · rw [h, revertHandler_frame]

theorem revertBwuMediumForEndpoint_unset (h : s.endpointIdToBwuMedium.lookup e = none)
    (u e' : String) :
    (s.revertBwuMediumForEndpoint u e').endpointIdToBwuMedium.lookup e = none := by
  by_cases hflag : s.config.supportMultipleBwuMediums = true
  case pos =>
    rw [revertBwuMediumForEndpoint_mediums hflag, HashMap.lookup_erase_eq]
    split
    · rfl
    · exact h
  case neg =>
    simp only [revertBwuMediumForEndpoint]
    rw [if_pos hflag]
    split
    case isTrue =>
      rw [revertInitiatorState_frame]
      exact h
    case isFalse => exact h

theorem Cleared.erased {v : World} (h : Cleared e s v)
    (hm : v.endpointIdToBwuMedium.lookup e = none) : v.Erased e :=
  ⟨h.inProgress, h.parked, h.latched, hm, h.alarm, h.delay⟩

theorem Cleared.erased_revert {v : World} (h : Cleared e s v) {u : String}
    (hm : (v.revertBwuMediumForEndpoint u e).endpointIdToBwuMedium.lookup e = none) :
    (v.revertBwuMediumForEndpoint u e).Erased e := by
  constructor
  case medium => exact hm
  all_goals rw [revertBwuMediumForEndpoint_frame]
  · exact h.inProgress
  · exact h.parked
  · exact h.latched
  · exact h.alarm
  · exact h.delay

theorem erased_onEndpointDisconnect (hflag : s.config.supportMultipleBwuMediums = true)
    (u e : String) : (s.onEndpointDisconnect u e).Erased e := by
  obtain ⟨v, hv, h⟩ := onEndpointDisconnect_eq hflag u e
  have hmediums := revertBwuMediumForEndpoint_mediums (hv.config ▸ hflag) u e
  rw [h]
  apply hv.erased_revert
  rw [hmediums]
  exact AList.lookup_erase _ _

/-! ### Later runs -/

theorem Erased.untouched (h : s.Erased e) (hu : Untouched e s t) : t.Erased e where
  inProgress hin := h.inProgress (hu.inProgress.mp hin)
  parked := hu.parked.trans h.parked
  latched hl := h.latched (hu.latched.mp hl)
  medium := hu.medium.trans h.medium
  alarm := hu.alarm.trans h.alarm
  delay := hu.delay.trans h.delay

theorem Erased.disconnect (h : s.Erased e) (u : String) :
    (s.onEndpointDisconnect u e).Erased e ∧ (s.onEndpointDisconnect u e).ecm = s.ecm := by
  obtain ⟨v, hv, heq⟩ := onEndpointDisconnect_cleared s u e
  have hm : v.endpointIdToBwuMedium.lookup e = none := hv.mediums ▸ h.medium
  rw [heq]
  split
  case isTrue =>
    refine ⟨hv.erased_revert (revertBwuMediumForEndpoint_unset hm u e), ?_⟩
    rw [revertBwuMediumForEndpoint_frame]
    exact hv.ecm
  case isFalse => exact ⟨hv.erased hm, hv.ecm⟩

theorem Erased.step {op : Op} (h : s.Erased e) (hop : op.Avoids e) (hst : Step env s op t) :
    t.Erased e ∧
      (¬ op.Registers e → t.getChannelForEndpoint e = s.getChannelForEndpoint e) := by
  by_cases htouch : s.Touches env e op
  case neg =>
    have hu := hst.untouched htouch
    exact ⟨h.untouched hu, fun _ => hu.registered⟩
  case pos =>
    obtain ⟨fuel, hst⟩ := hst
    cases htouch with
    | addressed hto =>
      cases hto with
      | initiateBwuForEndpoint m => exact absurd rfl hop
      | onIncomingFrame frame => exact absurd rfl hop
      | fireRetryAlarm =>
        -- The alarm is gone, so a late timer finds nothing to fire.
        have hgone : e ∉ s.retryUpgradeAlarms := AList.lookup_eq_none.mp h.alarm
        simp only [World.apply, World.fireRetryAlarm, if_pos hgone] at hst
        cases hst
        exact ⟨h, fun _ => rfl⟩
      | resetUpgradeForEndpoint =>
        cases hst
        refine ⟨⟨?_, h.parked, h.latched, h.medium, h.alarm, h.delay⟩, fun _ => rfl⟩
        exact fun hin => h.inProgress (AList.mem_erase.mp hin).2
      | onEndpointDisconnect u =>
        cases hst
        obtain ⟨he, hecm⟩ := h.disconnect u
        exact ⟨he, fun _ => getChannelForEndpoint_congr hecm e⟩
    | socket hc => exact absurd (introducedEndpoint_mem hc) h.inProgress
    | shutdown =>
      cases hst
      rw [shutdown_frame]
      exact ⟨⟨AList.notMem_empty e, rfl, AList.notMem_empty e, h.medium, rfl, rfl⟩, fun _ => rfl⟩
    | register c =>
      cases hst
      exact ⟨⟨h.inProgress, h.parked, h.latched, h.medium, h.alarm, h.delay⟩,
        fun hr => absurd (.register c) hr⟩
    | unregister =>
      cases hst
      exact ⟨⟨h.inProgress, h.parked, h.latched, h.medium, h.alarm, h.delay⟩,
        fun hr => absurd .unregister hr⟩

end

/-- A disconnect erases the endpoint, and until an upgrade of it is asked for or a frame of it
comes in, no operation of the manager brings it back or replaces its channel. -/
theorem disconnect_erases {env : Env} {s : World}
    (hflag : s.config.supportMultipleBwuMediums = true) (u e : String) :
    (s.onEndpointDisconnect u e).Erased e ∧
      ∀ t, Reach (Step env) (fun _ op => op.Avoids e) (s.onEndpointDisconnect u e) t →
        t.Erased e ∧ ∀ op v, op.Avoids e → ¬ op.Registers e → Step env t op v →
          v.getChannelForEndpoint e = t.getChannelForEndpoint e := by
  have herased := erased_onEndpointDisconnect hflag u e
  refine ⟨herased, fun t ht => ?_⟩
  have hreached : t.Erased e :=
    Reach.invariant (Erased e) herased (fun hs hop hst => (hs.step hop hst).1) ht
  exact ⟨hreached, fun op v hop hreg hst => (hreached.step hop hst).2 hreg⟩

def lateCalls : List Op :=
  [.fireRetryAlarm "E", .resetUpgradeForEndpoint "E", .onIncomingConnection 1]

theorem disconnect_erases_upgraded :
    ((scenario upgrade).onEndpointDisconnect "S_UPGRADE" "E").Erased "E" ∧
      (((scenario upgrade).onEndpointDisconnect "S_UPGRADE" "E").after reliable 3 lateCalls).Erased
        "E" := by
  obtain ⟨h, hlater⟩ := @disconnect_erases reliable (scenario upgrade) (by decide) "S_UPGRADE" "E"
  refine ⟨h, (hlater _ (reach_after lateCalls ?_)).1⟩
  have havoids : ∀ op ∈ lateCalls, op.Avoids "E" := by simp [lateCalls, Op.Avoids]
  exact fun i hi => havoids _ (List.getElem_mem hi)

end World

end Nearby.Bwu
