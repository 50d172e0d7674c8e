import Nearby.Lib.HashMap
import Nearby.Bwu.ServiceId

/-! `handler.rs`: the bookkeeping `BaseBwuHandler` puts around a medium handler.  Each
operation returns the services the medium handler is told to revert. -/

namespace Nearby.Bwu

open Lib

structure BaseBwuHandler where
  upgradeServiceIdToActiveEndpointIds : HashMap String (HashSet String) := ∅

namespace BaseBwuHandler

def Tracks (h : BaseBwuHandler) (u e : String) : Prop :=
  ∃ ids, h.upgradeServiceIdToActiveEndpointIds.lookup u = some ids ∧ e ∈ ids

/-- The part of `initialize_upgraded_medium_for_endpoint` after the medium handler
returned a non-empty frame. -/
def recordActive (h : BaseBwuHandler) (upgradeServiceId endpointId : String) : BaseBwuHandler :=
  { upgradeServiceIdToActiveEndpointIds :=
      h.upgradeServiceIdToActiveEndpointIds.insert upgradeServiceId
        (((h.upgradeServiceIdToActiveEndpointIds.lookup upgradeServiceId).getD ∅).insert
          endpointId ()) }

def revertInitiatorState (h : BaseBwuHandler) : List String × BaseBwuHandler :=
  (h.upgradeServiceIdToActiveEndpointIds.keys, {})

def revertInitiatorStateForEndpoint (h : BaseBwuHandler) (upgradeServiceId endpointId : String) :
    List String × BaseBwuHandler :=
  if ¬ isInitiatorUpgradeServiceId upgradeServiceId then ([], h)
  else
    match h.upgradeServiceIdToActiveEndpointIds.lookup upgradeServiceId with
    | some ids =>
      if HashMap.len ids = 0 then ([], h)
      else if HashMap.len (ids.erase endpointId) = 0 then
        ([upgradeServiceId],
          { upgradeServiceIdToActiveEndpointIds :=
              h.upgradeServiceIdToActiveEndpointIds.erase upgradeServiceId })
      else
        ([],
          { upgradeServiceIdToActiveEndpointIds :=
              h.upgradeServiceIdToActiveEndpointIds.insert upgradeServiceId
                (ids.erase endpointId) })
    | none => ([], h)

def revertResponderState (h : BaseBwuHandler) (serviceId : String) :
    List String × BaseBwuHandler :=
  ([serviceId], h)

theorem tracks_recordActive {h : BaseBwuHandler} {u u' e e' : String} :
    (h.recordActive u e).Tracks u' e' ↔ (u' = u ∧ e' = e) ∨ h.Tracks u' e' := by
  simp only [Tracks, recordActive, HashMap.lookup_insert_eq]
  by_cases hu : u' = u
  · subst hu
    cases hl : h.upgradeServiceIdToActiveEndpointIds.lookup u' with
    | none => simp [-AList.insert_empty, AList.mem_insert]
    | some ids => simp [AList.mem_insert]
  · simp [hu]

theorem tracks_iff {h : BaseBwuHandler} {u e : String} {ids : HashSet String}
    (hids : h.upgradeServiceIdToActiveEndpointIds.lookup u = some ids) :
    h.Tracks u e ↔ e ∈ ids := by
  simp [Tracks, hids]

theorem tracks_revertInitiatorStateForEndpoint {h : BaseBwuHandler} {u u' e e' : String} :
    (h.revertInitiatorStateForEndpoint u e).2.Tracks u' e' ↔
      h.Tracks u' e' ∧ ¬ (isInitiatorUpgradeServiceId u = true ∧ u' = u ∧ e' = e) := by
  rw [revertInitiatorStateForEndpoint]
  split
  case isTrue hu => simp [hu]
  case isFalse hu =>
    have hu := not_not.mp hu
    split
    case h_2 hids =>
      refine ⟨fun ht => ⟨ht, ?_⟩, And.left⟩
      rintro ⟨-, rfl, rfl⟩
      obtain ⟨_, hids', -⟩ := ht
      cases hids.symm.trans hids'
    case h_1 ids hids =>
      split
      case isTrue hlen =>
        refine ⟨fun ht => ⟨ht, ?_⟩, And.left⟩
        rintro ⟨-, rfl, rfl⟩
        exact HashMap.not_mem_of_len_zero hlen ((tracks_iff hids).mp ht)
      case isFalse =>
        by_cases hu' : u' = u
        · subst hu'
          rw [tracks_iff hids]
          split
          case isTrue hlen =>
            refine ⟨?_, ?_⟩
            · rintro ⟨_, hl, -⟩
              simp at hl
            · rintro ⟨hmem, hne⟩
              refine absurd (AList.mem_erase.mpr ⟨?_, hmem⟩) (HashMap.not_mem_of_len_zero hlen)
              exact fun he => hne ⟨hu, rfl, he⟩
          case isFalse => simp [Tracks, AList.mem_erase, hu, and_comm]
        · split
          case isTrue => simp [Tracks, hu']
          case isFalse => simp [Tracks, hu']

theorem reverted_revertInitiatorStateForEndpoint (h : BaseBwuHandler) (u e : String) :
    ((h.revertInitiatorStateForEndpoint u e).1 = [u] ∧ isInitiatorUpgradeServiceId u = true ∧
        h.Tracks u e ∧ ∀ e', h.Tracks u e' → e' = e) ∨
      ((h.revertInitiatorStateForEndpoint u e).1 = [] ∧
        ¬ (isInitiatorUpgradeServiceId u = true ∧ h.Tracks u e ∧
          ∀ e', h.Tracks u e' → e' = e)) := by
  rw [revertInitiatorStateForEndpoint]
  split
  case isTrue hu => exact .inr ⟨rfl, fun h => hu h.1⟩
  case isFalse hu =>
    split
    case h_2 hids =>
      refine .inr ⟨rfl, ?_⟩
      rintro ⟨-, ⟨_, hids', -⟩, -⟩
      cases hids.symm.trans hids'
    case h_1 ids hids =>
      simp only [tracks_iff hids]
      split
      case isTrue hlen =>
        exact .inr ⟨rfl, fun h => HashMap.not_mem_of_len_zero hlen h.2.1⟩
      case isFalse hlen =>
        obtain ⟨e₀, he₀⟩ := HashMap.exists_mem_of_len_ne_zero hlen
        split
        case isTrue hempty =>
          have honly : ∀ e', e' ∈ ids → e' = e := by
            intro e' hmem
            by_contra hne
            exact HashMap.not_mem_of_len_zero hempty (AList.mem_erase.mpr ⟨hne, hmem⟩)
          exact .inl ⟨rfl, not_not.mp hu, honly e₀ he₀ ▸ he₀, honly⟩
        case isFalse hmore =>
          obtain ⟨e', he'⟩ := HashMap.exists_mem_of_len_ne_zero hmore
          obtain ⟨hne, hmem⟩ := AList.mem_erase.mp he'
          exact .inr ⟨rfl, fun h => hne (h.2.2 e' hmem)⟩

end BaseBwuHandler

end Nearby.Bwu
