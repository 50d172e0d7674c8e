import Nearby.Bwu.Handler
import Nearby.Lib.Trace
import Nearby.Wire.Proto

/-! `BaseBwuHandler` as a ledger: what its map holds after any calls, in any order, and how
often the medium handler was told to revert a service. -/

namespace Nearby.Bwu

open Lib

/-- A call of the handler.  An initialisation comes with the frame that the medium handler
answers it with. -/
inductive HandlerCall : Type
  | initializeUpgradedMediumForEndpoint (serviceId endpointId : String) (frame : Bytes)
  | revertInitiatorState
  | revertInitiatorStateForEndpoint (upgradeServiceId endpointId : String)
  | revertResponderState (serviceId : String)
  deriving DecidableEq

namespace HandlerCall

/-- The service is named, and a responder's is a raw one. -/
def WellFormed : HandlerCall → Prop
  | .initializeUpgradedMediumForEndpoint serviceId _ _ => serviceId ≠ ""
  | .revertResponderState serviceId => isInitiatorUpgradeServiceId serviceId = false
  | _ => True

def Opens (u e : String) : HandlerCall → Prop
  | .initializeUpgradedMediumForEndpoint serviceId endpointId frame =>
    wrapInitiatorUpgradeServiceId serviceId = u ∧ endpointId = e ∧ frame ≠ []
  | _ => False

def Closes (u e : String) (x : HandlerCall) : Prop :=
  x = .revertInitiatorStateForEndpoint u e ∨ x = .revertInitiatorState

end HandlerCall

namespace BaseBwuHandler

def initializeUpgradedMediumForEndpoint (h : BaseBwuHandler) (serviceId endpointId : String)
    (frame : Bytes) : BaseBwuHandler :=
  if frame = [] then h else h.recordActive (wrapInitiatorUpgradeServiceId serviceId) endpointId

/-- The services the medium handler is told to revert, and the handler after the call. -/
def call (h : BaseBwuHandler) : HandlerCall → List String × BaseBwuHandler
  | .initializeUpgradedMediumForEndpoint serviceId endpointId frame =>
    ([], h.initializeUpgradedMediumForEndpoint serviceId endpointId frame)
  | .revertInitiatorState => h.revertInitiatorState
  | .revertInitiatorStateForEndpoint u e => h.revertInitiatorStateForEndpoint u e
  | .revertResponderState serviceId => h.revertResponderState serviceId

/-- The handler after the calls, the newest of which is the first. -/
def after : List HandlerCall → BaseBwuHandler
  | [] => {}
  | x :: calls => ((after calls).call x).2

def isActive (h : BaseBwuHandler) (u : String) : Bool :=
  (h.upgradeServiceIdToActiveEndpointIds.lookup u).any fun ids => HashMap.len ids ≠ 0

def reverts (u : String) : List HandlerCall → Nat
  | [] => 0
  | x :: calls => ((after calls).call x).1.count u + reverts u calls

/-- Some successful initialisation was not followed by a revert. -/
def Held (u e : String) (calls : List HandlerCall) : Prop :=
  ∃ later x earlier, calls = later ++ x :: earlier ∧ x.Opens u e ∧ ∀ y ∈ later, ¬ y.Closes u e

/-! ### The map and the history -/

def Tidy (h : BaseBwuHandler) : Prop :=
  ∀ u ids, h.upgradeServiceIdToActiveEndpointIds.lookup u = some ids →
    isInitiatorUpgradeServiceId u = true ∧ ∃ e, e ∈ ids

theorem isActive_iff {h : BaseBwuHandler} {u : String} :
    h.isActive u = true ↔ ∃ e, h.Tracks u e := by
  simp only [isActive, Option.any_eq_true, decide_eq_true_eq]
  constructor
  · rintro ⟨ids, hids, hlen⟩
    obtain ⟨e, he⟩ := HashMap.exists_mem_of_len_ne_zero hlen
    exact ⟨e, ids, hids, he⟩
  · rintro ⟨e, ids, hids, he⟩
    exact ⟨ids, hids, fun hlen => HashMap.not_mem_of_len_zero hlen he⟩

theorem Tidy.recordActive {h : BaseBwuHandler} (ht : h.Tidy) {u : String}
    (hu : isInitiatorUpgradeServiceId u = true) (e : String) : (h.recordActive u e).Tidy := by
  intro u' ids hids
  rw [BaseBwuHandler.recordActive, HashMap.lookup_insert_eq] at hids
  split at hids
  case isTrue heq =>
    cases hids
    exact ⟨heq ▸ hu, e, AList.mem_insert _ |>.mpr (.inl rfl)⟩
  case isFalse => exact ht u' ids hids

theorem Tidy.revertInitiatorStateForEndpoint {h : BaseBwuHandler} (ht : h.Tidy) (u e : String) :
    (h.revertInitiatorStateForEndpoint u e).2.Tidy := by
  intro u' ids' hids'
  rw [BaseBwuHandler.revertInitiatorStateForEndpoint] at hids'
  split at hids'
  case isTrue => exact ht u' ids' hids'
  case isFalse =>
    split at hids'
    case h_2 => exact ht u' ids' hids'
    case h_1 ids hids =>
      split at hids'
      case isTrue => exact ht u' ids' hids'
      case isFalse =>
        split at hids'
        case isTrue =>
          rw [HashMap.lookup_erase_eq] at hids'
          split at hids'
          case isTrue => cases hids'
          case isFalse => exact ht u' ids' hids'
        case isFalse hlen =>
          rw [HashMap.lookup_insert_eq] at hids'
          split at hids'
          case isTrue heq =>
            cases hids'
            exact ⟨heq ▸ (ht u ids hids).1, HashMap.exists_mem_of_len_ne_zero hlen⟩
          case isFalse => exact ht u' ids' hids'

theorem Tidy.call {h : BaseBwuHandler} (ht : h.Tidy) {x : HandlerCall} (hx : x.WellFormed) :
    (h.call x).2.Tidy := by
  cases x with
  | initializeUpgradedMediumForEndpoint serviceId e frame =>
    rw [BaseBwuHandler.call, initializeUpgradedMediumForEndpoint]
    split
    case isTrue => exact ht
    case isFalse => exact ht.recordActive (isInitiator_wrap hx) e
  | revertInitiatorState => exact nofun
  | revertInitiatorStateForEndpoint u e => exact ht.revertInitiatorStateForEndpoint u e
  | revertResponderState => exact ht

theorem tidy_after {calls : List HandlerCall} (h : ∀ x ∈ calls, x.WellFormed) :
    (after calls).Tidy := by
  induction calls with
  | nil => exact nofun
  | cons x calls ih =>
    rw [List.forall_mem_cons] at h
    exact (ih h.2).call h.1

theorem Tidy.tracks_call {h : BaseBwuHandler} (ht : h.Tidy) (x : HandlerCall) (u e : String) :
    (h.call x).2.Tracks u e ↔ x.Opens u e ∨ (h.Tracks u e ∧ ¬ x.Closes u e) := by
  cases x with
  | initializeUpgradedMediumForEndpoint serviceId e' frame =>
    rw [BaseBwuHandler.call, initializeUpgradedMediumForEndpoint]
    by_cases hf : frame = []
    · simp [hf, HandlerCall.Opens, HandlerCall.Closes]
    · simp [hf, HandlerCall.Opens, HandlerCall.Closes, tracks_recordActive, eq_comm]
  | revertInitiatorState =>
    simp [BaseBwuHandler.call, BaseBwuHandler.revertInitiatorState, Tracks, HandlerCall.Opens,
      HandlerCall.Closes]
  | revertInitiatorStateForEndpoint u' e' =>
    rw [BaseBwuHandler.call, tracks_revertInitiatorStateForEndpoint]
    simp only [HandlerCall.Opens, HandlerCall.Closes, false_or, reduceCtorEq, or_false,
      HandlerCall.revertInitiatorStateForEndpoint.injEq]
    refine and_congr_right fun htr => not_congr ⟨?_, ?_⟩
    · rintro ⟨-, rfl, rfl⟩
      exact ⟨rfl, rfl⟩
    · rintro ⟨rfl, rfl⟩
      obtain ⟨ids, hids, -⟩ := htr
      exact ⟨(ht _ ids hids).1, rfl, rfl⟩
  | revertResponderState =>
    simp [BaseBwuHandler.call, revertResponderState, HandlerCall.Opens, HandlerCall.Closes]

theorem held_cons (u e : String) (x : HandlerCall) (calls : List HandlerCall) :
    Held u e (x :: calls) ↔ x.Opens u e ∨ (Held u e calls ∧ ¬ x.Closes u e) := by
  constructor
  · rintro ⟨later, y, earlier, hcalls, hopen, hlater⟩
    cases later with
    | nil =>
      cases hcalls
      exact .inl hopen
    | cons z later =>
      cases hcalls
      rw [List.forall_mem_cons] at hlater
      exact .inr ⟨⟨later, y, earlier, rfl, hopen, hlater.2⟩, hlater.1⟩
  · rintro (hopen | ⟨⟨later, y, earlier, rfl, hopen, hlater⟩, hx⟩)
    · exact ⟨[], x, calls, rfl, hopen, nofun⟩
    · exact ⟨x :: later, y, earlier, rfl, hopen, List.forall_mem_cons.mpr ⟨hx, hlater⟩⟩

theorem tracks_iff_held {calls : List HandlerCall} (h : ∀ x ∈ calls, x.WellFormed) (u e : String) :
    (after calls).Tracks u e ↔ Held u e calls := by
  induction calls with
  | nil =>
    constructor
    · rintro ⟨_, hids, -⟩
      cases hids
    · rintro ⟨later, x, earlier, hcalls, -⟩
      simp at hcalls
  | cons x calls ih =>
    rw [List.forall_mem_cons] at h
    rw [held_cons, after, (tidy_after h.2).tracks_call, ih h.2]

/-! ### What the medium handler is told -/

def Empties (h : BaseBwuHandler) (x : HandlerCall) (u : String) : Prop :=
  h.isActive u = true ∧ (h.call x).2.isActive u = false

instance (h : BaseBwuHandler) (x : HandlerCall) (u : String) : Decidable (h.Empties x u) :=
  inferInstanceAs (Decidable (_ ∧ _))

theorem not_empties_of_keeps {h : BaseBwuHandler} {x : HandlerCall} {u : String}
    (hkeep : ∀ e, h.Tracks u e → ∃ e', (h.call x).2.Tracks u e') : ¬ h.Empties x u := by
  rintro ⟨hact, hafter⟩
  obtain ⟨e, he⟩ := isActive_iff.mp hact
  rw [isActive_iff.mpr (hkeep e he)] at hafter
  cases hafter

theorem count_revertInitiatorState {h : BaseBwuHandler} (ht : h.Tidy) (u : String) :
    h.revertInitiatorState.1.count u = if h.isActive u = true then 1 else 0 := by
  have hmem : u ∈ h.revertInitiatorState.1 ↔ h.isActive u = true := by
    rw [isActive_iff]
    constructor
    · intro hu
      obtain ⟨ids, hids⟩ := HashMap.lookup_of_mem (AList.mem_keys.mpr hu)
      obtain ⟨e, he⟩ := (ht u ids hids).2
      exact ⟨e, ids, hids, he⟩
    · rintro ⟨e, ids, hids, -⟩
      exact AList.mem_keys.mp (HashMap.mem_of_lookup hids)
  have hnodup : h.revertInitiatorState.1.Nodup := h.upgradeServiceIdToActiveEndpointIds.keys_nodup
  by_cases hu : u ∈ h.revertInitiatorState.1
  · rw [List.count_eq_one_of_mem hnodup hu, if_pos (hmem.mp hu)]
  · rw [List.count_eq_zero_of_not_mem hu, if_neg (mt hmem.mpr hu)]

theorem Tidy.count_call {h : BaseBwuHandler} (ht : h.Tidy) {x : HandlerCall} (hx : x.WellFormed)
    {u : String} (hu : isInitiatorUpgradeServiceId u = true) :
    (h.call x).1.count u = if h.Empties x u then 1 else 0 := by
  cases x with
  | initializeUpgradedMediumForEndpoint serviceId e frame =>
    rw [if_neg (not_empties_of_keeps fun e' he' => ⟨e', ?_⟩)]
    · rfl
    · rw [ht.tracks_call]
      exact .inr ⟨he', by simp [HandlerCall.Closes]⟩
  | revertInitiatorState =>
    have hempty : (h.call .revertInitiatorState).2.isActive u = false := rfl
    rw [BaseBwuHandler.call, count_revertInitiatorState ht]
    simp [Empties, hempty]
  | revertInitiatorStateForEndpoint u' e =>
    rcases h.reverted_revertInitiatorStateForEndpoint u' e with ⟨hr, hu', he, honly⟩ | ⟨hr, hnot⟩
    · rw [BaseBwuHandler.call, hr]
      by_cases heq : u' = u
      · subst heq
        rw [if_pos, List.count_cons_self, List.count_nil]
        refine ⟨isActive_iff.mpr ⟨e, he⟩, Bool.eq_false_iff.mpr fun hafter => ?_⟩
        obtain ⟨e', he'⟩ := isActive_iff.mp hafter
        rw [BaseBwuHandler.call, tracks_revertInitiatorStateForEndpoint] at he'
        exact he'.2 ⟨hu, rfl, honly e' he'.1⟩
      · rw [if_neg (not_empties_of_keeps fun e' he' => ⟨e', ?_⟩)]
        · simp [heq]
        · rw [BaseBwuHandler.call, tracks_revertInitiatorStateForEndpoint]
          exact ⟨he', fun hclose => heq hclose.2.1.symm⟩
    · rw [BaseBwuHandler.call, hr, if_neg, List.count_nil]
      -- Somebody else is left in the set, or it is another service's.
      apply not_empties_of_keeps
      intro e' he'
      by_contra hgone
      have hgone : ∀ d, h.Tracks u d → isInitiatorUpgradeServiceId u' = true ∧ u = u' ∧ d = e := by
        intro d hd
        by_contra hclose
        exact hgone ⟨d, tracks_revertInitiatorStateForEndpoint.mpr ⟨hd, hclose⟩⟩
      obtain ⟨hu', rfl, rfl⟩ := hgone e' he'
      exact hnot ⟨hu', he', fun d hd => (hgone d hd).2.2⟩
  | revertResponderState serviceId =>
    have hne : serviceId ≠ u := by
      rintro rfl
      rw [HandlerCall.WellFormed, hu] at hx
      cases hx
    rw [if_neg (not_empties_of_keeps fun e he => ⟨e, he⟩)]
    simp [BaseBwuHandler.call, revertResponderState, hne]

theorem reverts_eq_falls {calls : List HandlerCall} (h : ∀ x ∈ calls, x.WellFormed) {u : String}
    (hu : isInitiatorUpgradeServiceId u = true) :
    reverts u calls = falls (fun calls => (after calls).isActive u) calls := by
  induction calls with
  | nil => rfl
  | cons x calls ih =>
    rw [List.forall_mem_cons] at h
    rw [reverts, falls, ih h.2, (tidy_after h.2).count_call h.1 hu]
    rfl

/-- After any calls: the keys are wrapped ids with somebody in their sets; an endpoint is in a
set while an initialisation of it stands; the medium handler is told to revert a service when
its set becomes empty and at no other time, so what was opened was reverted or is open. -/
theorem handler_is_ledger (calls : List HandlerCall) (h : ∀ x ∈ calls, x.WellFormed) :
    (after calls).Tidy ∧ (∀ u e, (after calls).Tracks u e ↔ Held u e calls) ∧
      ∀ u, isInitiatorUpgradeServiceId u = true →
        (∀ later x earlier, calls = later ++ x :: earlier →
          ((after earlier).call x).1.count u = if (after earlier).Empties x u then 1 else 0) ∧
        rises (fun calls => (after calls).isActive u) calls =
          reverts u calls + if (after calls).isActive u = true then 1 else 0 := by
  refine ⟨tidy_after h, tracks_iff_held h, fun u hu => ⟨?_, ?_⟩⟩
  · rintro later x earlier rfl
    rw [List.forall_mem_append, List.forall_mem_cons] at h
    exact (tidy_after h.2.2).count_call h.2.1 hu
  · rw [reverts_eq_falls h hu, rises_eq]
    rfl

theorem handler_is_ledger_for_two :
    (after [.revertInitiatorStateForEndpoint "A_UPGRADE" "E",
        .initializeUpgradedMediumForEndpoint "A_UPGRADE" "X" [1],
        .initializeUpgradedMediumForEndpoint "A" "E" [1]]).Tracks "A_UPGRADE" "X" ∧
      rises (fun calls => (after calls).isActive "A_UPGRADE")
        [.revertInitiatorStateForEndpoint "A_UPGRADE" "E",
          .initializeUpgradedMediumForEndpoint "A_UPGRADE" "X" [1],
          .initializeUpgradedMediumForEndpoint "A" "E" [1]] = 1 := by
  have h := handler_is_ledger [.revertInitiatorStateForEndpoint "A_UPGRADE" "E",
    .initializeUpgradedMediumForEndpoint "A_UPGRADE" "X" [1],
    .initializeUpgradedMediumForEndpoint "A" "E" [1]] (by simp [HandlerCall.WellFormed])
  refine ⟨(h.2.1 "A_UPGRADE" "X").mpr ?_, ?_⟩
  · refine ⟨[_], _, [_], rfl, ⟨by decide, rfl, by decide⟩, ?_⟩
    simp [HandlerCall.Closes]
  · rw [(h.2.2 "A_UPGRADE" (by decide)).2]
    decide

end BaseBwuHandler

end Nearby.Bwu
