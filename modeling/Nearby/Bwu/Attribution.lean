import Nearby.Bwu.Actions

/-! Which endpoint a new socket is for.  The introduction names one, and it counts while
that endpoint's upgrade is in progress; else the only upgrade in progress gets the socket. -/

namespace Nearby.Bwu

open Proto Lib

namespace World

def introducedId (env : Env) (s : World) (c : ChannelId) : Option String :=
  match env.read (.incoming c :: s.trace) c with
  | .error _ => none
  | .ok data => (decodeClientIntroduction env.prost data).map (·.endpointId.getD "")

theorem introducedEndpoint_attributed {env : Env} {s : World} {c : ChannelId} {X e : String}
    (hX : s.introducedId env c = some X) (he : s.introducedEndpoint env c = some e) :
    s.attributedEndpoint X = some e := by
  rw [introducedId] at hX
  rw [introducedEndpoint] at he
  cases hr : env.read (.incoming c :: s.trace) c with
  | error => simp [hr] at hX
  | ok data =>
    simp only [hr] at hX he
    cases hd : decodeClientIntroduction env.prost data with
    | none => simp [hd] at hX
    | some introduction =>
      simp only [hd, Option.map_some, Option.some.injEq, Option.bind_some] at hX he
      rw [hX] at he
      split at he
      case isTrue => exact he
      case isFalse => cases he

theorem attributedEndpoint_cases {s : World} {X e : String} (h : s.attributedEndpoint X = some e) :
    (X ∈ s.inProgressUpgrades ∧ e = X) ∨
      (X ∉ s.inProgressUpgrades ∧ ∀ e', e' ∈ s.inProgressUpgrades ↔ e' = e) := by
  have hmem := attributedEndpoint_mem h
  simp only [attributedEndpoint] at h
  split at h
  case isTrue hX =>
    cases h
    exact .inl ⟨hX, rfl⟩
  case isFalse hX =>
    split at h
    case isFalse => cases h
    case isTrue hlen =>
      refine .inr ⟨hX, fun e' => ⟨fun he' => HashSet.eq_of_len_one hlen he' hmem, ?_⟩⟩
      rintro rfl
      exact hmem

theorem onIncomingConnection_untouched {env : Env} {s : World} {c : ChannelId} {e : String}
    (h : s.introducedEndpoint env c ≠ some e) : Untouched e s (s.onIncomingConnection env c) := by
  have hs := onIncomingConnection_socket env s c
  generalize s.onIncomingConnection env c = t at hs
  cases hs with
  | unreadable | unwritable | unattributed => exact ⟨Iff.rfl, rfl, Iff.rfl, rfl, rfl, rfl, rfl⟩
  | attributed e' b he' =>
    have hne : e ≠ e' := by
      rintro rfl
      exact h he'
    have hcancel : Untouched e s ((s.acknowledged env c).cancelRetryUpgradeAlarm e') :=
      ⟨Iff.rfl, rfl, Iff.rfl, rfl, AList.lookup_erase_ne hne, rfl, rfl⟩
    have hrun : Actions env e' (fun _ => True) False
        ((s.acknowledged env c).cancelRetryUpgradeAlarm e')
        (((s.acknowledged env c).cancelRetryUpgradeAlarm e').runUpgradeProtocol env e' c b) :=
      runUpgradeProtocol_actions ⟨fun _ => trivial, fun _ => trivial⟩ trivial b
    exact hcancel.trans (hrun.untouched hne)

/-- A socket that introduces `X` changes nothing but what is `X`'s while `X`'s upgrade is in
progress, else nothing but what is of the only upgrade in progress, else nothing. -/
theorem socket_changes_attributed_endpoint {env : Env} {s : World} {c : ChannelId} {X : String}
    (hX : s.introducedId env c = some X) :
    (X ∈ s.inProgressUpgrades → ∀ e, e ≠ X → Untouched e s (s.onIncomingConnection env c)) ∧
      (X ∉ s.inProgressUpgrades →
        (∀ Y, (∀ e, e ∈ s.inProgressUpgrades ↔ e = Y) →
          ∀ e, e ≠ Y → Untouched e s (s.onIncomingConnection env c)) ∧
        ((¬ ∃ Y, ∀ e, e ∈ s.inProgressUpgrades ↔ e = Y) →
          ∀ e, Untouched e s (s.onIncomingConnection env c))) := by
  refine ⟨fun hin e hne => ?_, fun hin => ⟨fun Y hY e hne => ?_, fun hnone e => ?_⟩⟩
  · apply onIncomingConnection_untouched
    intro he
    rcases attributedEndpoint_cases (introducedEndpoint_attributed hX he) with ⟨-, h⟩ | ⟨h, -⟩
    · exact hne h
    · exact h hin
  · apply onIncomingConnection_untouched
    intro he
    exact hne ((hY e).mp (introducedEndpoint_mem he))
  · apply onIncomingConnection_untouched
    intro he
    rcases attributedEndpoint_cases (introducedEndpoint_attributed hX he) with ⟨h, -⟩ | ⟨-, h⟩
    · exact hin h
    · exact hnone ⟨e, h⟩

theorem socket_changes_introduced_endpoint :
    Untouched "X" (scenario ([.initiateBwuForEndpoint "E" .wifiLan] ++ connect "X" 3))
      ((scenario ([.initiateBwuForEndpoint "E" .wifiLan] ++ connect "X" 3)).onIncomingConnection
        reliable 1) :=
  (socket_changes_attributed_endpoint (X := "E") (by decide)).1 (by decide) "X" (by decide)

/-- "X" is registered and introduces itself; its socket takes the place of "E"'s channel,
because "E" is the only one in progress. -/
theorem socket_changes_other_endpoint :
    ¬ ∀ s, Reachable reliable s → ∀ c X, s.introducedId reliable c = some X →
      s.getChannelForEndpoint X ≠ none → ∀ e, e ≠ X →
        (s.onIncomingConnection reliable c).getChannelForEndpoint e = s.getChannelForEndpoint e ∧
        (s.onIncomingConnection reliable c).previousEndpointChannels.lookup e =
          s.previousEndpointChannels.lookup e ∧
        (e ∈ (s.onIncomingConnection reliable c).successfullyUpgradedEndpoints ↔
          e ∈ s.successfullyUpgradedEndpoints) ∧
        (s.onIncomingConnection reliable c).retryUpgradeAlarms.lookup e =
          s.retryUpgradeAlarms.lookup e := by
  intro h
  have hs := h (scenario ([.initiateBwuForEndpoint "E" .wifiLan] ++ connect "X" 3))
    (scenario_reachable _) 7 "X" (by decide) (by decide) "E" (by decide)
  revert hs
  decide

end World

end Nearby.Bwu
