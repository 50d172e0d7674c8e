import Nearby.Bwu.Simulation
import Nearby.Swap.Report

/-! The early LAST_WRITE: `successfully_upgraded_endpoints` remembers one that came before
the old channel was parked. -/

namespace Nearby.Bwu

open Proto Lib

/-- A LAST_WRITE for `e` was dispatched since `e` was last put in progress. -/
def heardLastWrite (e : String) : List Event → Bool
  | [] => false
  | .lastWriteDispatched e' :: tr => e' = e || heardLastWrite e tr
  | .started e' :: tr => e' ≠ e && heardLastWrite e tr
  | _ :: tr => heardLastWrite e tr

theorem heardLastWrite_of_heard (e : String) (tr : List Event)
    (h : Swap.Heard e (tr.filterMap absEvent)) : heardLastWrite e tr = true := by
  induction tr with
  | nil => exact h.elim
  | cons x tr ih =>
    cases x with
    | lastWriteDispatched e' =>
      rcases h with rfl | h
      · simp [heardLastWrite]
      · simp [heardLastWrite, ih h]
    | started e' =>
      obtain ⟨hne, h⟩ := h
      simp [heardLastWrite, hne, ih h]
    | createUpgraded _ _ _ _ result =>
      cases result with
      | none => exact ih h
      | some c => exact ih h
    | _ => exact ih h

namespace World

/-- `op` gives up no upgrade whose latch is set. -/
def DropsNoLatch (env : Env) (s : World) (op : Op) : Prop :=
  ∀ e ∈ s.successfullyUpgradedEndpoints, ¬ s.Abandons env e op

theorem latching {env : Env} {s : World} (h : ReachedBy env (DropsNoLatch env) s) :
    s.abs.Latching := by
  refine ReachedBy.lift Swap.State.Latching (fun u l => ∀ e, l = .leave e → e ∉ u.latched)
    (fun hu hl hen => hu.next hen hl) ?_ (fun config mediums id => ?_) h
  · rintro s op u l _ hok _ hocc e rfl hlatch
    obtain ⟨hab, hag⟩ := hocc.abandons
    rw [hag.latched] at hlatch
    exact hok e hlatch hab
  · rw [abs_new]
    exact ⟨Set.empty_subset _, nofun, nofun, fun _ => precedes_nil _ _⟩

/-- A latch is set only while the upgrade runs, and a SAFE_TO_CLOSE answers a LAST_WRITE of
the same attempt. -/
theorem safeToClose_answers_lastWrite {env : Env} {s : World}
    (h : ReachedBy env (DropsNoLatch env) s) :
    (∀ e ∈ s.successfullyUpgradedEndpoints, e ∈ s.inProgressUpgrades) ∧
      ∀ e c paused encrypted result later earlier,
        s.trace = later ++ .write (some e) c (.frame forBwuSafeToClose) paused encrypted result ::
          earlier → heardLastWrite e earlier = true := by
  have hl := latching h
  refine ⟨fun e he => hl.inProgress he, ?_⟩
  intro e c paused encrypted result later earlier ht
  have habs : s.abs.trace = later.filterMap absEvent ++
      .write (some e) c .safeToClose paused encrypted result.ok :: earlier.filterMap absEvent := by
    simp [abs, ht, absEvent]
  exact heardLastWrite_of_heard e earlier (hl.answers e _ _ _ habs rfl)

def earlyLastWrite : List Op :=
  [.initiateBwuForEndpoint "E" .wifiLan, .onIncomingFrame forBwuLastWrite "E",
    .onIncomingConnection 1]

theorem safeToClose_answers_early_lastWrite :
    ∃ later earlier, (scenario earlyLastWrite).trace =
        later ++ .write (some "E") 0 (.frame forBwuSafeToClose) false false .success :: earlier ∧
      heardLastWrite "E" earlier = true := by
  obtain ⟨later, earlier, ht⟩ := List.append_of_mem
    (show Event.write (some "E") 0 (.frame forBwuSafeToClose) false false .success ∈
      (scenario earlyLastWrite).trace by decide)
  refine ⟨later, earlier, ht,
    (safeToClose_answers_lastWrite (scenario_reached _ ?_)).2 _ _ _ _ _ _ _ ht⟩
  intro i hi e _ hab
  match i, hi with
  | 0, _ | 1, _ | 2, _ | 3, _ | 5, _ => cases hab
  | 4, _ =>
    cases hab with
    | failure _ h => cases eventOf_forBwuLastWrite.symm.trans h
    | refused h => cases eventOf_forBwuLastWrite.symm.trans h

/-- A reset leaves the latch behind: the next attempt answers a LAST_WRITE of the one
before it. -/
theorem safeToClose_answers_stale_latch :
    ¬ ∀ s, Reachable reliable s →
      (∀ e ∈ s.successfullyUpgradedEndpoints, e ∈ s.inProgressUpgrades) ∧
        ∀ e c paused encrypted result later earlier,
          s.trace = later ++ .write (some e) c (.frame forBwuSafeToClose) paused encrypted result ::
            earlier → heardLastWrite e earlier = true := by
  intro h
  have ht : (scenario (earlyLastWrite.take 2 ++ [.resetUpgradeForEndpoint "E"] ++
      upgrade.take 2)).trace =
      [] ++ .write (some "E") 0 (.frame forBwuSafeToClose) false false .success ::
        (scenario (earlyLastWrite.take 2 ++ [.resetUpgradeForEndpoint "E"] ++
          upgrade.take 2)).trace.tail := by decide
  have hfalse := (h _ (scenario_reachable _)).2 "E" 0 _ _ _ _ _ ht
  revert hfalse
  decide

end World

end Nearby.Bwu
