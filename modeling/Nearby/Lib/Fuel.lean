import Mathlib.Data.Fintype.Card
import Mathlib.Data.Fintype.EquivFin
import Mathlib.Logic.Relation

/-! Programs that go round and round on fuel, one unit for each round. -/

namespace Nearby.Lib

open Relation

universe u v

variable {S : Type u} {R : Type v} {run : Nat → S → R} {next : S → S → Prop} {out : R} {s : S}

/-- `run` goes from state to state by `next` until there is no next one; without fuel it gives
`out`, which is no result. -/
structure Fuelled (run : Nat → S → R) (next : S → S → Prop) (out : R) : Prop where
  dry : ∀ s, run 0 s = out
  round : ∀ {s t}, next s t → ∀ n, run (n + 1) s = run n t
  halt : ∀ {s}, (∀ t, ¬ next s t) → ∃ r, r ≠ out ∧ ∀ n, run (n + 1) s = r

theorem Fuelled.ends (h : Fuelled run next out) (hacc : Acc (fun t s => next s t) s) :
    ∃ n, run n s ≠ out := by
  induction hacc with
  | intro s _ ih =>
    by_cases hgo : ∃ t, next s t
    · obtain ⟨t, hst⟩ := hgo
      obtain ⟨n, hn⟩ := ih t hst
      exact ⟨n + 1, by rwa [h.round hst]⟩
    · obtain ⟨r, hr, hrun⟩ := h.halt (not_exists.mp hgo)
      exact ⟨1, by rwa [hrun]⟩

theorem Fuelled.never (h : Fuelled run next out) (Inv : S → Prop)
    (hinv : ∀ {s}, Inv s → ∃ t, next s t ∧ Inv t) (hs : Inv s) (n : Nat) : run n s = out := by
  induction n generalizing s with
  | zero => exact h.dry s
  | succ n ih =>
    obtain ⟨t, hst, ht⟩ := hinv hs
    rw [h.round hst, ih ht]

theorem Fuelled.last (h : Fuelled run next out) {n : Nat} (hrun : run n s ≠ out) :
    ∃ t, ReflTransGen next s t ∧ (∀ u, ¬ next t u) ∧ ∀ k, run (k + 1) t = run n s := by
  induction n generalizing s with
  | zero => exact absurd (h.dry s) hrun
  | succ n ih =>
    by_cases hgo : ∃ t, next s t
    · obtain ⟨t, hst⟩ := hgo
      rw [h.round hst] at hrun ⊢
      obtain ⟨u, htu, hstuck, hu⟩ := ih hrun
      exact ⟨u, .head hst htu, hstuck, hu⟩
    · obtain ⟨r, -, hr⟩ := h.halt (not_exists.mp hgo)
      exact ⟨s, .refl, not_exists.mp hgo, fun k => by rw [hr, hr]⟩

theorem wellFounded_of_acyclic {α : Type u} [Finite α] {r : α → α → Prop}
    (h : ∀ a, ¬ TransGen r a a) : WellFounded fun b a => r a b := by
  have htrans : IsTrans α fun b a => TransGen r a b := ⟨fun _ _ _ hab hbc => hbc.trans hab⟩
  have hirrefl : Std.Irrefl fun b a => TransGen r a b := ⟨h⟩
  have hwf : WellFounded fun b a => TransGen r a b := Finite.wellFounded_of_trans_of_irrefl _
  exact Subrelation.wf (fun hab => TransGen.single hab) hwf

end Nearby.Lib
