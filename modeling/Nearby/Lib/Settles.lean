import Mathlib.Logic.Relation

/-! Systems that come to rest: every run ends, and where it ends something holds. -/

namespace Nearby.Lib

open Relation

universe u

variable {S : Type u} {step : S → S → Prop} {Q Q' : S → Prop} {s s' t : S}

/-- No run from `s` goes on forever, and `Q` holds wherever one cannot go on. -/
structure Settles (step : S → S → Prop) (Q : S → Prop) (s : S) : Prop where
  ends : Acc (fun t s => step s t) s
  rests : ∀ {t}, ReflTransGen step s t → (∀ u, ¬ step t u) → Q t

theorem Settles.of_stuck (hstuck : ∀ t, ¬ step s t) (hq : Q s) : Settles step Q s where
  ends := .intro s fun t hst => absurd hst (hstuck t)
  rests hrun _ := by
    rcases hrun.cases_head with rfl | ⟨t, hst, -⟩
    · exact hq
    · exact absurd hst (hstuck t)

theorem Settles.mono (h : Settles step Q s) (hq : ∀ {t}, Q t → Q' t) : Settles step Q' s :=
  ⟨h.ends, fun hrun hstuck => hq (h.rests hrun hstuck)⟩

theorem Settles.of_steps (hgo : ∃ t, step s t) (h : ∀ t, step s t → Settles step Q t) :
    Settles step Q s where
  ends := .intro s fun t hst => (h t hst).ends
  rests hrun hstuck := by
    rcases hrun.cases_head with rfl | ⟨t, hst, hrun⟩
    · obtain ⟨t, hst⟩ := hgo
      exact absurd hst (hstuck t)
    · exact (h t hst).rests hrun hstuck

/-- `s` settles as `s'` does, where `Same` relates them and is kept by the steps of either. -/
theorem Settles.transfer {Same : S → S → Prop} (h : Settles step Q' s') (hs : Same s s')
    (forth : ∀ {s s' t}, Same s s' → step s t → ∃ t', step s' t' ∧ Same t t')
    (back : ∀ {s s' t'}, Same s s' → step s' t' → ∃ t, step s t ∧ Same t t')
    (hq : ∀ {t t'}, Same t t' → Q' t' → Q t) : Settles step Q s := by
  obtain ⟨hends, hrests⟩ := h
  induction hends generalizing s with
  | intro s' _ ih =>
    by_cases hgo : ∃ t, step s t
    case pos =>
      refine .of_steps hgo fun t hst => ?_
      obtain ⟨t', hst', ht⟩ := forth hs hst
      exact ih t' hst' ht fun hrun => hrests (.head hst' hrun)
    case neg =>
      refine .of_stuck (not_exists.mp hgo) (hq hs (hrests .refl fun t' hst' => ?_))
      obtain ⟨t, hst, -⟩ := back hs hst'
      exact hgo ⟨t, hst⟩

end Nearby.Lib
