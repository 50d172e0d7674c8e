import Mathlib.Logic.Relation

/-! Labelled transition systems whose steps may be held to a condition. -/

namespace Nearby.Lib

universe u v

variable {S : Type u} {A : Type v}

def Guarded (step : S → A → S → Prop) (ok : S → A → Prop) (s t : S) : Prop :=
  ∃ a, ok s a ∧ step s a t

/-- The states reached from `s₀` by runs all of whose steps meet `ok`. -/
abbrev Reach (step : S → A → S → Prop) (ok : S → A → Prop) (s₀ : S) : S → Prop :=
  Relation.ReflTransGen (Guarded step ok) s₀

variable {step : S → A → S → Prop} {ok ok' : S → A → Prop} {s₀ s : S}

theorem Reach.invariant (Inv : S → Prop) (h₀ : Inv s₀)
    (hs : ∀ {s a t}, Inv s → ok s a → step s a t → Inv t)
    (h : Reach step ok s₀ s) : Inv s := by
  induction h with
  | refl => exact h₀
  | tail _ hst ih =>
    obtain ⟨a, ha, hst⟩ := hst
    exact hs ih ha hst

theorem Reach.snoc {t u : S} {a : A} (h : Reach step ok s t) (ha : ok t a) (hu : step t a u) :
    Reach step ok s u :=
  h.tail ⟨a, ha, hu⟩

def Admits (f : S → A → S) (ok : S → A → Prop) : S → List A → Prop
  | _, [] => True
  | s, a :: as => ok s a ∧ Admits f ok (f s a) as

theorem reach_foldl {f : S → A → S} (as : List A) (h : Admits f ok s as) :
    Reach (fun s a t => f s a = t) ok s (as.foldl f s) := by
  induction as generalizing s with
  | nil => exact .refl
  | cons a as ih => exact .head ⟨a, h.1, rfl⟩ (ih h.2)

theorem exists_stuck {next : S → S → Prop} (h : Acc (fun t s => next s t) s) :
    ∃ t, Relation.ReflTransGen next s t ∧ ∀ u, ¬ next t u := by
  induction h with
  | intro s _ ih =>
    by_cases hgo : ∃ t, next s t
    · obtain ⟨t, hst⟩ := hgo
      obtain ⟨u, hrun, hstuck⟩ := ih t hst
      exact ⟨u, .head hst hrun, hstuck⟩
    · exact ⟨s, .refl, fun t hst => hgo ⟨t, hst⟩⟩

/-- An invariant of an abstract system holds along every run of a system that refines it:
`occurs s a` says which abstract steps the concrete step `a` of `s` may go through. -/
theorem Reach.lift {T B : Type*} {step' : T → B → T → Prop} {abs : S → T}
    {occurs : S → A → T → B → Prop} (Inv : T → Prop) (ok' : T → B → Prop)
    (hsim : ∀ {s a t}, step s a t → Reach step' (occurs s a) (abs s) (abs t))
    (hinv : ∀ {u b v}, Inv u → ok' u b → step' u b v → Inv v)
    (hocc : ∀ {s a u b}, Inv (abs s) → ok s a → Inv u → occurs s a u b → ok' u b)
    (h₀ : Inv (abs s₀)) (h : Reach step ok s₀ s) : Inv (abs s) := by
  induction h with
  | refl => exact h₀
  | tail _ hst ih =>
    obtain ⟨a, ha, hst⟩ := hst
    apply Reach.invariant Inv ih _ (hsim hst)
    intro u b v hu hb huv
    exact hinv hu (hocc ih ha hu hb) huv

end Nearby.Lib
