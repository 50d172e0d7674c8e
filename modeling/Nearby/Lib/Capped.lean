import Mathlib.Order.Iterate
import Mathlib.Order.Lattice

/-! Growth under a cap: to cut off at each step comes to the same as to cut off at the end. -/

namespace Nearby.Lib

universe u

variable {α : Type u} [LinearOrder α] {f : α → α} {cap : α}

/-- One step of growth, cut off at `cap`. -/
def capped (f : α → α) (cap x : α) : α := min (f x) cap

theorem capped_le (f : α → α) (cap x : α) : capped f cap x ≤ cap := min_le_right _ _

theorem capped_min (hf : Monotone f) (hcap : cap ≤ f cap) (x : α) :
    capped f cap (min x cap) = capped f cap x := by
  rcases le_total x cap with h | h
  · rw [min_eq_left h]
  · have hx : cap ≤ f x := hcap.trans (hf h)
    rw [capped, capped, min_eq_right h, min_eq_right hcap, min_eq_right hx]

theorem capped_iterate (hf : Monotone f) (hcap : cap ≤ f cap) (n : Nat) (x : α) :
    (capped f cap)^[n + 1] x = min (f^[n + 1] x) cap := by
  induction n with
  | zero => rfl
  | succ n ih =>
    rw [Function.iterate_succ_apply', ih, capped_min hf hcap, capped,
      ← Function.iterate_succ_apply' f]

theorem capped_iterate_le (f : α → α) (cap : α) (n : Nat) (x : α) :
    (capped f cap)^[n] x ≤ max x cap := by
  cases n with
  | zero => exact le_max_left _ _
  | succ n =>
    rw [Function.iterate_succ_apply']
    exact (capped_le f cap _).trans (le_max_right _ _)

theorem exists_capped_iterate_eq {f : Nat → Nat} {cap x : Nat} (hf : ∀ y, x ≤ y → y < f y)
    (hx : x ≤ cap) : ∃ n, (capped f cap)^[n] x = cap := by
  induction hd : cap - x using Nat.strong_induction_on generalizing x with
  | _ d ih =>
    rcases hx.eq_or_lt with rfl | hlt
    · exact ⟨0, rfl⟩
    · have hgrow : x < capped f cap x := lt_min (hf x le_rfl) hlt
      obtain ⟨n, hn⟩ := ih (cap - capped f cap x) (by omega)
        (fun y hy => hf y (hgrow.le.trans hy)) (capped_le f cap x) rfl
      exact ⟨n + 1, hn⟩

end Nearby.Lib
