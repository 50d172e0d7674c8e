import Mathlib.Algebra.BigOperators.Group.Finset.Piecewise
import Mathlib.Logic.Function.Basic

/-! A lock shared by threads.  `inside` says which places of a thread's program are between
the lock and the unlock. -/

namespace Nearby.Lib

universe u v

variable {ι : Type u} {X : Type v}

def Locked (inside : X → Bool) (lock : Option ι) (threads : ι → X) : Prop :=
  ∀ t, inside (threads t) = true ↔ lock = some t

/-- Where the thread that holds the lock is, `out` if there is none. -/
def holder (out : X) (lock : Option ι) (threads : ι → X) : X := (lock.map threads).getD out

variable {inside : X → Bool} {out : X} {lock : Option ι} {threads : ι → X} {t : ι} {x : X}

theorem Locked.holder_eq (h : Locked inside lock threads) (ht : inside (threads t) = true) :
    holder out lock threads = threads t := by
  rw [(h t).mp ht]
  rfl

theorem Locked.free (h : Locked inside none threads) (t : ι) : inside (threads t) = false := by
  rw [← Bool.not_eq_true, h t]
  simp

variable [DecidableEq ι]

theorem Locked.moves (h : Locked inside lock threads) (hx : inside x = inside (threads t)) :
    Locked inside lock (Function.update threads t x) := by
  intro u
  by_cases hu : u = t
  · subst hu
    rw [Function.update_self, hx, h u]
  · rw [Function.update_of_ne hu, h u]

theorem Locked.acquires (h : Locked inside none threads) (hx : inside x = true) :
    Locked inside (some t) (Function.update threads t x) := by
  intro u
  by_cases hu : u = t
  · subst hu
    simp [hx]
  · rw [Function.update_of_ne hu, h.free u]
    simpa using Ne.symm hu

theorem Locked.releases (h : Locked inside lock threads) (ht : inside (threads t) = true)
    (hx : inside x = false) : Locked inside none (Function.update threads t x) := by
  intro u
  by_cases hu : u = t
  · subst hu
    simp [hx]
  · rw [Function.update_of_ne hu, h u, (h t).mp ht]
    simpa using Ne.symm hu

theorem Locked.holder_moves (h : Locked inside lock threads) (ht : inside (threads t) = true) :
    holder out lock (Function.update threads t x) = x := by
  rw [(h t).mp ht]
  simp [holder]

theorem Locked.holder_aside (h : Locked inside lock threads) (ht : inside (threads t) = false) :
    holder out lock (Function.update threads t x) = holder out lock threads := by
  cases lock with
  | none => rfl
  | some u =>
    have hu : u ≠ t := by
      rintro rfl
      rw [(h u).mpr rfl] at ht
      cases ht
    simp [holder, Function.update_of_ne hu]

theorem sum_update [Fintype ι] (left : X → Nat) (threads : ι → X) (t : ι) (x : X) :
    (∑ u, left (Function.update threads t x u)) + left (threads t) =
      (∑ u, left (threads u)) + left x := by
  have hcomp : (fun u => left (Function.update threads t x u)) =
      Function.update (fun u => left (threads u)) t (left x) := by
    funext u
    by_cases hu : u = t
    · subst hu
      simp
    · simp [Function.update_of_ne hu]
  rw [hcomp, Finset.sum_update_of_mem (Finset.mem_univ t),
    Finset.sum_eq_add_sum_sdiff_singleton_of_mem (Finset.mem_univ t) fun u => left (threads u)]
  omega

end Nearby.Lib
