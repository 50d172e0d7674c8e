import Mathlib.Data.List.Infix

/-! Traces, newest event first, and what holds at every moment of one. -/

namespace Nearby.Lib

universe u

variable {X : Type u}

/-- Every event of `tr` that meets `p` has a past that meets `Q`. -/
def Precedes (p : X → Prop) (Q : List X → Prop) (tr : List X) : Prop :=
  ∀ later x earlier, tr = later ++ x :: earlier → p x → Q earlier

theorem precedes_nil (p : X → Prop) (Q : List X → Prop) : Precedes p Q [] := by
  intro later x earlier h
  simp at h

@[simp] theorem precedes_cons (p : X → Prop) (Q : List X → Prop) (x : X) (tr : List X) :
    Precedes p Q (x :: tr) ↔ (p x → Q tr) ∧ Precedes p Q tr := by
  constructor
  · intro h
    exact ⟨h [] x tr rfl, fun later y earlier he => h (x :: later) y earlier (by rw [he]; rfl)⟩
  · rintro ⟨hx, h⟩ later y earlier he
    cases later with
    | nil =>
      cases he
      exact hx
    | cons z later =>
      cases he
      exact h later y earlier rfl

/-- Every event of `tr` stands in the relation `Q` to what came after it. -/
def Follows (Q : X → List X → Prop) (tr : List X) : Prop :=
  ∀ later x earlier, tr = later ++ x :: earlier → Q x later

theorem follows_nil (Q : X → List X → Prop) : Follows Q [] := by
  intro later x earlier h
  simp at h

theorem Follows.cons {Q Q' : X → List X → Prop} {tr : List X} {y : X} (h : Follows Q tr)
    (hy : Q' y []) (himp : ∀ x later, Q x later → Q' x (y :: later)) : Follows Q' (y :: tr) := by
  intro later x earlier he
  cases later with
  | nil =>
    cases he
    exact hy
  | cons z later =>
    cases he
    exact himp x later (h later x earlier rfl)

/-- `R` holds of `tr` and of everything `tr` has been. -/
def Always (R : List X → Prop) (tr : List X) : Prop := ∀ earlier, earlier <:+ tr → R earlier

@[simp] theorem always_cons (R : List X → Prop) (x : X) (tr : List X) :
    Always R (x :: tr) ↔ R (x :: tr) ∧ Always R tr := by
  constructor
  · intro h
    exact ⟨h _ (List.suffix_refl _), fun y hy => h y (hy.trans (List.suffix_cons x tr))⟩
  · rintro ⟨hx, h⟩ y hy
    rcases List.suffix_cons_iff.mp hy with rfl | hy
    · exact hx
    · exact h y hy

abbrev Adds (p : X → Prop) (tr tr' : List X) : Prop := ∃ new, tr' = new ++ tr ∧ ∀ x ∈ new, p x

theorem Adds.refl (p : X → Prop) (tr : List X) : Adds p tr tr := ⟨[], rfl, List.forall_mem_nil _⟩

theorem Adds.cons {P : X → Prop} {tr tr' : List X} {x : X} (hx : P x) (h : Adds P tr tr') :
    Adds P tr (x :: tr') := by
  obtain ⟨new, rfl, hnew⟩ := h
  exact ⟨x :: new, rfl, List.forall_mem_cons.mpr ⟨hx, hnew⟩⟩

theorem Adds.one {P : X → Prop} (tr : List X) {x : X} (hx : P x) : Adds P tr (x :: tr) :=
  .cons hx (.refl P tr)

theorem Adds.trans {p : X → Prop} {tr tr' tr'' : List X} (h : Adds p tr tr')
    (h' : Adds p tr' tr'') : Adds p tr tr'' := by
  obtain ⟨new, hnew, hx⟩ := h
  obtain ⟨new', hnew', hx'⟩ := h'
  refine ⟨new' ++ new, ?_, List.forall_mem_append.mpr ⟨hx', hx⟩⟩
  rw [hnew', hnew, List.append_assoc]

theorem Adds.mono {p q : X → Prop} {tr tr' : List X} (h : Adds p tr tr') (himp : ∀ x, p x → q x) :
    Adds q tr tr' := by
  obtain ⟨new, hnew, hx⟩ := h
  exact ⟨new, hnew, fun x hmem => himp x (hx x hmem)⟩

/-- How often `f` became true along the trace. -/
def rises (f : List X → Bool) : List X → Nat
  | [] => 0
  | x :: tr => (if f tr = false ∧ f (x :: tr) = true then 1 else 0) + rises f tr

def falls (f : List X → Bool) : List X → Nat
  | [] => 0
  | x :: tr => (if f tr = true ∧ f (x :: tr) = false then 1 else 0) + falls f tr

theorem rises_eq (f : List X → Bool) (hnil : f [] = false) (tr : List X) :
    rises f tr = falls f tr + if f tr = true then 1 else 0 := by
  induction tr with
  | nil => simp [rises, falls, hnil]
  | cons x tr ih =>
    rw [rises, falls, ih]
    cases f tr <;> cases f (x :: tr) <;> simp [Nat.add_comm]

end Nearby.Lib
