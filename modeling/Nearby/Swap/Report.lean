import Nearby.Lib.Trace
import Nearby.Swap.Machine

/-! What the books of the exchange say about its trace: parkings pay for reports, a
latch stands for a LAST_WRITE of the running upgrade, and what leaves the parking place
has been closed. -/

namespace Nearby.Swap

open Lib

universe u v

noncomputable section

variable {E : Type u} {C : Type v}

variable {e : E} {k : Nat} {tr : List (Event E C)} {x : Event E C}

/-! ### Reports -/

section

variable [DecidableEq E]

def Event.isReport (e : E) : Event E C → Bool
  | .report e' => e' = e
  | _ => false

def Event.isPark (e : E) : Event E C → Bool
  | .park e' _ => e' = e
  | _ => false

def reports (e : E) (tr : List (Event E C)) : Nat := tr.countP (Event.isReport e)

def parks (e : E) (tr : List (Event E C)) : Nat := tr.countP (Event.isPark e)

/-- At every moment of `tr` the reports are paid for, and at its end `k` parkings are left. -/
structure Balance (e : E) (k : Nat) (tr : List (Event E C)) : Prop where
  always : Always (fun tr => reports e tr ≤ parks e tr) tr
  now : reports e tr + k ≤ parks e tr

theorem Balance.mono {k' : Nat} (h : Balance e k tr) (hk : k' ≤ k) : Balance e k' tr :=
  ⟨h.always, (Nat.add_le_add_left hk _).trans h.now⟩

theorem Balance.cons (h : Balance e k tr) (hx : x.isReport e = false) :
    Balance e k (x :: tr) := by
  have hr : reports e (x :: tr) = reports e tr := by simp [reports, hx]
  have hp : parks e tr ≤ parks e (x :: tr) := by simp [parks, List.countP_cons]
  have hnow : reports e (x :: tr) + k ≤ parks e (x :: tr) := by
    rw [hr]
    exact h.now.trans hp
  exact ⟨(always_cons _ _ _).mpr ⟨by omega, h.always⟩, hnow⟩

theorem Balance.park (h : Balance e k tr) (c : C) : Balance e (k + 1) (.park e c :: tr) := by
  have hr : reports e (.park e c :: tr) = reports e tr := by simp [reports, Event.isReport]
  have hp : parks e (.park e c :: tr) = parks e tr + 1 := by simp [parks, Event.isPark]
  have hnow := h.now
  exact ⟨(always_cons _ _ _).mpr ⟨by omega, h.always⟩, by omega⟩

theorem Balance.report (h : Balance e (k + 1) tr) : Balance e k (.report e :: tr) := by
  have hr : reports e (.report e :: tr) = reports e tr + 1 := by simp [reports, Event.isReport]
  have hp : parks e (.report e :: tr) = parks e tr := by simp [parks, Event.isPark]
  have hnow := h.now
  exact ⟨(always_cons _ _ _).mpr ⟨by omega, h.always⟩, by omega⟩

namespace State

def pending (s : State E C) (e : E) : Nat := if (s.parked e).isSome then 1 else 0

def Balanced (e : E) (s : State E C) : Prop := Balance e (s.pending e) s.trace

theorem Balanced.unparked {s : State E C} (h : s.Balanced e) (e' : E) :
    (s.setParked e' none).Balanced e := by
  apply Balance.mono h
  by_cases he : e = e' <;> simp [pending, setParked, he]

theorem Balanced.park {s : State E C} (h : s.Balanced e) (e' : E) (c : C) :
    (s.park e' c).Balanced e := by
  by_cases he : e' = e
  · subst he
    apply Balance.mono (Balance.park h c)
    simp [pending, State.park, setParked, emit]
  · apply Balance.mono (Balance.cons (x := .park e' c) h rfl)
    simp [pending, State.park, setParked, emit, Ne.symm he]

variable [DecidableEq C]

theorem Balanced.answer {s : State E C} (h : s.Balanced e) (e' : E) (ok : Bool) :
    (s.answer e' ok).Balanced e := by
  rw [State.answer]
  cases s.parked e' with
  | none => exact h
  | some c =>
    cases ok with
    | true => exact Balance.cons h rfl
    | false =>
      apply Balanced.unparked
      exact Balance.cons (Balance.cons h rfl) rfl

theorem Balanced.swap {s : State E C} (h : s.Balanced e) (e' : E) (c : C) (ok ok' : Bool) :
    (s.swap e' c ok ok').Balanced e := by
  rw [State.swap]
  cases s.registered e' with
  | none => exact h
  | some old =>
    have hd : ∀ ok, (s.displace e' c old ok).Balanced e := fun ok => Balance.cons h rfl
    cases ok with
    | false => exact hd false
    | true =>
      have hp := (hd true).park e' old
      dsimp only
      rw [if_pos rfl]
      split
      case isTrue =>
        exact Balanced.answer (s := ((s.displace e' c old true).park e' old).unlatch e') hp e' ok'
      case isFalse => exact hp

theorem Balanced.complete {s : State E C} (h : s.Balanced e) (e' : E) (ok : Bool) :
    (s.complete e' ok).Balanced e := by
  rw [State.complete]
  cases hp : s.parked e' with
  | none => exact h
  | some c =>
    cases s.registered e' with
    | none => exact Balance.cons (Balance.cons (h.unparked e') rfl) rfl
    | some n =>
      by_cases he : e' = e
      · subst he
        have hk : s.pending e' = 0 + 1 := by simp [pending, hp]
        have hb : Balance e' (0 + 1) s.trace := hk ▸ h
        apply Balance.mono (Balance.report (Balance.cons (Balance.cons hb rfl) rfl))
        simp [pending, drain, setParked, leave, emit, release, shut, modifyChan, write, decipher]
      · apply Balance.cons (Balance.cons (Balance.cons (h.unparked e') rfl) rfl)
        simp [Event.isReport, he]

theorem Balanced.dropParked {s : State E C} (h : s.Balanced e) (e' : E) :
    (s.dropParked e').Balanced e := by
  rw [State.dropParked]
  cases s.parked e' with
  | none => exact h
  | some c => exact Balance.cons (h.unparked e') rfl

theorem Balanced.next {s : State E C} (h : s.Balanced e) (l : Label E C) :
    (s.next l).Balanced e := by
  cases l with
  | arrive | register | greet | hangUp | enter => exact Balance.cons h rfl
  | unregister | leave | ownerClose | ownerEncrypt => exact h
  | speak e' ok =>
    rw [State.next]
    cases s.registered e' with
    | none => exact h
    | some c => exact Balance.cons h rfl
  | swap e' c ok ok' => exact h.swap e' c ok ok'
  | lastWrite e' ok =>
    have hx : (s.emit (.lastWrite e')).Balanced e := Balance.cons h rfl
    exact hx.answer e' ok
  | complete e' ok => exact h.complete e' ok
  | closeOutOfSync e' =>
    have hd := h.dropParked e'
    rw [State.next, State.closeOutOfSync]
    cases (s.dropParked e').registered e' with
    | none => exact hd
    | some c => exact Balance.cons hd rfl
  | disconnect e' => exact h.dropParked e'
  | shutdown => exact Balance.mono h (by simp [pending, State.next])

end State

end

/-! ### Latches -/

/-- Since the newest start of `e` a LAST_WRITE came for it. -/
def Heard (e : E) : List (Event E C) → Prop
  | [] => False
  | .lastWrite e' :: tr => e' = e ∨ Heard e tr
  | .start e' :: tr => e' ≠ e ∧ Heard e tr
  | _ :: tr => Heard e tr

def Event.Answers (e : E) : Event E C → Prop
  | .write owner _ .safeToClose _ _ _ => owner = some e
  | _ => False

namespace State

/-- A latch belongs to the running upgrade, and so does every answer. -/
structure Latching (s : State E C) : Prop where
  inProgress : s.latched ⊆ s.inProgress
  unparked : ∀ e ∈ s.latched, s.parked e = none
  heard : ∀ e ∈ s.latched, Heard e s.trace
  answers : ∀ e, Precedes (Event.Answers e) (Heard e) s.trace

theorem heard_cons (h : Heard e tr) (hx : x ≠ .start e) : Heard e (x :: tr) := by
  cases x with
  | lastWrite e' => exact .inr h
  | start e' => exact ⟨fun he => hx (he ▸ rfl), h⟩
  | _ => exact h

variable {s : State E C}

theorem Latching.emit (h : s.Latching) (hs : ∀ e ∈ s.latched, x ≠ .start e)
    (ha : ∀ e, x.Answers e → Heard e s.trace) : (s.emit x).Latching where
  inProgress := h.inProgress
  unparked := h.unparked
  heard e he := heard_cons (h.heard e he) (hs e he)
  answers e := (precedes_cons _ _ _ _).mpr ⟨ha e, h.answers e⟩

theorem Latching.quiet (h : s.Latching) (hs : ∀ e, x ≠ .start e) (ha : ∀ e, ¬ x.Answers e) :
    (s.emit x).Latching :=
  h.emit (fun e _ => hs e) (fun e he => absurd he (ha e))

theorem Latching.leave (h : s.Latching) (hl : e ∉ s.latched) : (s.leave e).Latching :=
  ⟨fun _ he => ⟨h.inProgress he, fun hee => hl (hee ▸ he)⟩, h.unparked, h.heard, h.answers⟩

variable [DecidableEq E]

theorem Latching.unparked' (h : s.Latching) (e : E) : (s.setParked e none).Latching where
  inProgress := h.inProgress
  unparked e' he := by
    by_cases hee : e' = e <;> simp [setParked, hee, h.unparked e' he]
  heard := h.heard
  answers := h.answers

variable [DecidableEq C]

omit [DecidableEq E] in
theorem Latching.shut (h : s.Latching) (c : C) (b : Bool) : (s.shut c b).Latching :=
  Latching.quiet (s := s.modifyChan c Chan.shut) ⟨h.1, h.2, h.3, h.4⟩ nofun fun _ => id

theorem Latching.answer (h : s.Latching) (hin : e ∈ s.inProgress) (hh : Heard e s.trace)
    (ok : Bool) : (s.answer e ok).Latching := by
  have hw : ∀ c ok, (s.write (some e) c .safeToClose ok).Latching := by
    intro c ok
    refine h.emit (fun _ _ => nofun) ?_
    rintro e' ⟨⟩
    exact hh
  rw [State.answer]
  cases hp : s.parked e with
  | none =>
    refine ⟨Set.insert_subset hin h.inProgress, ?_, ?_, h.answers⟩
    · rintro e' (rfl | he)
      · exact hp
      · exact h.unparked e' he
    · rintro e' (rfl | he)
      · exact hh
      · exact h.heard e' he
  | some c =>
    cases ok with
    | true => exact hw c true
    | false => exact ((hw c false).shut c false).unparked' e

theorem Latching.swap (h : s.Latching) (hin : e ∈ s.inProgress) (c : C) (ok ok' : Bool) :
    (s.swap e c ok ok').Latching := by
  rw [State.swap]
  cases s.registered e with
  | none => exact ⟨h.1, h.2, h.3, h.4⟩
  | some old =>
    have hd : ∀ ok, (s.displace e c old ok).Latching := fun ok =>
      Latching.quiet (s := (s.hold c).setRegistered e (some c)) ⟨h.1, h.2, h.3, h.4⟩
        (by simp) fun _ => id
    cases ok with
    | false => exact hd false
    | true =>
      have ht : ∀ e', Heard e' s.trace → Heard e' ((s.displace e c old true).park e old).trace :=
        fun e' he => heard_cons (heard_cons he (by simp)) (by simp)
      have ha : ∀ e', Precedes (Event.Answers e') (Heard e')
          ((s.displace e c old true).park e old).trace :=
        fun e' => (precedes_cons _ _ _ _).mpr ⟨False.elim, (hd true).answers e'⟩
      have hparked : ∀ e' ∈ s.latched, e' ≠ e →
          ((s.displace e c old true).park e old).parked e' = none := by
        intro e' he hne
        simpa [State.park, setParked, State.emit, hne, displace, State.write, setRegistered, hold,
          modifyChan] using h.unparked e' he
      dsimp only
      rw [if_pos rfl]
      split
      case isTrue hl =>
        refine Latching.answer (s := ((s.displace e c old true).park e old).unlatch e) ?_ hin
          (ht e (h.heard e hl)) ok'
        exact ⟨fun e' he => h.inProgress he.1, fun e' he => hparked e' he.1 he.2,
          fun e' he => ht e' (h.heard e' he.1), ha⟩
      case isFalse hl =>
        refine ⟨h.inProgress, fun e' he => hparked e' he ?_, fun e' he => ht e' (h.heard e' he), ha⟩
        rintro rfl
        exact hl he

theorem Latching.complete (h : s.Latching) (e : E) (ok : Bool) : (s.complete e ok).Latching := by
  rw [State.complete]
  cases hp : s.parked e with
  | none => exact h
  | some c =>
    have hu := h.unparked' e
    have hw : (((s.setParked e none).decipher c).write (some e) c .disconnection ok).Latching :=
      Latching.quiet (s := (s.setParked e none).decipher c) ⟨hu.1, hu.2, hu.3, hu.4⟩
        (by simp) fun _ => id
    have hd : (s.drain e c ok).Latching := hw.shut c true
    cases s.registered e with
    | none => exact hd
    | some n =>
      refine Latching.leave (Latching.quiet (s := (s.drain e c ok).release n)
        ⟨hd.1, hd.2, hd.3, hd.4⟩ (by simp) fun _ => id) ?_
      intro hl
      have hnone : s.parked e = none := h.unparked e hl
      simp [hnone] at hp

theorem Latching.dropParked (h : s.Latching) (e : E) : (s.dropParked e).Latching := by
  rw [State.dropParked]
  cases s.parked e with
  | none => exact h
  | some c => exact (h.unparked' e).shut c false

theorem Latching.next (h : s.Latching) {l : Label E C} (hl : s.Enabled l)
    (hleave : ∀ e, l = .leave e → e ∉ s.latched) : (s.next l).Latching := by
  cases l with
  | arrive | register | greet => exact Latching.quiet ⟨h.1, h.2, h.3, h.4⟩ (by simp) fun _ => id
  | unregister | ownerClose | ownerEncrypt => exact ⟨h.1, h.2, h.3, h.4⟩
  | hangUp c => exact h.shut c false
  | speak e ok =>
    rw [State.next]
    cases s.registered e with
    | none => exact h
    | some c => exact h.quiet (by simp) fun _ => id
  | enter e =>
    refine Latching.emit (s := { s with inProgress := insert e s.inProgress })
      ⟨fun e' he => .inr (h.inProgress he), h.2, h.3, h.4⟩ ?_ fun _ => False.elim
    rintro e' he ⟨⟩
    exact hl (h.inProgress he)
  | leave e => exact h.leave (hleave e rfl)
  | swap e c ok ok' => exact h.swap hl c ok ok'
  | lastWrite e ok =>
    have hx : (s.emit (.lastWrite e)).Latching := h.quiet (by simp) fun _ => id
    exact hx.answer hl (.inl rfl) ok
  | complete e ok => exact h.complete e ok
  | closeOutOfSync e =>
    have hd := h.dropParked e
    rw [State.next, State.closeOutOfSync]
    cases (s.dropParked e).registered e with
    | none => exact hd
    | some c =>
      exact Latching.shut (s := (s.dropParked e).release c) ⟨hd.1, hd.2, hd.3, hd.4⟩ c false
  | disconnect e =>
    have hd := h.dropParked e
    exact ⟨fun e' he => ⟨hd.inProgress he.1, he.2⟩, fun e' he => hd.unparked e' he.1,
      fun e' he => hd.heard e' he.1, hd.answers⟩
  | shutdown =>
    exact ⟨Set.empty_subset _, fun _ => False.elim, fun _ => False.elim, h.answers⟩

end State

/-! ### Parked channels -/

/-- What was ever parked is still parked in `parked`, or was closed after that. -/
def Shelved (parked : E → Option C) (tr : List (Event E C)) : Prop :=
  Follows (fun x later => ∀ e c, x = .park e c → parked e = some c ∨ ∃ b, .close c b ∈ later) tr

section

variable {parked parked' : E → Option C}

theorem Shelved.cons (h : Shelved parked tr) (hx : ∀ e c, x ≠ .park e c) :
    Shelved parked (x :: tr) := by
  refine Follows.cons h (fun e c he => absurd he (hx e c)) ?_
  intro y later hy e c he
  exact (hy e c he).imp id fun ⟨b, hb⟩ => ⟨b, List.mem_cons_of_mem _ hb⟩

theorem Shelved.close (h : Shelved parked tr) (c : C) (b : Bool)
    (hp : ∀ e' c', parked e' = some c' → parked' e' = some c' ∨ c' = c) :
    Shelved parked' (.close c b :: tr) := by
  refine Follows.cons h nofun ?_
  intro y later hy e' c' he
  rcases hy e' c' he with hpk | ⟨b', hb'⟩
  · rcases hp e' c' hpk with hpk' | rfl
    · exact .inl hpk'
    · exact .inr ⟨b, List.mem_cons_self⟩
  · exact .inr ⟨b', List.mem_cons_of_mem _ hb'⟩

variable [DecidableEq E]

theorem Shelved.park (h : Shelved parked tr) (hp : parked e = none) (c : C) :
    Shelved (Function.update parked e (some c)) (.park e c :: tr) := by
  refine Follows.cons h ?_ ?_
  · rintro e' c' ⟨⟩
    exact .inl (Function.update_self ..)
  · intro y later hy e' c' he
    rcases hy e' c' he with hpk | ⟨b, hb⟩
    · have hne : e' ≠ e := by
        rintro rfl
        simp [hp] at hpk
      exact .inl (by rwa [Function.update_of_ne hne])
    · exact .inr ⟨b, List.mem_cons_of_mem _ hb⟩

theorem Shelved.closeParked (h : Shelved parked tr) {c : C} (hp : parked e = some c) (b : Bool) :
    Shelved (Function.update parked e none) (.close c b :: tr) := by
  refine h.close c b fun e' c' he' => ?_
  by_cases hee : e' = e
  · subst hee
    exact .inr (Option.some.inj (he'.symm.trans hp))
  · exact .inl (by rwa [Function.update_of_ne hee])

end

namespace State

def Kept (s : State E C) : Prop := Shelved s.parked s.trace

variable {s : State E C} [DecidableEq E] [DecidableEq C]

theorem Kept.answer (h : s.Kept) (e : E) (ok : Bool) : (s.answer e ok).Kept := by
  rw [State.answer]
  cases hp : s.parked e with
  | none => exact h
  | some c =>
    cases ok with
    | true => exact Shelved.cons h (by simp)
    | false =>
      have hw : (s.write (some e) c .safeToClose false).Kept := Shelved.cons h (by simp)
      exact Shelved.closeParked hw hp false

theorem Kept.swap (h : s.Kept) (hp : s.registered e ≠ none → s.parked e = none) (c : C)
    (ok ok' : Bool) : (s.swap e c ok ok').Kept := by
  rw [State.swap]
  cases hr : s.registered e with
  | none => exact h
  | some old =>
    have hd : ∀ ok, (s.displace e c old ok).Kept := fun _ => Shelved.cons h (by simp)
    cases ok with
    | false => exact hd false
    | true =>
      have hk : ((s.displace e c old true).park e old).Kept :=
        Shelved.park (hd true) (hp (by simp [hr])) old
      dsimp only
      rw [if_pos rfl]
      split
      case isTrue =>
        exact Kept.answer (s := ((s.displace e c old true).park e old).unlatch e) hk e ok'
      case isFalse => exact hk

theorem Kept.complete (h : s.Kept) (e : E) (ok : Bool) : (s.complete e ok).Kept := by
  rw [State.complete]
  cases hp : s.parked e with
  | none => exact h
  | some c =>
    have hw : ((s.decipher c).write (some e) c .disconnection ok).Kept := Shelved.cons h (by simp)
    have hd : (s.drain e c ok).Kept := Shelved.closeParked hw hp true
    cases s.registered e with
    | none => exact hd
    | some n => exact Shelved.cons hd (by simp)

theorem Kept.dropParked (h : s.Kept) (e : E) : (s.dropParked e).Kept := by
  rw [State.dropParked]
  cases hp : s.parked e with
  | none => exact h
  | some c => exact Shelved.closeParked h hp false

theorem Kept.next (h : s.Kept) {l : Label E C}
    (hswap : ∀ e c ok ok', l = .swap e c ok ok' → s.registered e ≠ none → s.parked e = none)
    (hshut : l = .shutdown → ∀ e, s.parked e = none) : (s.next l).Kept := by
  cases l with
  | arrive | register | greet | hangUp | enter => exact Shelved.cons h (by simp)
  | unregister | leave | ownerClose | ownerEncrypt => exact h
  | speak e ok =>
    rw [State.next]
    cases s.registered e with
    | none => exact h
    | some c => exact Shelved.cons h (by simp)
  | swap e c ok ok' => exact h.swap (hswap e c ok ok' rfl) c ok ok'
  | lastWrite e ok =>
    have hx : (s.emit (.lastWrite e)).Kept := Shelved.cons h (by simp)
    exact hx.answer e ok
  | complete e ok => exact h.complete e ok
  | closeOutOfSync e =>
    have hd := h.dropParked e
    rw [State.next, State.closeOutOfSync]
    cases (s.dropParked e).registered e with
    | none => exact hd
    | some c => exact Shelved.cons hd (by simp)
  | disconnect e => exact h.dropParked e
  | shutdown =>
    have hp : s.parked = fun _ => none := funext (hshut rfl)
    have hk : Shelved (fun _ => none) s.trace := hp ▸ h
    exact hk

end State

end

end Nearby.Swap
