import Nearby.Lib.Transition
import Mathlib.Data.Set.Insert
import Mathlib.Logic.Function.Basic

/-! What a bandwidth upgrade is for, over any endpoints `E` and channels `C`: an
endpoint's registered channel is exchanged for another one while the old one is parked,
both sides say LAST_WRITE on the old one, answer with SAFE_TO_CLOSE, and then close it. -/

namespace Nearby.Swap

open Lib

universe u v

inductive Kind : Type
  | lastWrite
  | safeToClose
  | disconnection
  | other
  deriving DecidableEq

inductive Event (E : Type u) (C : Type v) : Type (max u v)
  | arrive (c : C)
  | write (owner : Option E) (c : C) (k : Kind) (paused encrypted ok : Bool)
  | close (c : C) (upgraded : Bool)
  | start (e : E)
  | lastWrite (e : E)
  | park (e : E) (c : C)
  | report (e : E)

structure Chan where
  paused : Bool
  closed : Bool
  encrypted : Bool

def Chan.shut (c : Chan) : Chan :=
  if c.closed then c else { c with closed := true, paused := false }

/-- The exchange's state; `trace` is newest first. -/
structure State (E : Type u) (C : Type v) where
  registered : E → Option C
  parked : E → Option C
  inProgress : Set E
  latched : Set E
  chan : C → Chan
  trace : List (Event E C)

/-- What can happen.  The booleans are the outcomes of the writes involved. -/
inductive Label (E : Type u) (C : Type v) : Type (max u v)
  | arrive (c : C)
  | register (e : E) (c : C)
  | unregister (e : E)
  | greet (owner : Option E) (c : C) (ok : Bool)
  | speak (e : E) (ok : Bool)
  | hangUp (c : C)
  | enter (e : E)
  | leave (e : E)
  | swap (e : E) (c : C) (lastWriteOk safeOk : Bool)
  | lastWrite (e : E) (safeOk : Bool)
  | complete (e : E) (ok : Bool)
  | closeOutOfSync (e : E)
  | disconnect (e : E)
  | shutdown
  | ownerClose (c : C)
  | ownerEncrypt (c : C)

noncomputable section

variable {E : Type u} {C : Type v}

namespace State

section

variable [DecidableEq E] [DecidableEq C]

def emit (s : State E C) (x : Event E C) : State E C := { s with trace := x :: s.trace }

def modifyChan (s : State E C) (c : C) (f : Chan → Chan) : State E C :=
  { s with chan := Function.update s.chan c (f (s.chan c)) }

def write (s : State E C) (owner : Option E) (c : C) (k : Kind) (ok : Bool) : State E C :=
  s.emit (.write owner c k (s.chan c).paused (s.chan c).encrypted ok)

def shut (s : State E C) (c : C) (upgraded : Bool) : State E C :=
  (s.modifyChan c Chan.shut).emit (.close c upgraded)

def setParked (s : State E C) (e : E) (c : Option C) : State E C :=
  { s with parked := Function.update s.parked e c }

def setRegistered (s : State E C) (e : E) (c : Option C) : State E C :=
  { s with registered := Function.update s.registered e c }

def leave (s : State E C) (e : E) : State E C := { s with inProgress := s.inProgress \ {e} }

def unlatch (s : State E C) (e : E) : State E C := { s with latched := s.latched \ {e} }

/-- Answer the peer's LAST_WRITE on the parked channel, or remember it. -/
def answer (s : State E C) (e : E) (safeOk : Bool) : State E C :=
  match s.parked e with
  | none => { s with latched := insert e s.latched }
  | some c =>
    if safeOk then s.write (some e) c .safeToClose true
    else ((s.write (some e) c .safeToClose false).shut c false).setParked e none

def hold (s : State E C) (c : C) : State E C := s.modifyChan c fun st => { st with paused := true }

def release (s : State E C) (c : C) : State E C :=
  s.modifyChan c fun st => { st with paused := false }

def decipher (s : State E C) (c : C) : State E C :=
  s.modifyChan c fun st => { st with encrypted := false }

/-- Put `c`, held, in the place of `old` and say LAST_WRITE on `old`. -/
def displace (s : State E C) (e : E) (c old : C) (ok : Bool) : State E C :=
  ((s.hold c).setRegistered e (some c)).write (some e) old .lastWrite ok

def park (s : State E C) (e : E) (c : C) : State E C :=
  (s.setParked e (some c)).emit (.park e c)

open Classical in
def swap (s : State E C) (e : E) (c : C) (lastWriteOk safeOk : Bool) : State E C :=
  match s.registered e with
  | none => s.hold c
  | some old =>
    if lastWriteOk then
      if e ∈ s.latched then (((s.displace e c old true).park e old).unlatch e).answer e safeOk
      else (s.displace e c old true).park e old
    else s.displace e c old false

/-- Take the parked channel `c` out, say goodbye in the clear and close it. -/
def drain (s : State E C) (e : E) (c : C) (ok : Bool) : State E C :=
  (((s.setParked e none).decipher c).write (some e) c .disconnection ok).shut c true

def complete (s : State E C) (e : E) (ok : Bool) : State E C :=
  match s.parked e with
  | none => s
  | some c =>
    match s.registered e with
    | none => s.drain e c ok
    | some n => (((s.drain e c ok).release n).emit (.report e)).leave e

def dropParked (s : State E C) (e : E) : State E C :=
  match s.parked e with
  | some c => (s.setParked e none).shut c false
  | none => s

def closeOutOfSync (s : State E C) (e : E) : State E C :=
  let s := s.dropParked e
  match s.registered e with
  | some c => (s.release c).shut c false
  | none => s

def next (s : State E C) : Label E C → State E C
  | .arrive c => s.emit (.arrive c)
  | .register e c => (s.setRegistered e (some c)).emit (.arrive c)
  | .unregister e => s.setRegistered e none
  | .greet owner c ok => s.write owner c .other ok
  | .speak e ok =>
    match s.registered e with
    | some c => s.write (some e) c .other ok
    | none => s
  | .hangUp c => s.shut c false
  | .enter e => { s with inProgress := insert e s.inProgress }.emit (.start e)
  | .leave e => s.leave e
  | .swap e c lastWriteOk safeOk => s.swap e c lastWriteOk safeOk
  | .lastWrite e safeOk => (s.emit (.lastWrite e)).answer e safeOk
  | .complete e ok => s.complete e ok
  | .closeOutOfSync e => s.closeOutOfSync e
  | .disconnect e => ((s.dropParked e).leave e).unlatch e
  | .shutdown => { s with inProgress := ∅, parked := fun _ => none, latched := ∅ }
  | .ownerClose c => s.modifyChan c Chan.shut
  | .ownerEncrypt c => s.modifyChan c fun st => { st with encrypted := true }

/-- When a label can happen at all: an upgrade starts only where none is in progress,
and frames of the exchange count only where one is. -/
def Enabled (s : State E C) : Label E C → Prop
  | .enter e => e ∉ s.inProgress
  | .swap e _ _ _ => e ∈ s.inProgress
  | .lastWrite e _ => e ∈ s.inProgress
  | .complete e _ => e ∈ s.inProgress
  | .closeOutOfSync e => e ∈ s.inProgress
  | _ => True

def Step (s : State E C) (l : Label E C) (t : State E C) : Prop := s.Enabled l ∧ t = s.next l

end

/-! ### The trace only grows -/

def Event.From (l : Label E C) : Event E C → Prop
  | .arrive c => l = .arrive c ∨ ∃ e, l = .register e c
  | .start e => l = .enter e
  | .lastWrite e => ∃ ok, l = .lastWrite e ok
  | .report e => ∃ ok, l = .complete e ok
  | _ => True

def Grows (l : Label E C) (s t : State E C) : Prop :=
  ∃ xs, t.trace = xs ++ s.trace ∧ ∀ x ∈ xs, Event.From l x

theorem Grows.refl (l : Label E C) (s : State E C) : Grows l s s := ⟨[], rfl, nofun⟩

theorem Grows.cons {l : Label E C} {s t v : State E C} {x : Event E C} (h : Grows l s t)
    (hv : v.trace = x :: t.trace) (hx : Event.From l x) : Grows l s v := by
  obtain ⟨xs, hxs, hmem⟩ := h
  refine ⟨x :: xs, by rw [hv, hxs]; rfl, ?_⟩
  intro y hy
  rcases List.mem_cons.mp hy with rfl | hy
  · exact hx
  · exact hmem y hy

section

variable [DecidableEq E] [DecidableEq C]

theorem Grows.answer {l : Label E C} {s t : State E C} (h : Grows l s t) (e : E) (ok : Bool) :
    Grows l s (t.answer e ok) := by
  rw [State.answer]
  cases t.parked e with
  | none => exact h
  | some c =>
    have hw : ∀ ok, Grows l s (t.write (some e) c .safeToClose ok) := fun _ => h.cons rfl trivial
    cases ok with
    | true => exact hw true
    | false => exact (hw false).cons (v := (State.shut _ c false).setParked e none) rfl trivial

theorem grows_swap (l : Label E C) (s : State E C) (e : E) (c : C) (ok ok' : Bool) :
    Grows l s (s.swap e c ok ok') := by
  rw [swap]
  cases s.registered e with
  | none => exact Grows.refl l s
  | some old =>
    have hd : ∀ ok, Grows l s (s.displace e c old ok) := fun _ => (Grows.refl l s).cons rfl trivial
    cases ok with
    | false => exact hd false
    | true =>
      have hp : Grows l s ((s.displace e c old true).park e old) := (hd true).cons rfl trivial
      dsimp only
      rw [if_pos rfl]
      split
      case isTrue =>
        exact Grows.answer (t := ((s.displace e c old true).park e old).unlatch e) hp e ok'
      case isFalse => exact hp

theorem grows_complete (s : State E C) (e : E) (ok : Bool) :
    Grows (.complete e ok) s (s.complete e ok) := by
  rw [complete]
  cases s.parked e with
  | none => exact Grows.refl _ s
  | some c =>
    have hw : Grows (.complete e ok) s
        (((s.setParked e none).decipher c).write (some e) c .disconnection ok) :=
      (Grows.refl _ s).cons rfl trivial
    have hd : Grows (.complete e ok) s (s.drain e c ok) := hw.cons rfl trivial
    cases s.registered e with
    | none => exact hd
    | some n =>
      exact hd.cons (v := (((s.drain e c ok).release n).emit (.report e)).leave e) rfl ⟨ok, rfl⟩

theorem grows_dropParked (l : Label E C) (s : State E C) (e : E) : Grows l s (s.dropParked e) := by
  rw [dropParked]
  cases s.parked e with
  | none => exact Grows.refl l s
  | some c => exact (Grows.refl l s).cons rfl trivial

theorem grows_next (s : State E C) (l : Label E C) : Grows l s (s.next l) := by
  have h := Grows.refl l s
  cases l with
  | arrive c => exact h.cons rfl (.inl rfl)
  | register e c => exact h.cons rfl (.inr ⟨e, rfl⟩)
  | greet | hangUp => exact h.cons rfl trivial
  | enter e => exact h.cons rfl rfl
  | unregister | leave | shutdown | ownerClose | ownerEncrypt => exact h
  | speak e ok =>
    rw [next]
    cases s.registered e with
    | none => exact h
    | some c => exact h.cons rfl trivial
  | swap e c ok ok' => exact grows_swap _ s e c ok ok'
  | lastWrite e ok => exact (h.cons (v := s.emit (.lastWrite e)) rfl ⟨ok, rfl⟩).answer e ok
  | complete e ok => exact grows_complete s e ok
  | closeOutOfSync e =>
    have hd := grows_dropParked (.closeOutOfSync e) s e
    rw [next, closeOutOfSync]
    cases (s.dropParked e).registered e with
    | none => exact hd
    | some c => exact hd.cons rfl trivial
  | disconnect e => exact grows_dropParked _ s e

end

/-! ### Moments inside an operation -/

/-- `u` has the books of `s`, and a channel that is paused in `u` is as it is in `s`. -/
structure Agrees (s u : State E C) : Prop where
  registered : u.registered = s.registered
  parked : u.parked = s.parked
  latched : u.latched = s.latched
  chan : ∀ c, u.chan c = s.chan c ∨ (u.chan c).paused = false

structure Arrived (s : State E C) (c : C) (u : State E C) : Prop where
  registered : u.registered = s.registered
  parked : u.parked = s.parked
  latched : u.latched = s.latched
  chan : u.chan = s.chan
  trace : ∃ xs, u.trace = xs ++ .arrive c :: s.trace ∧
    ∀ x ∈ xs, (∃ o p q b, x = .write o c .other p q b) ∨ ∃ e, x = .start e

theorem Agrees.refl (s : State E C) : s.Agrees s := ⟨rfl, rfl, rfl, fun _ => .inl rfl⟩

theorem shut_paused (c : Chan) : c.shut = c ∨ c.shut.paused = false := by
  by_cases h : c.closed <;> simp [Chan.shut, h]

theorem Agrees.tail {s u v : State E C} (h : s.Agrees u) (hr : v.registered = u.registered)
    (hp : v.parked = u.parked) (hl : v.latched = u.latched)
    (hc : ∀ c, v.chan c = u.chan c ∨ (v.chan c).paused = false) : s.Agrees v where
  registered := hr.trans h.registered
  parked := hp.trans h.parked
  latched := hl.trans h.latched
  chan c := by
    rcases hc c with hc | hc
    · rw [hc]
      exact h.chan c
    · exact .inr hc

theorem Arrived.agrees {s u : State E C} {c : C} (h : s.Arrived c u) : s.Agrees u :=
  ⟨h.registered, h.parked, h.latched, fun x => .inl (congrFun h.chan x)⟩

theorem arrived_greet (s : State E C) (owner : Option E) (c : C) (ok : Bool) :
    s.Arrived c ((s.emit (.arrive c)).write owner c .other ok) := by
  refine ⟨rfl, rfl, rfl, rfl, [_], rfl, ?_⟩
  intro x hx
  rw [List.mem_singleton.mp hx]
  exact .inl ⟨_, _, _, _, rfl⟩

variable [DecidableEq C]

theorem Agrees.shut {s u : State E C} (h : s.Agrees u) (c : C) (b : Bool) :
    s.Agrees (u.shut c b) := by
  apply h.tail (v := u.shut c b) rfl rfl rfl
  intro x
  by_cases hx : x = c
  · subst hx
    simpa [State.shut, emit, modifyChan] using shut_paused (u.chan x)
  · simp [State.shut, emit, modifyChan, hx]

variable [DecidableEq E]

theorem Agrees.speak {s u : State E C} (h : s.Agrees u) (e : E) (ok : Bool) :
    s.Agrees (u.next (.speak e ok)) := by
  rw [next]
  cases u.registered e with
  | none => exact h
  | some c => exact h.tail rfl rfl rfl fun _ => .inl rfl

theorem Arrived.enter {s u : State E C} {c : C} (h : s.Arrived c u) (e : E) :
    s.Arrived c (u.next (.enter e)) := by
  obtain ⟨xs, hxs, hx⟩ := h.trace
  refine ⟨h.registered, h.parked, h.latched, h.chan, .start e :: xs, ?_, ?_⟩
  · simp [next, emit, hxs]
  · intro x hmem
    rcases List.mem_cons.mp hmem with rfl | hmem
    · exact .inr ⟨e, rfl⟩
    · exact hx x hmem

end State

end

end Nearby.Swap
