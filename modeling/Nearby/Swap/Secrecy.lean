import Nearby.Lib.Trace
import Nearby.Swap.Machine

/-! A channel that has a cipher keeps it until the exchange is done with the channel: what is said
on it goes out encrypted, up to the goodbye. -/

namespace Nearby.Swap

open Lib

universe u v

noncomputable section

variable {E : Type u} {C : Type v}

def Event.Leaks (c : C) : Event E C → Prop
  | .write _ c' k _ encrypted _ => c' = c ∧ encrypted = false ∧ k ≠ .disconnection
  | _ => False

/-- `new` has happened since `c` was encrypted, and `c` is now as `st` says. -/
structure Sealed (c : C) (st : Chan) (new : List (Event E C)) : Prop where
  encrypted : st.encrypted = true ∨ .close c true ∈ new
  closed : .close c true ∈ new → st.closed = true
  leaks : Precedes (Event.Leaks c) (.close c true ∈ ·) new

section

variable {c c' : C} {st st' : Chan} {new : List (Event E C)} {x : Event E C}

theorem Sealed.cons (h : Sealed c st new) (hx : ¬ x.Leaks c) (hclose : x ≠ .close c true) :
    Sealed c st (x :: new) where
  encrypted := h.encrypted.imp_right (List.mem_cons_of_mem x)
  closed hmem := h.closed ((List.mem_cons.mp hmem).resolve_left (Ne.symm hclose))
  leaks := (precedes_cons ..).mpr ⟨fun hleak => absurd hleak hx, h.leaks⟩

theorem Sealed.write (h : Sealed c st new) (owner : Option E) (k : Kind) (paused ok : Bool) :
    Sealed c st (.write owner c k paused st.encrypted ok :: new) where
  encrypted := h.encrypted.imp_right (List.mem_cons_of_mem _)
  closed hmem := h.closed ((List.mem_cons.mp hmem).resolve_left (by simp))
  leaks := by
    refine (precedes_cons ..).mpr ⟨?_, h.leaks⟩
    rintro ⟨-, hclear, -⟩
    exact h.encrypted.resolve_left (by simp [hclear])

theorem Sealed.alter (h : Sealed c st new) (he : st.encrypted = true → st'.encrypted = true)
    (hc : st.closed = true → st'.closed = true) : Sealed c st' new where
  encrypted := h.encrypted.imp_left he
  closed hmem := hc (h.closed hmem)
  leaks := h.leaks

theorem closed_shut (st : Chan) : st.shut.closed = true := by
  by_cases h : st.closed <;> simp [Chan.shut, h]

theorem encrypted_shut (st : Chan) : st.shut.encrypted = st.encrypted := by
  by_cases h : st.closed <;> simp [Chan.shut, h]

theorem Sealed.shut (h : Sealed c st new) (b : Bool) : Sealed c st.shut (.close c b :: new) where
  encrypted := by
    rw [encrypted_shut]
    exact h.encrypted.imp_right (List.mem_cons_of_mem _)
  closed _ := closed_shut st
  leaks := (precedes_cons ..).mpr ⟨False.elim, h.leaks⟩

theorem Sealed.drain (h : Sealed c st new) (owner : Option E) (paused encrypted ok : Bool) :
    Sealed c ({ st with encrypted := false } : Chan).shut
      (.close c true :: .write owner c .disconnection paused encrypted ok :: new) where
  encrypted := .inr List.mem_cons_self
  closed _ := closed_shut _
  leaks := by
    refine (precedes_cons ..).mpr ⟨False.elim, (precedes_cons ..).mpr ⟨?_, h.leaks⟩⟩
    rintro ⟨-, -, hother⟩
    exact absurd rfl hother

end

namespace State

def Sealed (c : C) (past : List (Event E C)) (s : State E C) : Prop :=
  ∃ new, s.trace = new ++ past ∧ Swap.Sealed c (s.chan c) new

section

variable {c : C} {past : List (Event E C)} {s t : State E C} {e : E}

theorem Sealed.congr (h : s.Sealed c past) (hc : t.chan c = s.chan c) (ht : t.trace = s.trace) :
    t.Sealed c past := by
  obtain ⟨new, hnew, h⟩ := h
  exact ⟨new, ht.trans hnew, hc ▸ h⟩

theorem Sealed.emit (h : s.Sealed c past) {x : Event E C} (hx : ¬ x.Leaks c)
    (hclose : x ≠ .close c true) : (s.emit x).Sealed c past := by
  obtain ⟨new, hnew, h⟩ := h
  exact ⟨x :: new, congrArg (x :: ·) hnew, h.cons hx hclose⟩

variable [DecidableEq C]

theorem Sealed.write (h : s.Sealed c past) (owner : Option E) (c' : C) (k : Kind) (ok : Bool) :
    (s.write owner c' k ok).Sealed c past := by
  by_cases hc : c' = c
  case pos =>
    subst hc
    obtain ⟨new, hnew, h⟩ := h
    exact ⟨_ :: new, congrArg (_ :: ·) hnew, h.write owner k _ ok⟩
  case neg => exact h.emit (fun hleak => hc hleak.1) (by simp)

theorem Sealed.modifyChan (h : s.Sealed c past) (c' : C) {f : Chan → Chan}
    (he : ∀ st, st.encrypted = true → (f st).encrypted = true)
    (hc : ∀ st, st.closed = true → (f st).closed = true) : (s.modifyChan c' f).Sealed c past := by
  obtain ⟨new, hnew, h⟩ := h
  refine ⟨new, hnew, ?_⟩
  by_cases hcc : c = c'
  case pos =>
    subst hcc
    simp only [State.modifyChan, Function.update_self]
    exact h.alter (he _) (hc _)
  case neg =>
    simp only [State.modifyChan, Function.update_of_ne hcc]
    exact h

theorem Sealed.shut (h : s.Sealed c past) (c' : C) (b : Bool) : (s.shut c' b).Sealed c past := by
  by_cases hc : c = c'
  case pos =>
    subst hc
    obtain ⟨new, hnew, h⟩ := h
    refine ⟨_ :: new, congrArg (_ :: ·) hnew, ?_⟩
    simp only [State.shut, State.emit, State.modifyChan, Function.update_self]
    exact h.shut b
  case neg =>
    have hshut := h.modifyChan c' (f := Chan.shut) (fun st hst => (encrypted_shut st).trans hst)
      fun st _ => closed_shut st
    refine hshut.emit id fun hclose => ?_
    cases hclose
    exact hc rfl

theorem Sealed.hold (h : s.Sealed c past) (c' : C) : (s.hold c').Sealed c past :=
  h.modifyChan c' (fun _ => id) fun _ => id

theorem Sealed.release (h : s.Sealed c past) (c' : C) : (s.release c').Sealed c past :=
  h.modifyChan c' (fun _ => id) fun _ => id

variable [DecidableEq E]

theorem Sealed.drain (h : s.Sealed c past) (e : E) (c' : C) (ok : Bool) :
    (s.drain e c' ok).Sealed c past := by
  by_cases hc : c = c'
  case pos =>
    subst hc
    obtain ⟨new, hnew, h⟩ := h
    refine ⟨_ :: _ :: new, congrArg (_ :: _ :: ·) hnew, ?_⟩
    simp only [State.drain, State.shut, State.write, State.decipher, State.emit, State.setParked,
      State.modifyChan, Function.update_self]
    exact h.drain (some e) _ _ ok
  case neg =>
    have hdeciphered : ((s.setParked e none).decipher c').Sealed c past := by
      refine h.congr ?_ rfl
      simp only [decipher, State.modifyChan, Function.update_of_ne hc, setParked]
    exact (hdeciphered.write (some e) c' .disconnection ok).shut c' true

theorem Sealed.answer (h : s.Sealed c past) (e : E) (ok : Bool) :
    (s.answer e ok).Sealed c past := by
  rw [State.answer]
  cases s.parked e with
  | none => exact h.congr rfl rfl
  | some c' =>
    cases ok with
    | true => exact h.write (some e) c' .safeToClose true
    | false =>
      exact ((h.write (some e) c' .safeToClose false).shut c' false).congr rfl rfl

theorem Sealed.swap (h : s.Sealed c past) (e : E) (c' : C) (ok ok' : Bool) :
    (s.swap e c' ok ok').Sealed c past := by
  rw [State.swap]
  cases s.registered e with
  | none => exact h.hold c'
  | some old =>
    have hplaced : ((s.hold c').setRegistered e (some c')).Sealed c past :=
      (h.hold c').congr rfl rfl
    have hd : ∀ ok, (s.displace e c' old ok).Sealed c past :=
      fun ok => hplaced.write (some e) old .lastWrite ok
    cases ok with
    | false => exact hd false
    | true =>
      have hset : ((s.displace e c' old true).setParked e (some old)).Sealed c past :=
        (hd true).congr rfl rfl
      have hp : ((s.displace e c' old true).park e old).Sealed c past := hset.emit id (by simp)
      dsimp only
      rw [if_pos rfl]
      split
      case isTrue =>
        have hu : (((s.displace e c' old true).park e old).unlatch e).Sealed c past :=
          hp.congr rfl rfl
        exact hu.answer e ok'
      case isFalse => exact hp

theorem Sealed.complete (h : s.Sealed c past) (e : E) (ok : Bool) :
    (s.complete e ok).Sealed c past := by
  rw [State.complete]
  cases s.parked e with
  | none => exact h
  | some old =>
    have hd := h.drain e old ok
    cases s.registered e with
    | none => exact hd
    | some n => exact ((hd.release n).emit (x := .report e) id (by simp)).congr rfl rfl

theorem Sealed.dropParked (h : s.Sealed c past) (e : E) : (s.dropParked e).Sealed c past := by
  rw [State.dropParked]
  cases s.parked e with
  | none => exact h
  | some old =>
    have hset : (s.setParked e none).Sealed c past := h.congr rfl rfl
    exact hset.shut old false

theorem Sealed.closeOutOfSync (h : s.Sealed c past) (e : E) :
    (s.closeOutOfSync e).Sealed c past := by
  have hd := h.dropParked e
  rw [State.closeOutOfSync]
  cases (s.dropParked e).registered e with
  | none => exact hd
  | some n => exact (hd.release n).shut n false

theorem Sealed.next (h : s.Sealed c past) (l : Label E C) : (s.next l).Sealed c past := by
  cases l with
  | arrive c' => exact h.emit id (by simp)
  | register e c' =>
    have hset : (s.setRegistered e (some c')).Sealed c past := h.congr rfl rfl
    exact hset.emit id (by simp)
  | unregister | leave | shutdown => exact h.congr rfl rfl
  | greet owner c' ok => exact h.write owner c' .other ok
  | speak e ok =>
    rw [State.next]
    cases s.registered e with
    | none => exact h
    | some c' => exact h.write (some e) c' .other ok
  | hangUp c' => exact h.shut c' false
  | enter e =>
    have hin : ({ s with inProgress := insert e s.inProgress } : State E C).Sealed c past :=
      h.congr rfl rfl
    exact hin.emit id (by simp)
  | swap e c' ok ok' => exact h.swap e c' ok ok'
  | lastWrite e ok => exact (h.emit (x := .lastWrite e) id (by simp)).answer e ok
  | complete e ok => exact h.complete e ok
  | closeOutOfSync e => exact h.closeOutOfSync e
  | disconnect e => exact (h.dropParked e).congr rfl rfl
  | ownerClose c' =>
    exact h.modifyChan c' (fun st hst => (encrypted_shut st).trans hst) fun st _ => closed_shut st
  | ownerEncrypt c' => exact h.modifyChan c' (fun _ _ => rfl) fun _ => id

end

theorem sealed_of_encrypted {s : State E C} {c : C} (h : (s.chan c).encrypted = true) :
    s.Sealed c s.trace :=
  ⟨[], rfl, .inl h, fun hmem => absurd hmem List.not_mem_nil, precedes_nil _ _⟩

end State

end

end Nearby.Swap
