import Mathlib.Data.List.Nodup
import Nearby.Swap.Machine

/-! Where no channel arrives twice, a channel has one life: it is registered, it is
displaced by a LAST_WRITE and parked, it says goodbye and is gone. -/

namespace Nearby.Swap

universe u v

noncomputable section

variable {E : Type u} {C : Type v}

def Event.arrival : Event E C → Option C
  | .arrive c => some c
  | _ => none

def arrivals (tr : List (Event E C)) : List C := tr.filterMap Event.arrival

variable {e : E} {c c' : C} {x : Event E C} {tr : List (Event E C)}

theorem arrivals_cons (h : c ∈ arrivals tr) : c ∈ arrivals (x :: tr) :=
  List.mem_filterMap.mpr <| by
    obtain ⟨y, hy, hc⟩ := List.mem_filterMap.mp h
    exact ⟨y, List.mem_cons_of_mem _ hy, hc⟩

section

variable [DecidableEq E]

theorem update_none_eq_some {f : E → Option C} {e' : E}
    (h : Function.update f e none e' = some c) : f e' = some c := by
  by_cases he : e' = e
  · subst he
    simp at h
  · rwa [Function.update_of_ne he] at h

theorem update_some_cases {f : E → Option C} {e' : E}
    (h : Function.update f e (some c) e' = some c') :
    (e' = e ∧ c' = c) ∨ (e' ≠ e ∧ f e' = some c') := by
  by_cases he : e' = e
  · subst he
    rw [Function.update_self] at h
    exact .inl ⟨rfl, (Option.some.inj h).symm⟩
  · rw [Function.update_of_ne he] at h
    exact .inr ⟨he, h⟩

end

variable [DecidableEq C]

inductive Phase : Type
  | live
  | draining
  | ended
  | broken
  deriving DecidableEq

/-- What a write does to a channel: a successful LAST_WRITE begins the draining, in which
only answers and one clear goodbye are left. -/
def Phase.write : Phase → Kind → Bool → Bool → Phase
  | .live, .lastWrite, _, true => .draining
  | .live, _, _, _ => .live
  | .draining, .safeToClose, _, _ => .draining
  | .draining, .disconnection, false, _ => .ended
  | _, _, _, _ => .broken

def phase (c : C) : List (Event E C) → Phase
  | [] => .live
  | .write _ c' k _ encrypted ok :: tr =>
    if c' = c then (phase c tr).write k encrypted ok else phase c tr
  | _ :: tr => phase c tr

def Event.IsWrite (c : C) : Event E C → Prop
  | .write _ c' _ _ _ _ => c' = c
  | _ => False

theorem phase_cons (hx : ¬ x.IsWrite c) : phase c (x :: tr) = phase c tr := by
  cases x with
  | write _ c' => exact if_neg hx
  | _ => rfl

theorem phase_write (o : Option E) (k : Kind) (p q ok : Bool) :
    phase c (.write o c k p q ok :: tr) = (phase c tr).write k q ok := if_pos rfl

theorem phase_write_ne (hc : c' ≠ c) (o : Option E) (k : Kind) (p q ok : Bool) :
    phase c (.write o c' k p q ok :: tr) = phase c tr := if_neg hc

/-- The registry, the parking place and the trace agree on where every channel is in
its life. -/
structure Books (registered parked : E → Option C) (chan : C → Chan) (tr : List (Event E C)) :
    Prop where
  registered_arrived : ∀ {e c}, registered e = some c → c ∈ arrivals tr
  parked_arrived : ∀ {e c}, parked e = some c → c ∈ arrivals tr
  paused_arrived : ∀ {c}, (chan c).paused = true → c ∈ arrivals tr
  unseen_live : ∀ {c}, c ∉ arrivals tr → phase c tr = .live
  registered_inj : ∀ {e e' c}, registered e = some c → registered e' = some c → e = e'
  parked_inj : ∀ {e e' c}, parked e = some c → parked e' = some c → e = e'
  registered_unparked : ∀ {e e' c}, registered e = some c → parked e' ≠ some c
  registered_live : ∀ {e c}, registered e = some c → phase c tr = .live
  parked_draining : ∀ {e c}, parked e = some c → phase c tr = .draining
  unbroken : ∀ c, phase c tr ≠ .broken

/-- `c` has arrived and has no place yet. -/
structure Loose (registered parked : E → Option C) (tr : List (Event E C)) (c : C) : Prop where
  arrived : c ∈ arrivals tr
  unregistered : ∀ e, registered e ≠ some c
  unparked : ∀ e, parked e ≠ some c
  live : phase c tr = .live

variable {registered parked : E → Option C} {chan : C → Chan}

/-! ### What is left to say after a LAST_WRITE -/

def Phase.rank : Phase → Nat
  | .live => 0
  | .draining => 1
  | .ended => 2
  | .broken => 3

theorem Phase.rank_write (p : Phase) (k : Kind) (q ok : Bool) : p.rank ≤ (p.write k q ok).rank := by
  cases p <;> cases k <;> cases q <;> cases ok <;> decide

theorem phase_mono (c : C) (xs tr : List (Event E C)) :
    (phase c tr).rank ≤ (phase c (xs ++ tr)).rank := by
  induction xs with
  | nil => exact le_rfl
  | cons x xs ih =>
    cases x with
    | write o c' k p q ok =>
      rw [List.cons_append]
      by_cases hc : c' = c
      · subst hc
        rw [phase_write]
        exact ih.trans (Phase.rank_write _ k q ok)
      · rwa [phase_write_ne hc]
    | _ => exact ih

theorem phase_unbroken {xs : List (Event E C)} (h : phase c (xs ++ tr) ≠ .broken) :
    phase c tr ≠ .broken := by
  intro hb
  have hm := phase_mono c xs tr
  rw [hb] at hm
  cases hp : phase c (xs ++ tr) <;> simp_all [Phase.rank]

theorem Phase.write_unbroken {p : Phase} {k : Kind} {q ok : Bool} (hl : 1 ≤ p.rank)
    (hb : p.write k q ok ≠ .broken) :
    p = .draining ∧ (k = .safeToClose ∨ (k = .disconnection ∧ q = false)) := by
  cases p <;> cases k <;> cases q <;> simp_all [Phase.write, Phase.rank]

theorem Phase.write_lastWrite (p : Phase) (q : Bool) : 1 ≤ (p.write .lastWrite q true).rank := by
  cases p <;> cases q <;> decide

theorem Phase.write_disconnection {p : Phase} (hl : 1 ≤ p.rank) (q ok : Bool) :
    2 ≤ (p.write .disconnection q ok).rank := by
  cases p <;> cases q <;> simp_all [Phase.write, Phase.rank]

/-- After a successful LAST_WRITE on `c`, a write on it is an answer or a clear goodbye,
and no goodbye came before it. -/
theorem write_after_lastWrite {xs ys : List (Event E C)} {o o' : Option E} {k : Kind}
    {p p' q q' ok : Bool}
    (h : phase c (xs ++ .write o c k p q ok :: (ys ++ .write o' c .lastWrite p' q' true :: tr))
      ≠ .broken) :
    (k = .safeToClose ∨ (k = .disconnection ∧ q = false)) ∧
      ∀ o p q ok, .write o c .disconnection p q ok ∉ ys := by
  have hlast : ∀ zs : List (Event E C),
      1 ≤ (phase c (zs ++ .write o' c .lastWrite p' q' true :: tr)).rank := by
    intro zs
    refine le_trans ?_ (phase_mono c zs _)
    rw [phase_write]
    exact Phase.write_lastWrite _ _
  have hw := phase_unbroken h
  rw [phase_write] at hw
  obtain ⟨hdrain, hk⟩ := Phase.write_unbroken (hlast ys) hw
  refine ⟨hk, fun o₁ p₁ q₁ ok₁ hmem => ?_⟩
  obtain ⟨ys₁, ys₂, rfl⟩ := List.append_of_mem hmem
  rw [List.append_assoc, List.cons_append] at hdrain
  have hended := phase_mono c ys₁
    (.write o₁ c .disconnection p₁ q₁ ok₁ :: (ys₂ ++ .write o' c .lastWrite p' q' true :: tr))
  rw [hdrain, phase_write] at hended
  have hrank := (Phase.write_disconnection (hlast ys₂) q₁ ok₁).trans hended
  simp [Phase.rank] at hrank

/-! ### The elementary changes -/

theorem Books.cons (h : Books registered parked chan tr) (hx : ∀ c, ¬ x.IsWrite c) :
    Books registered parked chan (x :: tr) where
  registered_arrived hr := arrivals_cons (h.registered_arrived hr)
  parked_arrived hp := arrivals_cons (h.parked_arrived hp)
  paused_arrived hp := arrivals_cons (h.paused_arrived hp)
  unseen_live hn := (phase_cons (hx _)).trans (h.unseen_live fun hc => hn (arrivals_cons hc))
  registered_inj := h.registered_inj
  parked_inj := h.parked_inj
  registered_unparked := h.registered_unparked
  registered_live hr := (phase_cons (hx _)).trans (h.registered_live hr)
  parked_draining hp := (phase_cons (hx _)).trans (h.parked_draining hp)
  unbroken c := by
    rw [phase_cons (hx c)]
    exact h.unbroken c

theorem Books.write (h : Books registered parked chan tr) (hc : c ∈ arrivals tr) {o : Option E}
    {k : Kind} {p q ok : Bool}
    (hreg : ∀ e, registered e = some c → (phase c tr).write k q ok = .live)
    (hpark : ∀ e, parked e = some c → (phase c tr).write k q ok = .draining)
    (hb : (phase c tr).write k q ok ≠ .broken) :
    Books registered parked chan (.write o c k p q ok :: tr) := by
  have hne : ∀ c', c' ≠ c →
      phase c' (Event.write o c k p q ok :: tr) = phase c' tr := fun c' hc' =>
    phase_cons fun (hw : c = c') => hc' hw.symm
  refine ⟨fun hr => arrivals_cons (h.registered_arrived hr),
    fun hp => arrivals_cons (h.parked_arrived hp), fun hp => arrivals_cons (h.paused_arrived hp),
    fun {c'} hn => ?_, h.registered_inj, h.parked_inj, h.registered_unparked,
    fun {e c'} hr => ?_, fun {e c'} hp => ?_, fun c' => ?_⟩
  · have hn' : c' ∉ arrivals tr := fun hm => hn (arrivals_cons hm)
    rw [hne c' fun he => hn' (he ▸ hc)]
    exact h.unseen_live hn'
  · by_cases he : c' = c
    · subst he
      rw [phase_write]
      exact hreg e hr
    · rw [hne c' he]
      exact h.registered_live hr
  · by_cases he : c' = c
    · subst he
      rw [phase_write]
      exact hpark e hp
    · rw [hne c' he]
      exact h.parked_draining hp
  · by_cases he : c' = c
    · subst he
      rw [phase_write]
      exact hb
    · rw [hne c' he]
      exact h.unbroken c'

theorem Books.update (h : Books registered parked chan tr) {st : Chan}
    (hc : st.paused = true → c ∈ arrivals tr) :
    Books registered parked (Function.update chan c st) tr := by
  refine { h with paused_arrived := fun {c'} hp => ?_ }
  by_cases he : c' = c
  · subst he
    rw [Function.update_self] at hp
    exact hc hp
  · rw [Function.update_of_ne he] at hp
    exact h.paused_arrived hp

theorem Books.unpausing (h : Books registered parked chan tr) {st : Chan}
    (hst : st.paused = true → (chan c).paused = true) :
    Books registered parked (Function.update chan c st) tr :=
  h.update fun hp => h.paused_arrived (hst hp)

section

variable [DecidableEq E]

theorem Books.unpark (h : Books registered parked chan tr) (e : E) :
    Books registered (Function.update parked e none) chan tr :=
  { h with
    parked_arrived := fun hp => h.parked_arrived (update_none_eq_some hp)
    parked_inj := fun hp hp' => h.parked_inj (update_none_eq_some hp) (update_none_eq_some hp')
    registered_unparked := fun hr hp => h.registered_unparked hr (update_none_eq_some hp)
    parked_draining := fun hp => h.parked_draining (update_none_eq_some hp) }

theorem Books.unregister (h : Books registered parked chan tr) (e : E) :
    Books (Function.update registered e none) parked chan tr :=
  { h with
    registered_arrived := fun hr => h.registered_arrived (update_none_eq_some hr)
    registered_inj := fun hr hr' =>
      h.registered_inj (update_none_eq_some hr) (update_none_eq_some hr')
    registered_unparked := fun hr => h.registered_unparked (update_none_eq_some hr)
    registered_live := fun hr => h.registered_live (update_none_eq_some hr) }

theorem Books.register (h : Books registered parked chan tr)
    (hl : Loose registered parked tr c) (e : E) :
    Books (Function.update registered e (some c)) parked chan tr := by
  refine { h with
    registered_arrived := fun hr => ?_
    registered_inj := fun {e₁ e₂ c'} hr hr' => ?_
    registered_unparked := fun hr => ?_
    registered_live := fun hr => ?_ }
  · rcases update_some_cases hr with ⟨-, rfl⟩ | ⟨-, hr⟩
    · exact hl.arrived
    · exact h.registered_arrived hr
  · rcases update_some_cases hr with ⟨rfl, rfl⟩ | ⟨-, hr₁⟩
    · rcases update_some_cases hr' with ⟨rfl, -⟩ | ⟨-, hr₂⟩
      · rfl
      · exact absurd hr₂ (hl.unregistered e₂)
    · rcases update_some_cases hr' with ⟨rfl, rfl⟩ | ⟨-, hr₂⟩
      · exact absurd hr₁ (hl.unregistered e₁)
      · exact h.registered_inj hr₁ hr₂
  · rcases update_some_cases hr with ⟨-, rfl⟩ | ⟨-, hr⟩
    · exact hl.unparked _
    · exact h.registered_unparked hr
  · rcases update_some_cases hr with ⟨-, rfl⟩ | ⟨-, hr⟩
    · exact hl.live
    · exact h.registered_live hr

theorem Books.park (h : Books registered parked chan tr) (hc : c ∈ arrivals tr)
    (hd : phase c tr = .draining) (hr : ∀ e, registered e ≠ some c)
    (hp : ∀ e, parked e ≠ some c) (e : E) :
    Books registered (Function.update parked e (some c)) chan tr := by
  refine { h with
    parked_arrived := fun hp' => ?_
    parked_inj := fun {e₁ e₂ c'} hp₁ hp₂ => ?_
    registered_unparked := fun {e₁ e₂ c'} hr' hp' => ?_
    parked_draining := fun hp' => ?_ }
  · rcases update_some_cases hp' with ⟨-, rfl⟩ | ⟨-, hp'⟩
    · exact hc
    · exact h.parked_arrived hp'
  · rcases update_some_cases hp₁ with ⟨rfl, rfl⟩ | ⟨-, hq₁⟩
    · rcases update_some_cases hp₂ with ⟨rfl, -⟩ | ⟨-, hq₂⟩
      · rfl
      · exact absurd hq₂ (hp e₂)
    · rcases update_some_cases hp₂ with ⟨rfl, rfl⟩ | ⟨-, hq₂⟩
      · exact absurd hq₁ (hp e₁)
      · exact h.parked_inj hq₁ hq₂
  · rcases update_some_cases hp' with ⟨-, rfl⟩ | ⟨-, hp'⟩
    · exact hr e₁ hr'
    · exact h.registered_unparked hr' hp'
  · rcases update_some_cases hp' with ⟨-, rfl⟩ | ⟨-, hp'⟩
    · exact hd
    · exact h.parked_draining hp'

end

/-! ### The exchange -/

namespace State

abbrev Booked (s : State E C) : Prop := Books s.registered s.parked s.chan s.trace

abbrev Loose (s : State E C) (c : C) : Prop := Swap.Loose s.registered s.parked s.trace c

variable {s : State E C}

theorem Chan.shut_unpausing (st : Chan) : st.shut.paused = true → st.paused = true := by
  cases h : st.closed <;> simp [Chan.shut, h]

theorem Booked.shut (h : s.Booked) (c : C) (b : Bool) : (s.shut c b).Booked :=
  (h.unpausing (Chan.shut_unpausing (s.chan c))).cons fun _ => id

theorem Booked.release (h : s.Booked) (c : C) : (s.release c).Booked :=
  h.unpausing nofun

theorem Booked.hold (h : s.Booked) (hc : c ∈ arrivals s.trace) : (s.hold c).Booked :=
  h.update fun _ => hc

theorem Booked.loose_arrive (h : s.Booked) (hc : c ∉ arrivals s.trace) :
    (s.emit (.arrive c)).Loose c where
  arrived := List.mem_cons_self
  unregistered _ hr := hc (h.registered_arrived hr)
  unparked _ hp := hc (h.parked_arrived hp)
  live := h.unseen_live hc

theorem Booked.arrive (h : s.Booked) (c : C) : (s.emit (.arrive c)).Booked := h.cons fun _ => id

theorem phase_greeted {xs : List (Event E C)} (hc : phase c tr = .live)
    (hxs : ∀ x ∈ xs, (∃ o p q b, x = .write o c .other p q b) ∨ ∃ e, x = .start e) :
    phase c (xs ++ tr) = .live := by
  induction xs with
  | nil => exact hc
  | cons x xs ih =>
    have hx := ih fun y hy => hxs y (List.mem_cons_of_mem _ hy)
    rcases hxs x List.mem_cons_self with ⟨o, p, q, b, rfl⟩ | ⟨e, rfl⟩
    · rw [List.cons_append, phase_write, hx, Phase.write]
      nofun
    · exact hx

theorem Booked.loose_arrived (h : s.Booked) {u : State E C} (ha : s.Arrived c u)
    (hn : (arrivals u.trace).Nodup) : u.Loose c := by
  obtain ⟨xs, hxs, hgreet⟩ := ha.trace
  have hc : c ∉ arrivals s.trace := by
    rw [hxs, arrivals, List.filterMap_append] at hn
    exact (List.nodup_cons.mp hn.of_append_right).1
  have hl := h.loose_arrive hc
  refine ⟨?_, ?_, ?_, ?_⟩
  · rw [hxs, arrivals, List.filterMap_append]
    exact List.mem_append_right _ List.mem_cons_self
  · rw [ha.registered]
    exact hl.unregistered
  · rw [ha.parked]
    exact hl.unparked
  · rw [hxs]
    exact phase_greeted hl.live hgreet

theorem Booked.greet (h : s.Booked) (hl : s.Loose c) (o : Option E) (ok : Bool) :
    (s.write o c .other ok).Booked := by
  apply Books.write h hl.arrived
  · intro e hr
    exact absurd hr (hl.unregistered e)
  · intro e hp
    exact absurd hp (hl.unparked e)
  · rw [hl.live, Phase.write]
    · decide
    · nofun

variable [DecidableEq E]

theorem Booked.answer (h : s.Booked) (e : E) (ok : Bool) : (s.answer e ok).Booked := by
  have hw : ∀ {c} ok, s.parked e = some c → (s.write (some e) c .safeToClose ok).Booked := by
    intro c ok hp
    have hph : (phase c s.trace).write .safeToClose (s.chan c).encrypted ok = .draining := by
      rw [h.parked_draining hp, Phase.write]
    apply Books.write h (h.parked_arrived hp)
    · intro e' hr
      exact absurd hp (h.registered_unparked hr)
    · exact fun _ _ => hph
    · rw [hph]
      decide
  rw [State.answer]
  cases hp : s.parked e with
  | none => exact h
  | some c =>
    cases ok with
    | true => exact hw true hp
    | false => exact Books.unpark (Booked.shut (hw false hp) c false) e

theorem registered_displaced (h : s.Booked) (hl : s.Loose c) {old : C}
    (hr : s.registered e = some old) (e' : E) :
    Function.update s.registered e (some c) e' ≠ some old := by
  intro hr'
  by_cases he : e' = e
  · subst he
    rw [Function.update_self] at hr'
    exact hl.unregistered e' (hr'.symm ▸ hr)
  · rw [Function.update_of_ne he] at hr'
    exact he (h.registered_inj hr' hr)

theorem Booked.displace (h : s.Booked) (hl : s.Loose c) {old : C}
    (hr : s.registered e = some old) (ok : Bool) : (s.displace e c old ok).Booked := by
  have h₁ : ((s.hold c).setRegistered e (some c)).Booked := (h.hold hl.arrived).register hl e
  have hph : ∀ q, (phase old s.trace).write .lastWrite q ok ≠ .broken := by
    intro q
    rw [h.registered_live hr]
    cases ok <;> simp [Phase.write]
  apply Books.write h₁ (h.registered_arrived hr)
  · intro e' hr'
    exact absurd hr' (registered_displaced h hl hr e')
  · intro e' hp
    exact absurd hp (h.registered_unparked hr)
  · exact hph _

theorem Booked.swap (h : s.Booked) (hl : s.Loose c) (e : E) (ok ok' : Bool) :
    (s.swap e c ok ok').Booked := by
  rw [State.swap]
  cases hr : s.registered e with
  | none => exact h.hold hl.arrived
  | some old =>
    have hd := fun ok => h.displace hl hr ok
    cases ok with
    | false => exact hd false
    | true =>
      have hph : phase old (s.displace e c old true).trace = .draining := by
        rw [State.displace, State.write, State.emit, phase_write]
        change (phase old s.trace).write _ _ _ = _
        rw [h.registered_live hr, Phase.write]
      have hp : ((s.displace e c old true).park e old).Booked :=
        Books.cons (Books.park (hd true) (arrivals_cons (h.registered_arrived hr)) hph
          (registered_displaced h hl hr) (fun _ => h.registered_unparked hr) e) fun _ => id
      dsimp only
      rw [if_pos rfl]
      split
      case isTrue =>
        exact Booked.answer (s := ((s.displace e c old true).park e old).unlatch e) hp e ok'
      case isFalse => exact hp

theorem Booked.drain (h : s.Booked) (hp : s.parked e = some c) (ok : Bool) :
    (s.drain e c ok).Booked := by
  have h₁ : ((s.setParked e none).decipher c).Booked := (h.unpark e).unpausing id
  have hph : (phase c s.trace).write .disconnection false ok = .ended := by
    rw [h.parked_draining hp, Phase.write]
  apply Booked.shut
  apply Books.write h₁ (h.parked_arrived hp)
  · intro e' hr
    exact absurd hp (h.registered_unparked hr)
  · intro e' hp'
    have he : e' = e := h.parked_inj (update_none_eq_some hp') hp
    subst he
    simp [decipher, modifyChan, setParked] at hp'
  · simp [decipher, modifyChan, setParked, hph]

theorem Booked.complete (h : s.Booked) (e : E) (ok : Bool) : (s.complete e ok).Booked := by
  rw [State.complete]
  cases hp : s.parked e with
  | none => exact h
  | some c =>
    cases s.registered e with
    | none => exact h.drain hp ok
    | some n => exact Books.cons (Booked.release (h.drain hp ok) n) fun _ => id

theorem Booked.dropParked (h : s.Booked) (e : E) : (s.dropParked e).Booked := by
  rw [State.dropParked]
  cases s.parked e with
  | none => exact h
  | some c => exact Booked.shut (h.unpark e) c false

theorem nodup_of_next {l : Label E C} (h : (arrivals (s.next l).trace).Nodup) :
    (arrivals s.trace).Nodup := by
  obtain ⟨xs, hxs, -⟩ := grows_next s l
  rw [hxs, arrivals, List.filterMap_append] at h
  exact h.of_append_right

def Placed (s : State E C) : Label E C → Prop
  | .greet _ c _ => s.Loose c
  | .swap _ c _ _ => s.Loose c
  | _ => True

theorem Booked.speak (h : s.Booked) (e : E) (ok : Bool) : (s.next (.speak e ok)).Booked := by
  rw [next]
  cases hr : s.registered e with
  | none => exact h
  | some c =>
    have hph : (phase c s.trace).write .other (s.chan c).encrypted ok = .live := by
      rw [h.registered_live hr, Phase.write]
      simp
    apply Books.write h (h.registered_arrived hr)
    · exact fun _ _ => hph
    · intro e' hp
      exact absurd hp (h.registered_unparked hr)
    · rw [hph]
      decide

theorem Booked.closeOutOfSync (h : s.Booked) (e : E) : (s.closeOutOfSync e).Booked := by
  have hd := h.dropParked e
  rw [State.closeOutOfSync]
  cases (s.dropParked e).registered e with
  | none => exact hd
  | some c => exact Booked.shut (hd.release c) c false

theorem Booked.next (h : s.Booked) {l : Label E C} (hl : s.Placed l)
    (hn : (arrivals (s.next l).trace).Nodup) : (s.next l).Booked := by
  cases l with
  | arrive c => exact h.arrive c
  | register e c =>
    have hc : c ∉ arrivals s.trace := (List.nodup_cons.mp hn).1
    exact (h.arrive c).register (h.loose_arrive hc) e
  | unregister e => exact h.unregister e
  | greet o c ok => exact h.greet hl o ok
  | speak e ok => exact h.speak e ok
  | hangUp c => exact h.shut c false
  | enter e => exact h.cons fun _ => id
  | leave e => exact h
  | swap e c ok ok' => exact h.swap hl e ok ok'
  | lastWrite e ok =>
    have hx : (s.emit (.lastWrite e)).Booked := h.cons fun _ => id
    exact hx.answer e ok
  | complete e ok => exact h.complete e ok
  | closeOutOfSync e => exact h.closeOutOfSync e
  | disconnect e => exact h.dropParked e
  | shutdown => exact { h with
      parked_arrived := nofun
      parked_inj := nofun
      registered_unparked := nofun
      parked_draining := nofun }
  | ownerClose c => exact h.unpausing (Chan.shut_unpausing (s.chan c))
  | ownerEncrypt c => exact h.unpausing id

end State

end

end Nearby.Swap
