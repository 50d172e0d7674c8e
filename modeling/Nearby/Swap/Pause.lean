import Nearby.Swap.Retire

/-! Paused channels.  An exchange holds the channel it brings in until the other one is
gone: nobody may write on it before that, and somebody must still be able to release it. -/

namespace Nearby.Swap

universe u v

noncomputable section

variable {E : Type u} {C : Type v}

/-! ### No write on a paused channel -/

def Event.Blocks : Event E C → Prop
  | .write _ _ _ paused _ _ => paused = true
  | _ => False

structure Calm (parked : E → Option C) (chan : C → Chan) (tr : List (Event E C)) : Prop where
  released : ∀ {e c}, parked e = some c → (chan c).paused = false
  unblocked : ∀ x ∈ tr, ¬ x.Blocks

variable {e : E} {c : C} {x : Event E C} {tr : List (Event E C)} {parked : E → Option C}
  {chan : C → Chan}

theorem Calm.cons (h : Calm parked chan tr) (hx : ¬ x.Blocks) : Calm parked chan (x :: tr) :=
  ⟨h.released, List.forall_mem_cons.mpr ⟨hx, h.unblocked⟩⟩

section

variable [DecidableEq E]

theorem Calm.unpark (h : Calm parked chan tr) (e : E) :
    Calm (Function.update parked e none) chan tr :=
  ⟨fun hp => h.released (update_none_eq_some hp), h.unblocked⟩

theorem Calm.park (h : Calm parked chan tr) (hc : (chan c).paused = false) (e : E) :
    Calm (Function.update parked e (some c)) chan tr := by
  refine ⟨fun hp => ?_, h.unblocked⟩
  rcases update_some_cases hp with ⟨-, rfl⟩ | ⟨-, hp⟩
  · exact hc
  · exact h.released hp

end

section

variable [DecidableEq C]

theorem Calm.update (h : Calm parked chan tr) {st : Chan}
    (hst : st.paused = true → ∀ e, parked e ≠ some c) :
    Calm parked (Function.update chan c st) tr := by
  refine ⟨fun {e c'} hp => ?_, h.unblocked⟩
  by_cases hc : c' = c
  · subst hc
    rw [Function.update_self]
    cases hs : st.paused with
    | false => rfl
    | true => exact absurd hp (hst hs e)
  · rw [Function.update_of_ne hc]
    exact h.released hp

theorem Calm.unpausing (h : Calm parked chan tr) {st : Chan}
    (hst : st.paused = true → (chan c).paused = true) :
    Calm parked (Function.update chan c st) tr := by
  refine h.update fun hs e hp => ?_
  have hc := h.released hp
  rw [hst hs] at hc
  cases hc

end

namespace State

abbrev Calmed (s : State E C) : Prop := Calm s.parked s.chan s.trace

def Audible (s : State E C) : Label E C → Prop
  | .speak e _ => ∀ c, s.registered e = some c → (s.chan c).paused = false
  | .greet _ c _ => (s.chan c).paused = false
  | .swap e _ _ _ => ∀ c, s.registered e = some c → (s.chan c).paused = false
  | _ => True

variable {s : State E C}

theorem Calmed.write (h : s.Calmed) (hc : (s.chan c).paused = false) (o : Option E) (k : Kind)
    (ok : Bool) : (s.write o c k ok).Calmed := by
  apply Calm.cons h
  simp [Event.Blocks, hc]

variable [DecidableEq C]

theorem Calmed.shut (h : s.Calmed) (c : C) (b : Bool) : (s.shut c b).Calmed :=
  Calm.cons (h.unpausing (Chan.shut_unpausing (s.chan c))) id

variable [DecidableEq E]

theorem Calmed.answer (h : s.Calmed) (e : E) (ok : Bool) : (s.answer e ok).Calmed := by
  rw [State.answer]
  cases hp : s.parked e with
  | none => exact h
  | some c =>
    have hw := fun ok => h.write (h.released hp) (some e) .safeToClose ok
    cases ok with
    | true => exact hw true
    | false => exact Calm.unpark (Calmed.shut (hw false) c false) e

theorem Calmed.swap (h : s.Calmed) (hl : s.Loose c)
    (hr : ∀ old, s.registered e = some old → (s.chan old).paused = false) (ok ok' : Bool) :
    (s.swap e c ok ok').Calmed := by
  have hh : (s.hold c).Calmed := h.update fun _ => hl.unparked
  rw [State.swap]
  cases hreg : s.registered e with
  | none => exact hh
  | some old =>
    have hne : old ≠ c := by
      rintro rfl
      exact hl.unregistered e hreg
    have hold : ((s.hold c).chan old).paused = false := by
      simpa [State.hold, modifyChan, hne] using hr old hreg
    have hd : ∀ ok, (s.displace e c old ok).Calmed := fun ok =>
      Calmed.write (s := (s.hold c).setRegistered e (some c)) hh hold (some e) .lastWrite ok
    cases ok with
    | false => exact hd false
    | true =>
      have hp : ((s.displace e c old true).park e old).Calmed :=
        Calm.cons (Calm.park (hd true) hold e) id
      dsimp only
      rw [if_pos rfl]
      split
      case isTrue =>
        exact Calmed.answer (s := ((s.displace e c old true).park e old).unlatch e) hp e ok'
      case isFalse => exact hp

theorem Calmed.complete (h : s.Calmed) (e : E) (ok : Bool) : (s.complete e ok).Calmed := by
  rw [State.complete]
  cases hp : s.parked e with
  | none => exact h
  | some c =>
    have h₁ : ((s.setParked e none).decipher c).Calmed := (h.unpark e).unpausing id
    have hc : (((s.setParked e none).decipher c).chan c).paused = false := by
      simpa [decipher, modifyChan, setParked] using h.released hp
    have hd : (s.drain e c ok).Calmed :=
      Calmed.shut (h₁.write hc (some e) .disconnection ok) c true
    cases s.registered e with
    | none => exact hd
    | some n => exact Calm.cons (Calm.unpausing hd (by simp)) id

theorem Calmed.dropParked (h : s.Calmed) (e : E) : (s.dropParked e).Calmed := by
  rw [State.dropParked]
  cases s.parked e with
  | none => exact h
  | some c => exact Calmed.shut (h.unpark e) c false

theorem Calmed.next (h : s.Calmed) {l : Label E C} (hl : s.Placed l) (ha : s.Audible l) :
    (s.next l).Calmed := by
  cases l with
  | arrive | register | enter => exact Calm.cons h id
  | unregister | leave => exact h
  | greet o c ok => exact h.write ha o .other ok
  | speak e ok =>
    rw [State.next]
    cases hr : s.registered e with
    | none => exact h
    | some c => exact h.write (ha c hr) (some e) .other ok
  | hangUp c => exact h.shut c false
  | swap e c ok ok' => exact h.swap hl ha ok ok'
  | lastWrite e ok =>
    have hx : (s.emit (.lastWrite e)).Calmed := Calm.cons h id
    exact hx.answer e ok
  | complete e ok => exact h.complete e ok
  | closeOutOfSync e =>
    have hd := h.dropParked e
    rw [State.next, closeOutOfSync]
    cases (s.dropParked e).registered e with
    | none => exact hd
    | some c => exact Calmed.shut (s := (s.dropParked e).release c) (hd.unpausing (by simp)) c false
  | disconnect e => exact h.dropParked e
  | shutdown =>
    refine ⟨?_, h.unblocked⟩
    rintro e c ⟨⟩
  | ownerClose c => exact h.unpausing (Chan.shut_unpausing (s.chan c))
  | ownerEncrypt c => exact h.unpausing id

end State

/-! ### No wedge -/

def Event.Failed : Event E C → Prop
  | .write _ _ _ _ _ ok => ok = false
  | _ => False

namespace State

variable {s t : State E C}

def Held (s : State E C) (e : E) : Prop :=
  ∃ c, s.registered e = some c ∧ (s.chan c).paused = true ∧ (s.chan c).closed = false

/-- Whoever is held is still in an exchange that can release it. -/
def Awake (s : State E C) : Prop := ∀ e, s.Held e → e ∈ s.inProgress ∧ s.parked e ≠ none

/-- The label takes no endpoint out of an exchange that holds its channel. -/
def Gentle (s : State E C) : Label E C → Prop
  | .leave e => ¬ s.Held e
  | .disconnect e => ¬ s.Held e
  | .shutdown => ∀ e, ¬ s.Held e
  | _ => True

theorem Awake.of (h : s.Awake) (hheld : ∀ e, t.Held e → s.Held e)
    (hin : ∀ e, t.Held e → e ∈ s.inProgress → e ∈ t.inProgress)
    (hp : ∀ e, t.Held e → t.parked e = s.parked e) : t.Awake := by
  intro e he
  obtain ⟨h₁, h₂⟩ := h e (hheld e he)
  exact ⟨hin e he h₁, (hp e he).symm ▸ h₂⟩

theorem held_congr (hr : t.registered = s.registered) (hc : t.chan = s.chan) :
    t.Held e ↔ s.Held e := by
  rw [Held, Held, hr, hc]

theorem Awake.congr (h : s.Awake) (hr : t.registered = s.registered) (hc : t.chan = s.chan)
    (hi : t.inProgress = s.inProgress) (hp : t.parked = s.parked) : t.Awake :=
  h.of (fun _ he => (held_congr hr hc).mp he) (fun _ _ he => hi ▸ he) (fun _ _ => by rw [hp])

theorem Awake.except (h : s.Awake) (he : ¬ t.Held e) (hheld : ∀ e', t.Held e' → s.Held e')
    (hin : ∀ e', e' ≠ e → e' ∈ s.inProgress → e' ∈ t.inProgress)
    (hp : ∀ e', e' ≠ e → t.parked e' = s.parked e') : t.Awake := by
  intro e' he'
  have hne : e' ≠ e := by
    rintro rfl
    exact he he'
  obtain ⟨h₁, h₂⟩ := h e' (hheld e' he')
  exact ⟨hin e' hne h₁, (hp e' hne).symm ▸ h₂⟩

variable [DecidableEq C]

theorem held_of_update {st : Chan} (hr : t.registered = s.registered)
    (hc : t.chan = Function.update s.chan c st)
    (hst : st.paused = true → st.closed = false →
      (s.chan c).paused = true ∧ (s.chan c).closed = false) (h : t.Held e) : s.Held e := by
  obtain ⟨c', hr', hp, hcl⟩ := h
  rw [hc] at hp hcl
  refine ⟨c', hr ▸ hr', ?_⟩
  by_cases hcc : c' = c
  · subst hcc
    rw [Function.update_self] at hp hcl
    exact hst hp hcl
  · rw [Function.update_of_ne hcc] at hp hcl
    exact ⟨hp, hcl⟩

theorem held_release (h : (s.release c).Held e) : s.Held e :=
  held_of_update (s := s) (t := s.release c) rfl rfl nofun h

theorem held_shut {b : Bool} (h : (s.shut c b).Held e) : s.Held e := by
  refine held_of_update (s := s) (t := s.shut c b) rfl rfl ?_ h
  cases hcl : (s.chan c).closed <;> simp [Chan.shut, hcl]

theorem Awake.shut (h : s.Awake) (c : C) (b : Bool) : (s.shut c b).Awake :=
  h.of (fun _ => held_shut) (fun _ _ => id) (fun _ _ => rfl)

theorem shut_closed (s : State E C) (c : C) (b : Bool) : ((s.shut c b).chan c).closed = true := by
  cases hcl : (s.chan c).closed <;> simp [State.shut, emit, modifyChan, Chan.shut, hcl]

variable [DecidableEq E]

theorem Awake.answer (h : s.Awake) (e : E) : (s.answer e true).Awake := by
  rw [State.answer]
  cases s.parked e with
  | none => exact h.congr rfl rfl rfl rfl
  | some c => exact h.congr rfl rfl rfl rfl

theorem Awake.swap (h : s.Awake) (hl : s.Loose c) (hin : e ∈ s.inProgress) :
    (s.swap e c true true).Awake := by
  have hhold : ∀ e', (s.hold c).Held e' → s.Held e' := by
    rintro e' ⟨c', hr, hp, hcl⟩
    have hne : c' ≠ c := by
      rintro rfl
      exact hl.unregistered e' hr
    refine ⟨c', hr, ?_⟩
    simpa [State.hold, modifyChan, hne] using And.intro hp hcl
  rw [State.swap]
  cases hreg : s.registered e with
  | none => exact h.of hhold (fun _ _ => id) (fun _ _ => rfl)
  | some old =>
    have hp : ((s.displace e c old true).park e old).Awake := by
      intro e' he'
      by_cases hee : e' = e
      · subst hee
        exact ⟨hin, by simp [State.park, setParked, emit]⟩
      · obtain ⟨c', hr, hc⟩ := he'
        have hheld : (s.hold c).Held e' := by
          refine ⟨c', ?_, hc⟩
          simpa [State.park, setParked, displace, State.write, emit, setRegistered, hee] using hr
        obtain ⟨h₁, h₂⟩ := h e' (hhold e' hheld)
        refine ⟨h₁, ?_⟩
        simpa [State.park, setParked, displace, State.write, emit, setRegistered, State.hold,
          modifyChan, hee] using h₂
    dsimp only
    rw [if_pos rfl]
    split
    case isTrue =>
      exact Awake.answer (s := ((s.displace e c old true).park e old).unlatch e)
        (hp.congr rfl rfl rfl rfl) e
    case isFalse => exact hp

theorem answer_of_ok {ok : Bool} (h : ∀ x ∈ (s.answer e ok).trace, ¬ x.Failed) :
    s.answer e ok = s.answer e true := by
  cases ok with
  | true => rfl
  | false =>
    cases hp : s.parked e with
    | none => simp [State.answer, hp]
    | some c =>
      rw [State.answer, hp] at h
      refine absurd rfl (h (.write (some e) c .safeToClose (s.chan c).paused (s.chan c).encrypted
        false) ?_)
      exact List.mem_cons_of_mem _ List.mem_cons_self

theorem swap_of_ok {ok ok' : Bool} (h : ∀ x ∈ (s.swap e c ok ok').trace, ¬ x.Failed) :
    s.swap e c ok ok' = s.swap e c true true := by
  cases hr : s.registered e with
  | none => simp [State.swap, hr]
  | some old =>
    simp only [State.swap, hr] at h ⊢
    cases ok with
    | false => exact absurd rfl (h _ List.mem_cons_self)
    | true =>
      simp only [↓reduceIte] at h ⊢
      by_cases hl : e ∈ s.latched
      · rw [if_pos hl] at h ⊢
        rw [if_pos hl]
        exact answer_of_ok h
      · rw [if_neg hl, if_neg hl]

theorem held_drain {e' : E} {ok : Bool} (h : (s.drain e c ok).Held e') : s.Held e' := by
  have h₁ : ((s.setParked e none).decipher c).Held e' :=
    held_shut (s := ((s.setParked e none).decipher c).write (some e) c .disconnection ok) h
  exact held_of_update (s := s) (t := (s.setParked e none).decipher c) rfl rfl
    (fun hp hcl => ⟨hp, hcl⟩) h₁

theorem drain_parked (s : State E C) (c : C) (ok : Bool) {e' : E} (hne : e' ≠ e) :
    (s.drain e c ok).parked e' = s.parked e' := by
  simp [drain, State.shut, State.write, decipher, modifyChan, emit, setParked, hne]

theorem Awake.complete (h : s.Awake) (e : E) (ok : Bool) : (s.complete e ok).Awake := by
  rw [State.complete]
  cases s.parked e with
  | none => exact h
  | some c =>
    cases hr : s.registered e with
    | none =>
      refine h.except (e := e) ?_ (fun e' => held_drain) (fun _ _ => id)
        fun e' => drain_parked s c ok
      rintro ⟨c', hr', -⟩
      cases hr.symm.trans hr'
    | some n =>
      refine h.except (e := e) ?_ ?_ (fun e' hne hin => ⟨hin, hne⟩) fun e' => drain_parked s c ok
      · rintro ⟨c', hr', hp, -⟩
        have hc : n = c' := Option.some.inj (hr.symm.trans hr')
        subst hc
        simp [State.leave, emit, release, modifyChan] at hp
      · intro e' he'
        have hr : ((s.drain e c ok).release n).Held e' := he'
        exact held_drain (held_release hr)

theorem held_dropParked {e' : E} (h : (s.dropParked e).Held e') : s.Held e' := by
  rw [dropParked] at h
  cases hp : s.parked e with
  | none =>
    rw [hp] at h
    exact h
  | some c =>
    rw [hp] at h
    exact held_shut (s := s.setParked e none) h

theorem dropParked_parked {e' : E} (hne : e' ≠ e) : (s.dropParked e).parked e' = s.parked e' := by
  rw [dropParked]
  cases s.parked e with
  | none => rfl
  | some c => simp [State.shut, emit, modifyChan, setParked, hne]

theorem dropParked_inProgress (s : State E C) (e : E) :
    (s.dropParked e).inProgress = s.inProgress := by
  rw [dropParked]
  cases s.parked e <;> rfl

theorem Awake.closeOutOfSync (h : s.Awake) (e : E) : (s.closeOutOfSync e).Awake := by
  rw [State.closeOutOfSync]
  cases hr : (s.dropParked e).registered e with
  | none =>
    refine h.except (e := e) ?_ (fun e' => held_dropParked)
      (fun e' _ hin => (dropParked_inProgress s e).symm ▸ hin) fun e' => dropParked_parked
    rintro ⟨c', hr', -⟩
    cases hr.symm.trans hr'
  | some c =>
    refine h.except (e := e) ?_ ?_
      (fun e' _ hin => (dropParked_inProgress s e).symm ▸ hin) fun e' => dropParked_parked
    · rintro ⟨c', hr', -, hcl⟩
      have hc : c = c' := Option.some.inj (hr.symm.trans hr')
      subst hc
      cases (shut_closed ((s.dropParked e).release c) c false).symm.trans hcl
    · intro e' he'
      have hs : (((s.dropParked e).release c).shut c false).Held e' := he'
      exact held_dropParked (held_release (held_shut hs))

theorem Awake.next (h : s.Awake) (hb : s.Booked) {l : Label E C} (hl : s.Placed l)
    (hen : s.Enabled l) (hg : s.Gentle l) (hn : (arrivals (s.next l).trace).Nodup)
    (hok : ∀ x ∈ (s.next l).trace, ¬ x.Failed) : (s.next l).Awake := by
  cases l with
  | arrive | greet => exact h.congr rfl rfl rfl rfl
  | register e c =>
    have hc : c ∉ arrivals s.trace := (List.nodup_cons.mp hn).1
    intro e' he'
    obtain ⟨c', hr, hp, hcl⟩ := he'
    rcases update_some_cases hr with ⟨-, rfl⟩ | ⟨-, hr⟩
    · exact absurd (hb.paused_arrived hp) hc
    · exact h e' ⟨c', hr, hp, hcl⟩
  | unregister e =>
    rintro e' ⟨c', hr, hp⟩
    exact h e' ⟨c', update_none_eq_some hr, hp⟩
  | speak e ok =>
    rw [State.next]
    cases s.registered e with
    | none => exact h
    | some c => exact h.congr rfl rfl rfl rfl
  | hangUp c => exact h.shut c false
  | enter e => exact h.of (fun _ => id) (fun _ _ => .inr) (fun _ _ => rfl)
  | leave e => exact h.except hg (fun _ => id) (fun _ hne hin => ⟨hin, hne⟩) (fun _ _ => rfl)
  | swap e c ok ok' =>
    change (s.swap e c ok ok').Awake
    rw [swap_of_ok hok]
    exact h.swap hl hen
  | lastWrite e ok =>
    change ((s.emit (.lastWrite e)).answer e ok).Awake
    rw [answer_of_ok hok]
    exact Awake.answer (s := s.emit (.lastWrite e)) (h.congr rfl rfl rfl rfl) e
  | complete e ok => exact h.complete e ok
  | closeOutOfSync e => exact h.closeOutOfSync e
  | disconnect e =>
    refine h.except (e := e) (fun he => hg (held_dropParked he)) (fun _ he => held_dropParked he)
      (fun _ hne hin => ⟨(dropParked_inProgress s e).symm ▸ hin, hne⟩) fun _ => dropParked_parked
  | shutdown => exact fun e he => absurd he (hg e)
  | ownerClose c =>
    have hx := h.shut c false
    exact hx.congr rfl rfl rfl rfl
  | ownerEncrypt c =>
    refine h.of (fun _ he => ?_) (fun _ _ => id) (fun _ _ => rfl)
    exact held_of_update (s := s) (t := s.next (.ownerEncrypt c)) rfl rfl
      (fun hp hcl => ⟨hp, hcl⟩) he

end State

end

end Nearby.Swap
