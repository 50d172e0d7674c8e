import Nearby.Lib.Transition
import Nearby.Bwu.StreamChannel
import Mathlib.Data.List.Induction
import Mathlib.Logic.Function.Basic

/-! Pausing and closing a `StreamChannel` with writers in it.  Every call is one step; a writer
that finds the channel paused is parked, and goes on in a later step, once it is not. -/

namespace Nearby.Bwu

open Proto Lib

def DuplexStream.close (s : DuplexStream) : DuplexStream :=
  { s with pipe := { s.pipe with closed := true } }

namespace StreamChannel

inductive Control : Type
  | pause
  | resume
  | close
  | closeWithReason (reason : DisconnectionReason)
  deriving DecidableEq

def Control.closes : Control → Bool
  | .close | .closeWithReason _ => true
  | .pause | .resume => false

inductive Call : Type
  | control (c : Control)
  | write (w : Nat) (data : Bytes)
  | wake (w : Nat)

def controls (calls : List Call) : List Control :=
  calls.filterMap fun
    | .control c => some c
    | _ => none

/-- A channel with the writers parked in its pause wait; a writer is one call of `write`. -/
structure Gate (σ : Type) where
  channel : ChannelState := {}
  stream : DuplexStream := {}
  session : σ
  parked : Nat → Option Bytes := fun _ => none
  returned : List (Nat × Exception) := []

namespace Gate

variable {σ : Type}

def new (stream : DuplexStream) (session : σ) : Gate σ where
  stream := stream
  session := session

def doClose (g : Gate σ) : Gate σ :=
  if g.channel.closed then g
  else { g with channel := g.channel.doClose, stream := g.stream.close }

def control (g : Gate σ) : Control → Gate σ
  | .pause => { g with channel := { g.channel with paused := true } }
  | .resume => { g with channel := { g.channel with paused := false } }
  | .close => g.doClose
  | .closeWithReason _ => g.doClose

/-- The rest of `write`, past the pause wait. -/
def finish (cipher : Option (Cipher σ)) (g : Gate σ) (w : Nat) (data : Bytes) : Gate σ :=
  let r := StreamChannel.write cipher g.session g.stream data
  { g with
    session := r.2.1
    stream := r.2.2
    parked := Function.update g.parked w none
    returned := (w, r.1) :: g.returned }

def next (cipher : Option (Cipher σ)) (g : Gate σ) : Call → Gate σ
  | .control c => g.control c
  | .write w data =>
    if g.channel.paused then { g with parked := Function.update g.parked w (some data) }
    else g.finish cipher w data
  | .wake w =>
    match g.parked w with
    | some data => g.finish cipher w data
    | none => g

def Enabled (g : Gate σ) : Call → Prop
  | .control _ => True
  | .write w _ => g.parked w = none
  | .wake w => g.parked w ≠ none ∧ g.channel.paused = false

def Waiting (g : Gate σ) (w : Nat) : Prop := g.parked w ≠ none ∧ g.channel.paused = true

def Released (g : Gate σ) : Prop := g.channel.closed = true → ∀ w, ¬ g.Waiting w

/-! ### The pause flag of a closed channel -/

section

variable {cipher : Option (Cipher σ)} {g : Gate σ}

/-- The owners' calls `done` have left the channel open, or closed and not paused. -/
structure Orderly (g : Gate σ) (done : List Control) : Prop where
  closed : g.channel.closed = true → ∃ c ∈ done, c.closes = true
  unpaused : g.channel.closed = true → g.channel.paused = false

theorem Orderly.released {done : List Control} (h : g.Orderly done) : g.Released := by
  intro hclosed w hwait
  cases (h.unpaused hclosed).symm.trans hwait.2

theorem doClose_channel (g : Gate σ) : g.doClose.channel = g.channel.doClose := by
  rw [doClose, ChannelState.doClose]
  split <;> rfl

theorem Orderly.control {done : List Control} (h : g.Orderly done) {c : Control}
    (hc : ∀ a ∈ done, a.closes = true → c ≠ .pause) : (g.control c).Orderly (done ++ [c]) := by
  have hold : g.channel.closed = true → ∃ a ∈ done ++ [c], a.closes = true := by
    intro hclosed
    obtain ⟨a, ha, hcloses⟩ := h.closed hclosed
    exact ⟨a, List.mem_append_left _ ha, hcloses⟩
  have hnew (hcloses : c.closes = true) : ∃ a ∈ done ++ [c], a.closes = true :=
    ⟨c, by simp, hcloses⟩
  have hdoClose : g.doClose.channel.paused = false := by
    rw [doClose_channel, ChannelState.doClose]
    split
    case isTrue hclosed => exact h.unpaused hclosed
    case isFalse => rfl
  cases c with
  | pause =>
    refine ⟨hold, fun hclosed => ?_⟩
    obtain ⟨a, ha, hcloses⟩ := h.closed hclosed
    exact absurd rfl (hc a ha hcloses)
  | resume => exact ⟨hold, fun _ => rfl⟩
  | close | closeWithReason => exact ⟨fun _ => hnew rfl, fun _ => hdoClose⟩

theorem next_channel {call : Call} (h : ∀ c, call ≠ .control c) :
    (g.next cipher call).channel = g.channel := by
  cases call with
  | control c => exact absurd rfl (h c)
  | write w data =>
    rw [next]
    split <;> rfl
  | wake w =>
    rw [next]
    split <;> rfl

theorem Orderly.run (cipher : Option (Cipher σ)) {done : List Control} {calls : List Call}
    (h : g.Orderly done)
    (hlate : (done ++ controls calls).Pairwise fun a b => a.closes = true → b ≠ .pause) :
    (calls.foldl (next cipher) g).Orderly (done ++ controls calls) := by
  induction calls generalizing g done with
  | nil => simpa [controls] using h
  | cons call calls ih =>
    rw [List.foldl_cons]
    cases call with
    | control c =>
      have hsplit : done ++ controls (.control c :: calls) = (done ++ [c]) ++ controls calls := by
        simp [controls]
      rw [hsplit] at hlate ⊢
      refine ih (h.control fun a ha hcloses => ?_) hlate
      exact (List.pairwise_append.mp (List.pairwise_append.mp hlate).1).2.2 a ha c (.head _) hcloses
    | write w data =>
      have hch : (g.next cipher (.write w data)).channel = g.channel := next_channel nofun
      exact ih ⟨by rw [hch]; exact h.closed, by rw [hch]; exact h.unpaused⟩ hlate
    | wake w =>
      have hch : (g.next cipher (.wake w)).channel = g.channel := next_channel nofun
      exact ih ⟨by rw [hch]; exact h.closed, by rw [hch]; exact h.unpaused⟩ hlate

/-! ### Owners alone -/

theorem parked_control (g : Gate σ) (c : Control) : (g.control c).parked = g.parked := by
  cases c with
  | pause | resume => rfl
  | close | closeWithReason =>
    rw [control, doClose]
    split <;> rfl

theorem closed_control {c : Control} (h : g.channel.closed = true ∨ c.closes = true) :
    (g.control c).channel.closed = true := by
  cases c with
  | pause | resume => exact h.resolve_right nofun
  | close | closeWithReason =>
    rw [control, doClose_channel]
    exact g.channel.doClose_closed

theorem parked_foldl_control (cs : List Control) (g : Gate σ) :
    ((cs.map Call.control).foldl (next cipher) g).parked = g.parked := by
  induction cs generalizing g with
  | nil => rfl
  | cons c cs ih => exact (ih (g.control c)).trans (parked_control g c)

theorem closed_foldl_control (cipher : Option (Cipher σ)) {cs : List Control}
    (h : g.channel.closed = true ∨ ∃ c ∈ cs, c.closes = true) :
    ((cs.map Call.control).foldl (next cipher) g).channel.closed = true := by
  induction cs generalizing g with
  | nil => simpa using h
  | cons c cs ih =>
    apply ih
    rcases h with h | ⟨a, ha, hcloses⟩
    · exact .inl (closed_control (.inl h))
    · rcases List.mem_cons.mp ha with rfl | ha
      · exact .inl (closed_control (.inr hcloses))
      · exact .inr ⟨a, ha, hcloses⟩

theorem admits_control (cs : List Control) (calls : List Call)
    (h : Admits (next cipher) Enabled ((cs.map Call.control).foldl (next cipher) g) calls) :
    Admits (next cipher) Enabled g (cs.map Call.control ++ calls) := by
  induction cs generalizing g with
  | nil => exact h
  | cons c cs ih => exact ⟨trivial, ih h⟩

theorem controls_control (cs : List Control) : controls (cs.map Call.control) = cs := by
  simp [controls, List.filterMap_map]

end

/-- However the writers' steps fall between the owners' calls, no writer waits in the closed
channel: so it is exactly when the owners never pause what they have closed. -/
theorem released_iff_no_late_pause (cipher : Option (Cipher σ)) (stream : DuplexStream)
    (session : σ) (owners : List Control) :
    (∀ calls, Admits (next cipher) Enabled (new stream session) calls →
      controls calls <+: owners → (calls.foldl (next cipher) (new stream session)).Released) ↔
    owners.Pairwise fun a b => a.closes = true → b ≠ .pause := by
  constructor
  · intro h
    induction owners using List.reverseRecOn with
    | nil => exact .nil
    | append_singleton cs c ih =>
      have hcs := ih fun calls hadm hctl => h calls hadm (hctl.trans (List.prefix_append cs [c]))
      refine List.pairwise_append.mpr ⟨hcs, List.pairwise_singleton _ _, ?_⟩
      rintro a ha b hb hcloses rfl
      obtain rfl := List.mem_singleton.mp hb
      -- After the late pause any writer is parked in a closed channel.
      have hparked : ((cs.map Call.control).foldl (next cipher) (new stream session)).parked 0 =
          none := by rw [parked_foldl_control]; rfl
      have hclosed := closed_foldl_control cipher (g := new stream session) (.inr ⟨a, ha, hcloses⟩)
      refine h (cs.map Call.control ++ [.control .pause, .write 0 []]) ?_ ?_ ?_ 0 ?_
      · exact admits_control cs _ ⟨trivial, hparked, trivial⟩
      · rw [controls, List.filterMap_append, ← controls, controls_control]
        exact List.prefix_refl _
      · rw [List.foldl_append]
        exact hclosed
      · rw [List.foldl_append]
        simp [Waiting, next, control]
  · intro hlate calls _ hctl
    have hfresh : (new stream session).Orderly [] := ⟨nofun, nofun⟩
    exact (hfresh.run cipher (hlate.sublist hctl.sublist)).released

/-- Closing again does not let the writer go. -/
theorem late_pause_keeps_writer :
    ¬ ∀ calls, Admits (next none) Enabled (new {} ()) calls →
      (calls.foldl (next none) (new {} ())).Released := by
  intro h
  refine h [.control .close, .control .pause, .write 0 [], .control .close] ?_ rfl 0 ?_
  · exact ⟨trivial, trivial, rfl, trivial, trivial⟩
  · exact ⟨nofun, rfl⟩

end Gate

end StreamChannel

end Nearby.Bwu
