import Nearby.Lib.Transition
import Mathlib.Data.List.Infix

/-! The exchange between two parties.  They are joined by the old channel, a queue of
messages each way, and by the socket that the responder dials; the deliveries and the socket
come in any order. -/

namespace Nearby.Swap

open Lib

inductive Message : Type
  | offer
  | lastWrite
  | safeToClose
  | disconnection
  deriving DecidableEq

/-- How far a party is; `heard` says whether it has the peer's LAST_WRITE. -/
inductive Stage : Type
  | idle
  | dialled
  | offered (heard : Bool)
  | swapped (heard : Bool)
  | upgraded
  deriving DecidableEq

namespace Stage

def hear : Stage → Message → Stage × List Message
  | .idle, .offer => (.dialled, [])
  | .offered _, .lastWrite => (.offered true, [])
  | .swapped _, .lastWrite => (.swapped true, [.safeToClose])
  | .swapped _, .safeToClose => (.upgraded, [.disconnection])
  | stage, _ => (stage, [])

theorem hear_moving {stage : Stage} (hidle : stage ≠ .idle) (hdialled : stage ≠ .dialled)
    (k : Message) : (stage.hear k).1 ≠ .idle ∧ (stage.hear k).1 ≠ .dialled := by
  cases stage <;> cases k <;> simp_all [hear]

def isOffered : Stage → Bool
  | .offered _ => true
  | _ => false

theorem isOffered_hear (stage : Stage) (k : Message) :
    (stage.hear k).1.isOffered = stage.isOffered := by
  cases stage <;> cases k <;> rfl

/-- How many messages behind this one are taken off unheard. -/
def drains : Stage → Message → Nat
  | .swapped _, .safeToClose => 1
  | _, _ => 0

def weight : Stage → Nat
  | .idle | .dialled | .offered _ => 4
  | .swapped false => 2
  | .swapped true => 1
  | .upgraded => 0

def said : Stage → List Message
  | .idle | .dialled | .offered _ => []
  | .swapped false => [.lastWrite]
  | .swapped true => [.lastWrite, .safeToClose]
  | .upgraded => [.lastWrite, .safeToClose, .disconnection]

theorem said_isPrefix (stage : Stage) :
    stage.said <+: [.lastWrite, .safeToClose, .disconnection] := by
  match stage with
  | .idle | .dialled | .offered _ => exact List.nil_prefix
  | .swapped false => exact ⟨[.safeToClose, .disconnection], rfl⟩
  | .swapped true => exact ⟨[.disconnection], rfl⟩
  | .upgraded => exact List.prefix_rfl

theorem said_first {stage : Stage} {k : Message} {q : List Message} (h : k :: q = stage.said) :
    k = .lastWrite :=
  (List.cons_prefix_cons.mp (h ▸ stage.said_isPrefix)).1

theorem said_second {stage : Stage} {j k : Message} {q : List Message}
    (h : j :: k :: q = stage.said) : k = .safeToClose :=
  have hrest := (List.cons_prefix_cons.mp (h ▸ stage.said_isPrefix)).2
  (List.cons_prefix_cons.mp hrest).1

def Heard (opening heard drained : List Message) : Stage → Prop
  | .idle => heard = [] ∧ drained = []
  | .dialled | .offered false | .swapped false => heard = opening ∧ drained = []
  | .offered true | .swapped true => heard = opening ++ [.lastWrite] ∧ drained = []
  | .upgraded => opening ++ [.lastWrite, .safeToClose] <+: heard

theorem Heard.length {opening heard drained : List Message} {stage : Stage}
    (h : stage.Heard opening heard drained) (hidle : stage ≠ .idle) (hdialled : stage ≠ .dialled)
    (hoffered : ∀ b, stage ≠ .offered b) :
    (stage = .upgraded ∧ stage.said.length = 3) ∨
      (heard.length + drained.length + 1 = opening.length + stage.said.length ∧
        1 ≤ stage.said.length ∧ stage.said.length ≤ 2) := by
  match stage with
  | .idle => exact absurd rfl hidle
  | .dialled => exact absurd rfl hdialled
  | .offered b => exact absurd rfl (hoffered b)
  | .swapped false =>
    obtain ⟨rfl, rfl⟩ := h
    simp [said]
  | .swapped true =>
    obtain ⟨rfl, rfl⟩ := h
    simp [said]
  | .upgraded => exact .inl ⟨rfl, rfl⟩

end Stage

structure Party where
  stage : Stage
  inbox : List Message := []
  heard : List Message := []

namespace Party

def take (p : Party) (k : Message) (q : List Message) : Party where
  stage := (p.stage.hear k).1
  inbox := q.drop (p.stage.drains k)
  heard := p.heard ++ [k]

def get (p : Party) (ks : List Message) : Party := { p with inbox := p.inbox ++ ks }

/-- What the peer said is what the party has heard, drained and still to hear. -/
def Hears (opening : List Message) (p : Party) (peer : Stage) : Prop :=
  ∃ drained, p.heard ++ drained ++ p.inbox = opening ++ peer.said ∧
    p.stage.Heard opening p.heard drained

theorem Hears.get {opening : List Message} {p : Party} {peer peer' : Stage} {ks : List Message}
    (h : p.Hears opening peer) (hsaid : peer'.said = peer.said ++ ks) :
    (p.get ks).Hears opening peer' := by
  obtain ⟨drained, hflow, hheard⟩ := h
  refine ⟨drained, ?_, hheard⟩
  rw [hsaid, Party.get, ← List.append_assoc, hflow, List.append_assoc]

theorem Hears.safeToClose_notMem {opening : List Message} {p : Party} {peer : Stage}
    (h : p.Hears opening peer) (hsaid : peer.said = []) : .safeToClose ∉ p.stage.said := by
  obtain ⟨drained, hflow, hheard⟩ := h
  rw [hsaid, List.append_nil] at hflow
  have hlen := congrArg List.length hflow
  simp only [List.length_append] at hlen
  obtain ⟨stage, inbox, heard⟩ := p
  dsimp only at hheard hlen
  cases stage with
  | idle | dialled | offered => simp [Stage.said]
  | swapped b =>
    cases b with
    | false => simp [Stage.said]
    | true =>
      have hl := congrArg List.length hheard.1
      simp only [List.length_append, List.length_cons, List.length_nil] at hl
      omega
  | upgraded =>
    have hl := hheard.length_le
    simp only [List.length_append, List.length_cons, List.length_nil] at hl
    omega

theorem Hears.take {opening : List Message} {p : Party} {peer : Stage} {k : Message}
    {q : List Message} (h : p.Hears opening peer) (hq : p.inbox = k :: q)
    (hidle : p.stage = .idle → opening = [.offer]) (hdialled : p.stage ≠ .dialled)
    (hoffered : ∀ b, p.stage = .offered b → .safeToClose ∉ peer.said) :
    (p.take k q).Hears opening peer ∧
      (p.stage.hear k).1.said = p.stage.said ++ (p.stage.hear k).2 ∧
      (p.stage.hear k).1.weight + (p.stage.hear k).2.length ≤ p.stage.weight := by
  obtain ⟨drained, hflow, hheard⟩ := h
  obtain ⟨stage, inbox, heard⟩ := p
  dsimp only at hflow hheard hq hidle hoffered
  subst hq
  cases stage with
  | idle =>
    obtain ⟨rfl, rfl⟩ := hheard
    cases hidle rfl
    obtain ⟨rfl, rfl⟩ := List.cons.inj hflow
    exact ⟨⟨[], rfl, rfl, rfl⟩, rfl, Nat.le_refl 4⟩
  | dialled => exact absurd rfl hdialled
  | offered b =>
    cases b with
    | false =>
      obtain ⟨rfl, rfl⟩ := hheard
      have hsaid : k :: q = peer.said := by simpa using hflow
      obtain rfl := Stage.said_first hsaid
      refine ⟨⟨[], ?_, rfl, rfl⟩, rfl, Nat.le_refl 4⟩
      rw [← hsaid]
      simp [Party.take, Stage.drains]
    | true =>
      obtain ⟨rfl, rfl⟩ := hheard
      have hsaid : .lastWrite :: k :: q = peer.said := by simpa using hflow
      obtain rfl := Stage.said_second hsaid
      refine absurd ?_ (hoffered true rfl)
      rw [← hsaid]
      simp
  | swapped b =>
    cases b with
    | false =>
      obtain ⟨rfl, rfl⟩ := hheard
      have hsaid : k :: q = peer.said := by simpa using hflow
      obtain rfl := Stage.said_first hsaid
      refine ⟨⟨[], ?_, rfl, rfl⟩, rfl, Nat.le_refl 2⟩
      rw [← hsaid]
      simp [Party.take, Stage.drains]
    | true =>
      obtain ⟨rfl, rfl⟩ := hheard
      have hsaid : .lastWrite :: k :: q = peer.said := by simpa using hflow
      obtain rfl := Stage.said_second hsaid
      refine ⟨⟨q.take 1, ?_, ?_⟩, rfl, Nat.le_refl 1⟩
      · rw [← hsaid]
        cases q <;> simp [Party.take, Stage.drains]
      · simp [Party.take, Stage.hear, Stage.Heard]
  | upgraded =>
    -- Only the DISCONNECTION can still be there.
    obtain ⟨more, rfl⟩ := hheard
    have hsaid : [.lastWrite, .safeToClose] ++ more ++ drained ++ k :: q = peer.said := by
      simpa using hflow
    have hlen := (hsaid ▸ peer.said_isPrefix).length_le
    simp only [List.length_append, List.length_cons, List.length_nil] at hlen
    obtain rfl : drained = [] := List.length_eq_zero_iff.mp (by omega)
    refine ⟨⟨[], ?_, ?_⟩, rfl, Nat.le_refl 0⟩
    · rw [← hsaid]
      simp [Party.take, Stage.drains]
    · exact ⟨more ++ [k], by simp [Party.take]⟩

theorem Hears.ne_offer {opening : List Message} {p : Party} {peer : Stage} {k : Message}
    {q : List Message} (h : p.Hears opening peer) (hq : p.inbox = k :: q)
    (hidle : p.stage = .idle → opening = []) : k ≠ .offer := by
  obtain ⟨drained, hflow, hheard⟩ := h
  have hopening : opening <+: p.heard := by
    match hs : p.stage with
    | .idle => exact hidle hs ▸ List.nil_prefix
    | .dialled | .offered false | .swapped false =>
      rw [hs] at hheard
      exact ⟨[], by rw [hheard.1, List.append_nil]⟩
    | .offered true | .swapped true =>
      rw [hs] at hheard
      exact ⟨_, hheard.1.symm⟩
    | .upgraded =>
      rw [hs] at hheard
      exact (List.prefix_append _ _).trans hheard
  obtain ⟨more, hmore⟩ := hopening
  rw [← hmore, hq, List.append_assoc, List.append_assoc, List.append_cancel_left_eq] at hflow
  have hk : k ∈ peer.said := hflow ▸ by simp
  rintro rfl
  exact absurd (peer.said_isPrefix.subset hk) (by decide)

theorem Hears.lastWrite_mem {opening : List Message} {p : Party} {peer : Stage}
    (h : p.Hears opening peer) (hsaid : .safeToClose ∈ p.stage.said) : .lastWrite ∈ p.heard := by
  obtain ⟨drained, -, hheard⟩ := h
  obtain ⟨stage, inbox, heard⟩ := p
  dsimp only at hheard hsaid ⊢
  match stage with
  | .idle | .dialled | .offered _ | .swapped false => simp [Stage.said] at hsaid
  | .swapped true =>
    rw [hheard.1]
    simp
  | .upgraded =>
    obtain ⟨more, rfl⟩ := hheard
    simp

theorem Hears.safeToClose_said {opening : List Message} {p : Party} {peer : Stage}
    (h : p.Hears opening peer) (hopening : .safeToClose ∉ opening) (hup : p.stage = .upgraded) :
    .safeToClose ∈ peer.said := by
  obtain ⟨drained, hflow, hheard⟩ := h
  rw [hup] at hheard
  obtain ⟨more, hmore⟩ := hheard
  have hmem : .safeToClose ∈ opening ++ peer.said := by
    rw [← hflow, ← hmore]
    simp
  exact (List.mem_append.mp hmem).resolve_left hopening

end Party

structure Pair where
  initiator : Party
  responder : Party

namespace Pair

def start : Pair where
  initiator := { stage := .offered false }
  responder := { stage := .idle, inbox := [.offer] }

/-- With `ack` the responder goes on only after the initiator took the socket; in either case
it hears nothing in between. -/
inductive Step (ack : Bool) : Pair → Pair → Prop
  | toInitiator {s : Pair} {k : Message} {q : List Message} : s.initiator.inbox = k :: q →
      Step ack s ⟨s.initiator.take k q, s.responder.get (s.initiator.stage.hear k).2⟩
  | toResponder {s : Pair} {k : Message} {q : List Message} : s.responder.stage ≠ .dialled →
      s.responder.inbox = k :: q →
      Step ack s ⟨s.initiator.get (s.responder.stage.hear k).2, s.responder.take k q⟩
  | socket {s : Pair} {b : Bool} : s.initiator.stage = .offered b → s.responder.stage ≠ .idle →
      Step ack s ⟨{ s.initiator with stage := .swapped b },
        s.responder.get (Stage.swapped b).said⟩
  | finish {s : Pair} : s.responder.stage = .dialled →
      (ack = true → ∀ b, s.initiator.stage ≠ .offered b) →
      Step ack s ⟨s.initiator.get [.lastWrite], { s.responder with stage := .swapped false }⟩

structure Sound (s : Pair) : Prop where
  offering : s.initiator.stage ≠ .idle ∧ s.initiator.stage ≠ .dialled
  accepting : ∀ b, s.responder.stage ≠ .offered b
  dialled : s.responder.stage = .idle → ∃ b, s.initiator.stage = .offered b
  initiator : s.initiator.Hears [] s.responder.stage
  responder : s.responder.Hears [.offer] s.initiator.stage

theorem sound_start : start.Sound where
  offering := by decide
  accepting := by decide
  dialled _ := ⟨false, rfl⟩
  initiator := ⟨[], rfl, rfl, rfl⟩
  responder := ⟨[], rfl, rfl, rfl⟩

theorem Sound.toInitiator {s : Pair} (h : s.Sound) {k : Message} {q : List Message}
    (hq : s.initiator.inbox = k :: q) :
    Sound ⟨s.initiator.take k q, s.responder.get (s.initiator.stage.hear k).2⟩ := by
  have htake := h.initiator.take hq (fun hidle => absurd hidle h.offering.1) h.offering.2
    fun b hb => h.responder.safeToClose_notMem (by rw [hb]; rfl)
  refine ⟨Stage.hear_moving h.offering.1 h.offering.2 k, h.accepting, fun hidle => ?_, htake.1,
    h.responder.get htake.2.1⟩
  obtain ⟨b, hb⟩ := h.dialled hidle
  cases k <;> simp [Party.take, hb, Stage.hear]

theorem Sound.toResponder {s : Pair} (h : s.Sound) {k : Message} {q : List Message}
    (hd : s.responder.stage ≠ .dialled) (hq : s.responder.inbox = k :: q) :
    Sound ⟨s.initiator.get (s.responder.stage.hear k).2, s.responder.take k q⟩ := by
  have htake := h.responder.take hq (fun _ => rfl) hd fun b hb => absurd hb (h.accepting b)
  have hstage : ∀ stage : Stage, (∀ b, stage ≠ .offered b) →
      ∀ b, (stage.hear k).1 ≠ .offered b := by
    intro stage _ b
    cases stage <;> cases k <;> simp_all [Stage.hear]
  have hidle : ∀ stage : Stage, (stage.hear k).1 = .idle → stage = .idle := by
    intro stage
    cases stage <;> cases k <;> simp [Stage.hear]
  exact ⟨h.offering, hstage _ h.accepting, fun hi => h.dialled (hidle _ hi),
    h.initiator.get htake.2.1, htake.1⟩

theorem Sound.socket {s : Pair} (h : s.Sound) {b : Bool} (hb : s.initiator.stage = .offered b)
    (hd : s.responder.stage ≠ .idle) :
    Sound ⟨{ s.initiator with stage := .swapped b }, s.responder.get (Stage.swapped b).said⟩ := by
  refine ⟨⟨nofun, nofun⟩, h.accepting, fun hi => absurd hi hd, ?_, h.responder.get ?_⟩
  · obtain ⟨drained, hflow, hheard⟩ := h.initiator
    rw [hb] at hheard
    refine ⟨drained, hflow, ?_⟩
    cases b <;> exact hheard
  · rw [hb]
    rfl

theorem Sound.finish {s : Pair} (h : s.Sound) (hd : s.responder.stage = .dialled) :
    Sound ⟨s.initiator.get [.lastWrite], { s.responder with stage := .swapped false }⟩ := by
  refine ⟨h.offering, nofun, nofun, h.initiator.get ?_, ?_⟩
  · rw [hd]
    rfl
  · obtain ⟨drained, hflow, hheard⟩ := h.responder
    rw [hd] at hheard
    exact ⟨drained, hflow, hheard⟩

theorem Sound.step {ack : Bool} {s t : Pair} (h : s.Sound) (hst : Step ack s t) : t.Sound := by
  cases hst with
  | toInitiator hq => exact h.toInitiator hq
  | toResponder hd hq => exact h.toResponder hd hq
  | socket hb hd => exact h.socket hb hd
  | finish hd _ => exact h.finish hd

def rank (s : Pair) : Nat :=
  s.initiator.stage.weight + s.initiator.inbox.length +
    (s.responder.stage.weight + s.responder.inbox.length)

theorem Sound.rank_lt {ack : Bool} {s t : Pair} (h : s.Sound) (hst : Step ack s t) :
    t.rank < s.rank := by
  cases hst with
  | @toInitiator k q hq =>
    obtain ⟨-, -, hw⟩ := h.initiator.take hq (fun hidle => absurd hidle h.offering.1) h.offering.2
      fun b hb => h.responder.safeToClose_notMem (by rw [hb]; rfl)
    simp only [rank, Party.take, Party.get, hq, List.length_append, List.length_drop,
      List.length_cons]
    omega
  | @toResponder k q hd hq =>
    obtain ⟨-, -, hw⟩ := h.responder.take hq (fun _ => rfl) hd fun b hb => absurd hb (h.accepting b)
    simp only [rank, Party.take, Party.get, hq, List.length_append, List.length_drop,
      List.length_cons]
    omega
  | @socket b hb _ =>
    have hw : (Stage.swapped b).weight + (Stage.swapped b).said.length < 4 := by
      cases b <;> decide
    have hb' : s.initiator.stage.weight = 4 := by rw [hb]; rfl
    simp only [rank, Party.get, List.length_append]
    omega
  | finish hd _ =>
    have hd' : s.responder.stage.weight = 4 := by rw [hd]; rfl
    have hw : (Stage.swapped false).weight = 2 := rfl
    simp only [rank, Party.get, List.length_append, List.length_cons, List.length_nil]
    omega

/-- Nobody is through with the exchange before each has the other's LAST_WRITE. -/
theorem Sound.heard_lastWrite {s : Pair} (h : s.Sound)
    (hup : s.initiator.stage = .upgraded ∨ s.responder.stage = .upgraded) :
    .lastWrite ∈ s.initiator.heard ∧ .lastWrite ∈ s.responder.heard := by
  have hsafe : .safeToClose ∈ Stage.upgraded.said := by decide
  rcases hup with hup | hup
  · have hsaid := h.initiator.safeToClose_said (by simp) hup
    exact ⟨h.initiator.lastWrite_mem (hup ▸ hsafe), h.responder.lastWrite_mem hsaid⟩
  · have hsaid := h.responder.safeToClose_said (by decide) hup
    exact ⟨h.initiator.lastWrite_mem hsaid, h.responder.lastWrite_mem (hup ▸ hsafe)⟩

theorem Sound.both_upgraded {s : Pair} (h : s.Sound) (hi : s.initiator.inbox = [])
    (hr : s.responder.inbox = []) (hoffered : ∀ b, s.initiator.stage ≠ .offered b)
    (hdialled : s.responder.stage ≠ .dialled) :
    s.initiator.stage = .upgraded ∧ s.responder.stage = .upgraded := by
  obtain ⟨drained, hflow, hheard⟩ := h.initiator
  obtain ⟨rdrained, hrflow, hrheard⟩ := h.responder
  rw [hi, List.append_nil, List.nil_append] at hflow
  rw [hr, List.append_nil] at hrflow
  have hidle : s.responder.stage ≠ .idle := by
    intro hidle
    obtain ⟨b, hb⟩ := h.dialled hidle
    exact hoffered b hb
  have hlen := congrArg List.length hflow
  have hrlen := congrArg List.length hrflow
  simp only [List.length_append, List.length_cons, List.length_nil] at hlen hrlen
  have hi := hheard.length h.offering.1 h.offering.2 hoffered
  have hr := hrheard.length hidle hdialled h.accepting
  simp only [List.length_cons, List.length_nil] at hi hr
  rcases hi with ⟨hi, hi'⟩ | hi <;> rcases hr with ⟨hr, hr'⟩ | hr
  · exact ⟨hi, hr⟩
  all_goals omega

theorem Sound.stuck {ack : Bool} {s : Pair} (h : s.Sound) (hstuck : ∀ t, ¬ Step ack s t) :
    s.initiator.stage = .upgraded ∧ s.responder.stage = .upgraded := by
  have hsocket : ∀ b, s.initiator.stage = .offered b → s.responder.stage = .idle := by
    intro b hb
    by_contra hd
    exact hstuck _ (.socket hb hd)
  have hdialled : s.responder.stage ≠ .dialled := by
    intro hd
    refine hstuck _ (.finish hd fun _ b hb => ?_)
    rw [hsocket b hb] at hd
    cases hd
  have hi : s.initiator.inbox = [] := by
    cases hq : s.initiator.inbox with
    | nil => rfl
    | cons k q => exact absurd (.toInitiator hq) (hstuck _)
  have hr : s.responder.inbox = [] := by
    cases hq : s.responder.inbox with
    | nil => rfl
    | cons k q => exact absurd (.toResponder hdialled hq) (hstuck _)
  refine h.both_upgraded hi hr (fun b hb => ?_) hdialled
  -- An idle responder still has the offer to hear.
  obtain ⟨drained, hflow, hheard⟩ := h.responder
  rw [hsocket b hb] at hheard
  rw [hr, hheard.1, hheard.2] at hflow
  cases hflow

end Pair

end Nearby.Swap
