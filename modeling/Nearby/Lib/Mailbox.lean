import Nearby.Lib.Transition
import Mathlib.Data.List.TakeDrop
import Mathlib.Logic.Function.Basic

/-! A server that takes commands from a bounded queue, one at a time, and the clients that send
them.  Some commands are questions, whose sender waits for the reply.  When the server stops it
drops the queue, and whoever waits gets nothing. -/

namespace Nearby.Lib

universe u v w x

/-- What the server does: it serves a command, takes a step of its own, or finds that there are no
clients left. -/
structure Server (S : Type u) (C : Type v) (R : Type w) where
  serve : S → C → S → Option R → Prop
  own : S → S → Prop
  close : S → S → Prop
  asks : C → Bool
  stopped : S → Bool

/-- Where a client is.  `seen` is history: how many commands had been accepted at its call. -/
inductive Caller (C : Type v) (R : Type w) : Type (max v w)
  | idle
  | sending (c : C) (seen : Nat)
  | waiting (c : C) (seen ticket : Nat)
  | answered (c : C) (seen : Nat) (reply : Option R)
  | gone

def Caller.hear {C : Type v} {R : Type w} (served : Nat) (reply : Option R) :
    Caller C R → Caller C R
  | .waiting c seen ticket =>
    if ticket = served then .answered c seen reply else .waiting c seen ticket
  | caller => caller

/-- `accepted` is history, oldest first; the first `served` of them have been served. -/
structure Mailbox (S : Type u) (C : Type v) (R : Type w) (ι : Type x) where
  server : S
  capacity : Nat
  queue : List (ι × C) := []
  callers : ι → Caller C R := fun _ => .idle
  accepted : List (ι × C) := []
  served : Nat := 0

variable {S : Type u} {C : Type v} {R : Type w} {ι : Type x}

namespace Server

/-- The server has come from `s₀` to the state given by serving the commands given, in their
order. -/
inductive Ran (srv : Server S C R) (s₀ : S) : List C → S → Prop
  | start : Ran srv s₀ [] s₀
  | own {cs : List C} {s t : S} : Ran srv s₀ cs s → srv.own s t → Ran srv s₀ cs t
  | close {cs : List C} {s t : S} : Ran srv s₀ cs s → srv.close s t → Ran srv s₀ cs t
  | serve {cs : List C} {c : C} {s t : S} {r : Option R} : Ran srv s₀ cs s → srv.serve s c t r →
      Ran srv s₀ (cs ++ [c]) t

/-- A question, and nothing else, has a reply; a server that has stopped does nothing more. -/
structure Lawful (srv : Server S C R) : Prop where
  replies : ∀ {s c t r}, srv.serve s c t r → (srv.asks c = true ↔ r.isSome = true)
  serves : ∀ {s c t r}, srv.serve s c t r → srv.stopped s = false
  steps : ∀ {s t}, srv.own s t → srv.stopped s = false
  closes : ∀ {s t}, srv.close s t → srv.stopped t = true

end Server

namespace Mailbox

inductive Step (ι : Type x) (C : Type v) : Type (max v x)
  | call (i : ι) (c : C)
  | send (i : ι)
  | refuse (i : ι)
  | take
  | own
  | close
  | receive (i : ι)
  | cancel (i : ι)
  | leave (i : ι)

/-- A server that has stopped takes its queue with it. -/
def settle (srv : Server S C R) (p : Mailbox S C R ι) : Mailbox S C R ι :=
  if srv.stopped p.server then
    { p with
      queue := []
      callers := fun i =>
        match p.callers i with
        | .waiting c seen _ => .answered c seen none
        | caller => caller }
  else p

variable [DecidableEq ι]

def goto (p : Mailbox S C R ι) (i : ι) (caller : Caller C R) : Mailbox S C R ι :=
  { p with callers := Function.update p.callers i caller }

def deliver (p : Mailbox S C R ι) (i : ι) (reply : Option R) : Mailbox S C R ι :=
  p.goto i ((p.callers i).hear p.served reply)

inductive Next (srv : Server S C R) (p : Mailbox S C R ι) : Step ι C → Mailbox S C R ι → Prop
  | call {i : ι} {c : C} : p.callers i = .idle →
      Next srv p (.call i c) (p.goto i (.sending c p.accepted.length))
  | send {i : ι} {c : C} {seen : Nat} : p.callers i = .sending c seen →
      srv.stopped p.server = false → p.queue.length < p.capacity →
      Next srv p (.send i)
        { p.goto i (if srv.asks c then .waiting c seen p.accepted.length else .idle) with
          queue := p.queue ++ [(i, c)]
          accepted := p.accepted ++ [(i, c)] }
  | refuse {i : ι} {c : C} {seen : Nat} : p.callers i = .sending c seen →
      srv.stopped p.server = true → Next srv p (.refuse i) (p.goto i (.answered c seen none))
  | take {i : ι} {c : C} {rest : List (ι × C)} {s : S} {reply : Option R} :
      p.queue = (i, c) :: rest → srv.serve p.server c s reply →
      Next srv p .take
        (settle srv { p.deliver i reply with server := s, queue := rest, served := p.served + 1 })
  | own {s : S} : srv.own p.server s → Next srv p .own (settle srv { p with server := s })
  | close {s : S} : p.queue = [] → (∀ i, p.callers i = .gone) → srv.close p.server s →
      Next srv p .close (settle srv { p with server := s })
  | receive {i : ι} {c : C} {seen : Nat} {reply : Option R} :
      p.callers i = .answered c seen reply → Next srv p (.receive i) (p.goto i .idle)
  | cancelSend {i : ι} {c : C} {seen : Nat} : p.callers i = .sending c seen →
      Next srv p (.cancel i) (p.goto i .idle)
  | cancelWait {i : ι} {c : C} {seen ticket : Nat} : p.callers i = .waiting c seen ticket →
      Next srv p (.cancel i) (p.goto i .idle)
  | leave {i : ι} : p.callers i = .idle → Next srv p (.leave i) (p.goto i .gone)

end Mailbox

def Caller.Knows (srv : Server S C R) (s₀ : S) (p : Mailbox S C R ι) (i : ι) : Caller C R → Prop
  | .idle | .gone => True
  | .sending _ seen => seen ≤ p.accepted.length
  | .waiting c seen ticket =>
    seen ≤ ticket ∧ p.served ≤ ticket ∧ p.accepted[ticket]? = some (i, c) ∧ srv.asks c = true
  | .answered c seen (some r) =>
    ∃ ticket s t, seen ≤ ticket ∧ p.accepted[ticket]? = some (i, c) ∧
      srv.Ran s₀ ((p.accepted.take ticket).map Prod.snd) s ∧ srv.serve s c t (some r)
  | .answered _ _ none => srv.stopped p.server = true

namespace Caller

variable {srv : Server S C R} {s₀ : S} {p q : Mailbox S C R ι} {i : ι} {caller : Caller C R}

theorem Knows.accept (h : caller.Knows srv s₀ p i) {new : List (ι × C)}
    (hserver : q.server = p.server) (hserved : q.served = p.served)
    (haccepted : q.accepted = p.accepted ++ new) : caller.Knows srv s₀ q i := by
  have hlong : p.accepted.length ≤ q.accepted.length := by simp [haccepted]
  have hlookup : ∀ {k : Nat} {x}, p.accepted[k]? = some x → q.accepted[k]? = some x := by
    intro k x hk
    rw [haccepted, List.getElem?_append_left (List.getElem?_eq_some_iff.mp hk).1]
    exact hk
  match caller, h with
  | .idle, _ | .gone, _ => trivial
  | .sending _ seen, h => exact Nat.le_trans h hlong
  | .waiting c seen ticket, ⟨hseen, hle, hk, hasks⟩ =>
    exact ⟨hseen, hserved ▸ hle, hlookup hk, hasks⟩
  | .answered c seen (some r), ⟨ticket, s, t, hseen, hk, hran, hserve⟩ =>
    have hshort : ticket ≤ p.accepted.length :=
      Nat.le_of_lt (List.getElem?_eq_some_iff.mp hk).1
    refine ⟨ticket, s, t, hseen, hlookup hk, ?_, hserve⟩
    rwa [haccepted, List.take_append_of_le_length hshort]
  | .answered _ _ none, h =>
    rw [Caller.Knows, hserver]
    exact h

theorem Knows.serve (h : caller.Knows srv s₀ p i) (hrunning : srv.stopped p.server = false)
    (haccepted : q.accepted = p.accepted) (hserved : q.served = p.served + 1)
    (hnot : ∀ c seen, caller ≠ .waiting c seen p.served) : caller.Knows srv s₀ q i := by
  match caller, h with
  | .idle, _ | .gone, _ => trivial
  | .sending _ _, h =>
    rw [Caller.Knows, haccepted]
    exact h
  | .waiting c seen ticket, ⟨hseen, hle, hk, hasks⟩ =>
    refine ⟨hseen, ?_, haccepted ▸ hk, hasks⟩
    rw [hserved]
    refine Nat.lt_of_le_of_ne hle ?_
    rintro rfl
    exact hnot c seen rfl
  | .answered _ _ (some _), h =>
    rw [Caller.Knows, haccepted]
    exact h
  | .answered _ _ none, h => exact absurd (hrunning.symm.trans h) (by decide)

end Caller

namespace Mailbox

structure Kept (srv : Server S C R) (s₀ : S) (p : Mailbox S C R ι) : Prop where
  ran : srv.Ran s₀ ((p.accepted.take p.served).map Prod.snd) p.server
  served : p.served ≤ p.accepted.length
  queue : srv.stopped p.server = false → p.accepted = p.accepted.take p.served ++ p.queue
  bounded : p.queue.length ≤ p.capacity
  callers : ∀ i, (p.callers i).Knows srv s₀ p i

structure Sound (srv : Server S C R) (s₀ : S) (p : Mailbox S C R ι) : Prop
    extends Kept srv s₀ p where
  awaited : ∀ {i c seen ticket}, p.callers i = .waiting c seen ticket →
    srv.stopped p.server = false

section

variable {srv : Server S C R} {s₀ : S} {p q : Mailbox S C R ι} {i : ι} {caller : Caller C R}

theorem Kept.settle (h : p.Kept srv s₀) : (settle srv p).Sound srv s₀ := by
  rw [Mailbox.settle]
  split
  case isFalse hrunning =>
    exact ⟨h, fun _ => eq_false_of_ne_true hrunning⟩
  case isTrue hstopped =>
    refine ⟨⟨h.ran, h.served, fun hrunning => ?_, Nat.zero_le _, fun i => ?_⟩,
      fun {i} _ _ _ hi => ?_⟩
    · exact absurd (hstopped.symm.trans hrunning) (by decide)
    · have hi := h.callers i
      dsimp only
      split
      case h_1 => exact hstopped
      case h_2 => exact hi.accept rfl rfl (List.append_nil _).symm
    · dsimp only at hi
      split at hi
      case h_1 => cases hi
      case h_2 hnot => exact absurd hi (hnot _ _ _)

theorem Sound.move {s : S} (h : p.Sound srv s₀)
    (hran : srv.Ran s₀ ((p.accepted.take p.served).map Prod.snd) s)
    (hmoves : srv.stopped p.server = false ∨ srv.stopped s = true) :
    (settle srv { p with server := s }).Sound srv s₀ := by
  refine Kept.settle ⟨hran, h.served, fun hs => ?_, h.bounded, fun i => ?_⟩
  · rcases hmoves with hp | hstopped
    · exact h.queue hp
    · exact absurd (hs.symm.trans hstopped) (by decide)
  · have hi := h.callers i
    dsimp only
    generalize p.callers i = caller at hi
    match caller, hi with
    | .idle, _ | .gone, _ => trivial
    | .sending _ _, hi => exact hi
    | .waiting _ _ _, hi => exact hi
    | .answered _ _ (some _), hi => exact hi
    | .answered _ _ none, hi =>
      rcases hmoves with hp | hstopped
      · exact absurd (hp.symm.trans hi) (by decide)
      · exact hstopped

theorem settle_of_running (h : srv.stopped p.server = false) : settle srv p = p := by
  rw [Mailbox.settle, h]
  rfl

@[simp] theorem settle_capacity (srv : Server S C R) (p : Mailbox S C R ι) :
    (settle srv p).capacity = p.capacity := by
  rw [settle]
  split <;> rfl

theorem Kept.getElem?_queue (h : p.Kept srv s₀) (hrunning : srv.stopped p.server = false)
    (k : Nat) : p.accepted[p.served + k]? = p.queue[k]? := by
  have hlen : (p.accepted.take p.served).length = p.served := by
    rw [List.length_take, Nat.min_eq_left h.served]
  rw [h.queue hrunning, List.getElem?_append_right (by rw [hlen]; exact Nat.le_add_right _ _), hlen,
    Nat.add_sub_cancel_left]

theorem Sound.mem_queue {c : C} {seen ticket : Nat} (h : p.Sound srv s₀)
    (hi : p.callers i = .waiting c seen ticket) : (i, c) ∈ p.queue := by
  have hknows := h.callers i
  rw [hi] at hknows
  obtain ⟨-, hle, hk, -⟩ := hknows
  obtain ⟨k, rfl⟩ := Nat.exists_eq_add_of_le hle
  rw [h.getElem?_queue (h.awaited hi)] at hk
  exact List.mem_of_getElem? hk

variable [DecidableEq ι]

theorem Sound.goto (h : p.Sound srv s₀) (hknows : caller.Knows srv s₀ p i)
    (hnot : ∀ c seen ticket, caller ≠ .waiting c seen ticket) : (p.goto i caller).Sound srv s₀ := by
  refine ⟨⟨h.ran, h.served, h.queue, h.bounded, fun j => ?_⟩, fun {j _ _ _} hj => ?_⟩
  · rw [Mailbox.goto]
    dsimp only
    by_cases hj : j = i
    · subst hj
      rw [Function.update_self]
      exact hknows.accept rfl rfl (List.append_nil _).symm
    · rw [Function.update_of_ne hj]
      exact (h.callers j).accept rfl rfl (List.append_nil _).symm
  · rw [Mailbox.goto] at hj
    dsimp only at hj
    by_cases hji : j = i
    · subst hji
      rw [Function.update_self] at hj
      exact absurd hj (hnot _ _ _)
    · rw [Function.update_of_ne hji] at hj
      exact h.awaited hj

theorem Sound.send {c : C} {seen : Nat} (h : p.Sound srv s₀) (hi : p.callers i = .sending c seen)
    (hrunning : srv.stopped p.server = false) (hroom : p.queue.length < p.capacity) :
    ({ p.goto i (if srv.asks c then .waiting c seen p.accepted.length else .idle) with
        queue := p.queue ++ [(i, c)]
        accepted := p.accepted ++ [(i, c)] } : Mailbox S C R ι).Sound srv s₀ := by
  have htake : (p.accepted ++ [(i, c)]).take p.served = p.accepted.take p.served :=
    List.take_append_of_le_length h.served
  refine ⟨⟨?_, ?_, fun _ => ?_, ?_, fun j => ?_⟩, fun _ => hrunning⟩
  · dsimp only [Mailbox.goto]
    rw [htake]
    exact h.ran
  · simp only [Mailbox.goto, List.length_append]
    exact Nat.le_add_right_of_le h.served
  · dsimp only [Mailbox.goto]
    rw [htake, ← List.append_assoc, ← h.queue hrunning]
  · simpa [Mailbox.goto] using Nat.succ_le_of_lt hroom
  · dsimp only [Mailbox.goto]
    by_cases hj : j = i
    · subst hj
      rw [Function.update_self]
      have hseen : seen ≤ p.accepted.length := by
        have hj := h.callers j
        rwa [hi] at hj
      split
      case isTrue hasks => exact ⟨hseen, h.served, by simp, hasks⟩
      case isFalse => trivial
    · rw [Function.update_of_ne hj]
      exact (h.callers j).accept rfl rfl rfl

theorem Sound.take (h : p.Sound srv s₀) (hlaw : srv.Lawful) {c : C} {rest : List (ι × C)} {s : S}
    {reply : Option R} (hq : p.queue = (i, c) :: rest) (hserve : srv.serve p.server c s reply) :
    (settle srv { p.deliver i reply with
      server := s, queue := rest, served := p.served + 1 }).Sound srv s₀ := by
  have hrunning := hlaw.serves hserve
  have hsplit := h.queue hrunning
  rw [hq] at hsplit
  have hnext : p.accepted[p.served]? = some (i, c) := by
    have hfirst := h.getElem?_queue hrunning 0
    rwa [hq] at hfirst
  have htake : p.accepted.take (p.served + 1) = p.accepted.take p.served ++ [(i, c)] := by
    rw [List.take_add_one, hnext]
    rfl
  refine Kept.settle ⟨?_, (List.getElem?_eq_some_iff.mp hnext).1, fun _ => ?_, ?_, fun j => ?_⟩
  · dsimp only [deliver, Mailbox.goto]
    rw [htake, List.map_append]
    exact h.ran.serve hserve
  · dsimp only [deliver, Mailbox.goto]
    rw [htake, List.append_assoc, List.singleton_append]
    exact hsplit
  · have hbound := h.bounded
    rw [hq] at hbound
    exact Nat.le_of_succ_le hbound
  · dsimp only [deliver, Mailbox.goto]
    have hj := h.callers j
    by_cases hji : j = i
    case neg =>
      rw [Function.update_of_ne hji]
      refine hj.serve hrunning rfl rfl fun c' seen hwait => ?_
      rw [hwait] at hj
      cases hnext.symm.trans hj.2.2.1
      exact hji rfl
    case pos =>
      subst hji
      rw [Function.update_self]
      generalize p.callers j = caller at hj
      unfold Caller.hear
      split
      case h_2 hnot =>
        exact hj.serve hrunning rfl rfl fun c' seen => hnot c' seen p.served
      case h_1 c' seen ticket =>
        split
        case isFalse hne =>
          refine hj.serve hrunning rfl rfl fun _ _ hwait => ?_
          cases hwait
          exact hne rfl
        case isTrue heq =>
          subst heq
          obtain ⟨hseen, -, hk, hasks⟩ := hj
          cases hnext.symm.trans hk
          obtain ⟨r, rfl⟩ := Option.isSome_iff_exists.mp ((hlaw.replies hserve).mp hasks)
          exact ⟨p.served, p.server, s, hseen, hnext, h.ran, hserve⟩

theorem Sound.next {step : Step ι C} (h : p.Sound srv s₀) (hlaw : srv.Lawful)
    (hst : Next srv p step q) : q.Sound srv s₀ := by
  cases hst with
  | call => exact h.goto (Nat.le_refl _) (by simp)
  | send hi hrunning hroom => exact h.send hi hrunning hroom
  | refuse _ hstopped => exact h.goto hstopped (by simp)
  | take hq hserve => exact h.take hlaw hq hserve
  | own hown => exact h.move (h.ran.own hown) (.inl (hlaw.steps hown))
  | close _ _ hclose => exact h.move (h.ran.close hclose) (.inr (hlaw.closes hclose))
  | receive | cancelSend | cancelWait | leave => exact h.goto trivial (by simp)

def Reached (srv : Server S C R) (s₀ : S) (capacity : Nat) (p : Mailbox S C R ι) : Prop :=
  Reach (Next srv) (fun _ _ => True) { server := s₀, capacity := capacity } p

theorem Reached.sound {capacity : Nat} (h : Reached srv s₀ capacity p) (hlaw : srv.Lawful) :
    p.Sound srv s₀ := by
  refine Reach.invariant (Sound srv s₀) ?_ (fun hs _ hst => hs.next hlaw hst) h
  exact ⟨⟨.start, Nat.le_refl _, fun _ => rfl, Nat.zero_le _, fun _ => trivial⟩, by simp⟩

theorem Reached.capacity_eq {capacity : Nat} (h : Reached srv s₀ capacity p) :
    p.capacity = capacity := by
  refine Reach.invariant (fun p => p.capacity = capacity) rfl ?_ h
  intro p step q hp _ hst
  cases hst <;> first | exact hp | exact (settle_capacity srv _).trans hp

end

end Mailbox

end Nearby.Lib
