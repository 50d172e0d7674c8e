import Nearby.Bwu.Channel
import Nearby.Lib.Transition

/-! `tcp.rs`: a listener with its accept loop, wired to the actor as `actor.rs` does it: the sink
posts each socket to the actor's bounded command channel and blocks while that is full, and it is
the actor that stops the listener and waits for the loop. -/

namespace Nearby.Bwu

open Lib

/-- What `accept` returns.  `clones` says whether `tcp_channel` can clone the stream, `throwaway`
whether it is the connection of `stop_listener`, which the loop cannot see. -/
inductive Incoming : Type
  | ok (channel : ChannelId) (clones throwaway : Bool)
  | err
  deriving DecidableEq, Repr

def Incoming.usable : Incoming → Bool
  | .ok _ clones _ => clones
  | .err => false

def Incoming.fromPeer : Incoming → Bool
  | .ok _ _ throwaway => !throwaway
  | .err => true

inductive Loop : Type
  | accepting
  | checking (incoming : Incoming)
  | sinking (incoming : Incoming)
  | ended
  deriving DecidableEq, Repr

/-- Where the actor is: in `run`, or in `stop_listener` with the flag stored, then with the
throwaway connection made, or past it. -/
inductive Owner : Type
  | serving
  | connecting
  | joining
  | joined
  deriving DecidableEq, Repr

/-- What is posted to the actor; of the commands only the connections of this loop are told
apart. -/
inductive Post : Type
  | incomingConnection (incoming : Incoming)
  | command
  deriving DecidableEq, Repr

/-- The listener, the threads at it and the command channel.  `accepted` and `handed` are
history: what the loop got from `accept`, and what the sink has taken from it. -/
structure Listener where
  capacity : Nat
  queue : List Post := []
  backlog : List Incoming := []
  stop : Bool := false
  loop : Loop := .accepting
  owner : Owner := .serving
  accepted : List Incoming := []
  handed : List Incoming := []
  deriving DecidableEq, Repr

namespace Listener

inductive Step : Type
  | arrive (incoming : Incoming)
  | accept
  | check
  | sink
  | send
  | recv
  | signal
  | connect (ok : Bool) (channel : ChannelId) (clones : Bool)
  | join
  deriving DecidableEq, Repr

/-- The body of the `for` loop, up to the sink. -/
def checked (l : Listener) (incoming : Incoming) : Loop :=
  if l.stop then .ended
  else
    match incoming with
    | .ok _ clones _ => if clones then .sinking incoming else .accepting
    | .err => .ended

def apply (l : Listener) : Step → Listener
  | .arrive incoming => { l with backlog := l.backlog ++ [incoming] }
  | .accept =>
    match l.backlog with
    | [] => l
    | incoming :: backlog =>
      { l with
        backlog := backlog
        loop := .checking incoming
        accepted := l.accepted ++ [incoming] }
  | .check =>
    match l.loop with
    | .checking incoming => { l with loop := l.checked incoming }
    | _ => l
  | .sink =>
    match l.loop with
    | .sinking incoming =>
      { l with
        queue := l.queue ++ [.incomingConnection incoming]
        loop := .accepting
        handed := l.handed ++ [incoming] }
    | _ => l
  | .send => { l with queue := l.queue ++ [.command] }
  | .recv => { l with queue := l.queue.tail }
  | .signal => { l with owner := .connecting, stop := true }
  | .connect ok channel clones =>
    { l with
      owner := .joining
      backlog := if ok then l.backlog ++ [.ok channel clones true] else l.backlog }
  | .join => { l with owner := .joined }

/-- The loop drops the `TcpListener` when it ends, so nothing arrives from then on. -/
def Allows (l : Listener) : Step → Prop
  | .arrive incoming => l.loop ≠ .ended ∧ incoming.fromPeer = true
  | .accept => l.loop = .accepting ∧ l.backlog ≠ []
  | .check => ∃ incoming, l.loop = .checking incoming
  | .sink => (∃ incoming, l.loop = .sinking incoming) ∧ l.queue.length < l.capacity
  | .send => l.queue.length < l.capacity
  | .recv => (l.owner = .serving ∨ l.owner = .joined) ∧ l.queue ≠ []
  | .signal => l.owner = .serving
  | .connect ok _ _ => l.owner = .connecting ∧ (ok = true → l.loop ≠ .ended)
  | .join => l.owner = .joining ∧ l.loop = .ended

abbrev After (l : Listener) : Listener → Prop := Reach (fun l x l' => l.apply x = l') Allows l

/-- Reached from `start_listener`, with anything in the command channel. -/
def Reached (l : Listener) : Prop := ∃ capacity queue, After { capacity, queue } l

end Listener

/-! ### What the sink gets -/

namespace Loop

def pending : Loop → List Incoming
  | .sinking incoming => [incoming]
  | _ => []

def inHand : Loop → List Incoming
  | .checking incoming => [incoming].filter Incoming.usable
  | loop => loop.pending

end Loop

namespace Listener

structure Kept (l : Listener) : Prop where
  order : l.handed ++ l.loop.pending <+: l.accepted.filter Incoming.usable
  whole : l.stop = false → l.handed ++ l.loop.inHand = l.accepted.filter Incoming.usable
  peers : ∀ x ∈ l.handed ++ l.loop.pending, x.fromPeer = true
  foreign : l.stop = false → ∀ x ∈ l.accepted ++ l.backlog, x.fromPeer = true
  owner : l.owner ≠ .serving → l.stop = true
  joined : l.owner = .joined → l.loop = .ended

variable {l m : Listener}

theorem Kept.check (h : l.Kept) {incoming : Incoming} (hloop : l.loop = .checking incoming) :
    { l with loop := l.checked incoming }.Kept := by
  have hhanded : l.handed <+: l.accepted.filter Incoming.usable := by
    simpa [hloop, Loop.pending] using h.order
  have hpeers : ∀ x ∈ l.handed, x.fromPeer = true := by
    simpa [hloop, Loop.pending] using h.peers
  rcases Bool.eq_false_or_eq_true l.stop with hstop | hstop
  · have hended : l.checked incoming = .ended := by simp [checked, hstop]
    rw [hended]
    exact ⟨by simpa [Loop.pending] using hhanded, by simp [hstop],
      by simpa [Loop.pending] using hpeers, by simp [hstop], h.owner, fun _ => rfl⟩
  · have hrun : ∀ {loop : Loop}, l.owner = .joined → loop = .ended := by
      intro loop ho
      simp [h.owner (by simp [ho])] at hstop
    have hwhole := h.whole hstop
    rw [hloop, Loop.inHand] at hwhole
    by_cases huse : incoming.usable = true
    · have hsink : l.checked incoming = .sinking incoming := by
        cases incoming with
        | ok channel clones throwaway => simp_all [checked, Incoming.usable]
        | err => cases huse
      have hrow : l.handed ++ [incoming] = l.accepted.filter Incoming.usable := by
        simpa [huse] using hwhole
      have hmem : incoming ∈ l.accepted := by
        have hin : incoming ∈ l.accepted.filter Incoming.usable := by simp [← hrow]
        exact (List.mem_filter.mp hin).1
      rw [hsink]
      refine ⟨hrow ▸ List.prefix_refl _, fun _ => hrow, ?_, h.foreign, h.owner, hrun⟩
      intro x hx
      rcases List.mem_append.mp hx with hx | hx
      · exact hpeers x hx
      · cases List.mem_singleton.mp hx
        exact h.foreign hstop incoming (List.mem_append_left _ hmem)
    · have hrow : l.handed = l.accepted.filter Incoming.usable := by
        simpa [huse] using hwhole
      have hnone : (l.checked incoming).pending = [] ∧ (l.checked incoming).inHand = [] := by
        cases incoming with
        | ok channel clones throwaway =>
          simp_all [checked, Incoming.usable, Loop.pending, Loop.inHand]
        | err => simp [checked, hstop, Loop.pending, Loop.inHand]
      refine ⟨?_, fun _ => ?_, ?_, h.foreign, h.owner, hrun⟩
      · simpa [hnone.1] using hhanded
      · simpa [hnone.2] using hrow
      · simpa [hnone.1] using hpeers

theorem Kept.apply (h : l.Kept) {x : Step} (hx : l.Allows x) : (l.apply x).Kept := by
  cases x with
  | arrive incoming =>
    refine ⟨h.order, h.whole, h.peers, fun hstop y hy => ?_, h.owner, h.joined⟩
    rw [Listener.apply, ← List.append_assoc] at hy
    rcases List.mem_append.mp hy with hy | hy
    · exact h.foreign hstop y hy
    · cases List.mem_singleton.mp hy
      exact hx.2
  | accept =>
    cases hback : l.backlog with
    | nil => exact absurd hback hx.2
    | cons incoming backlog =>
      have horder := h.order
      have hwhole := h.whole
      have hpeers := h.peers
      have hforeign := h.foreign
      rw [hx.1] at horder hwhole hpeers
      rw [hback] at hforeign
      simp only [Listener.apply, hback]
      refine ⟨?_, fun hstop => ?_, hpeers, fun hstop => ?_, h.owner, fun ho => ?_⟩
      · rw [List.filter_append]
        exact horder.trans (List.prefix_append _ _)
      · rw [List.filter_append, ← hwhole hstop]
        simp [Loop.inHand, Loop.pending]
      · simpa using hforeign hstop
      · have hended := h.joined ho
        rw [hx.1] at hended
        cases hended
  | check =>
    obtain ⟨incoming, hloop⟩ := hx
    simp only [Listener.apply, hloop]
    exact h.check hloop
  | sink =>
    obtain ⟨⟨incoming, hloop⟩, -⟩ := hx
    have horder := h.order
    have hwhole := h.whole
    have hpeers := h.peers
    rw [hloop] at horder hwhole hpeers
    simp only [Listener.apply, hloop]
    exact ⟨by simpa [Loop.pending] using horder, by simpa [Loop.inHand, Loop.pending] using hwhole,
      by simpa [Loop.pending] using hpeers, h.foreign, h.owner, by simpa [hloop] using h.joined⟩
  | send => exact ⟨h.order, h.whole, h.peers, h.foreign, h.owner, h.joined⟩
  | recv => exact ⟨h.order, h.whole, h.peers, h.foreign, h.owner, h.joined⟩
  | signal =>
    exact ⟨h.order, by simp [Listener.apply], h.peers, by simp [Listener.apply], fun _ => rfl,
      by simp [Listener.apply]⟩
  | connect ok channel clones =>
    have hstop : l.stop = true := h.owner (by simp [hx.1])
    exact ⟨h.order, by simp [Listener.apply, hstop], h.peers, by simp [Listener.apply, hstop],
      fun _ => hstop, by simp [Listener.apply]⟩
  | join =>
    have hstop : l.stop = true := h.owner (by simp [hx.1])
    exact ⟨h.order, h.whole, h.peers, h.foreign, fun _ => hstop, fun _ => hx.2⟩

theorem Reached.kept (h : l.Reached) : l.Kept := by
  obtain ⟨capacity, queue, h⟩ := h
  refine Reach.invariant Kept ?_ ?_ h
  · exact ⟨List.prefix_refl _, fun _ => rfl, by simp [Loop.pending], by simp, by simp, by simp⟩
  · rintro l x m hl hx rfl
    exact hl.apply hx

/-! ### Waiting for the loop -/

def Jammed (l : Listener) : Prop :=
  (∃ incoming, l.loop = .sinking incoming) ∧ l.capacity ≤ l.queue.length

/-- The loop has something to return from `accept` with, or is past it and not in the sink. -/
def Clear (l : Listener) : Prop :=
  (∀ incoming, l.loop ≠ .sinking incoming) ∧ (l.loop = .accepting → l.backlog ≠ [])

def rank (l : Listener) : Nat :=
  match l.loop with
  | .accepting => 3
  | .checking _ => 2
  | .sinking _ => 4
  | .ended => if l.owner = .joined then 0 else 1

theorem Clear.rank_le (h : l.Clear) : l.rank ≤ 3 := by
  unfold rank
  split
  case h_3 incoming hloop => exact absurd hloop (h.1 incoming)
  case h_4 => split <;> omega
  all_goals omega

theorem handed_grows (h : l.After m) : l.handed <+: m.handed := by
  refine Reach.invariant (fun m : Listener => l.handed <+: m.handed) (List.prefix_refl _) ?_ h
  rintro m x _ hm - rfl
  cases x with
  | accept | check =>
    simp only [Listener.apply]
    split <;> exact hm
  | sink =>
    simp only [Listener.apply]
    split
    case h_1 => exact hm.trans (List.prefix_append _ _)
    case h_2 => exact hm
  | arrive | send | recv | signal | connect | join => exact hm

theorem stopped_hands_over (hstop : l.stop = true) (h : l.After m) :
    m.handed ++ m.loop.pending <+: l.handed ++ l.loop.pending := by
  suffices hinv : m.stop = true ∧ m.handed ++ m.loop.pending <+: l.handed ++ l.loop.pending from
    hinv.2
  refine Reach.invariant (fun m : Listener => m.stop = true ∧
    m.handed ++ m.loop.pending <+: l.handed ++ l.loop.pending) ⟨hstop, List.prefix_refl _⟩ ?_ h
  rintro m x _ ⟨hstop, hm⟩ hx rfl
  cases x with
  | accept =>
    cases hback : m.backlog with
    | nil => exact absurd hback hx.2
    | cons incoming backlog =>
      rw [hx.1] at hm
      simp only [Listener.apply, hback]
      exact ⟨hstop, hm⟩
  | check =>
    obtain ⟨incoming, hloop⟩ := hx
    rw [hloop] at hm
    have hended : m.checked incoming = .ended := by simp [checked, hstop]
    simp only [Listener.apply, hloop, hended]
    exact ⟨hstop, hm⟩
  | sink =>
    obtain ⟨⟨incoming, hloop⟩, -⟩ := hx
    rw [hloop] at hm
    simp only [Listener.apply, hloop]
    exact ⟨hstop, by simpa [Loop.pending] using hm⟩
  | signal => exact ⟨rfl, hm⟩
  | arrive | send | recv | connect | join => exact ⟨hstop, hm⟩

theorem jammed_stays (hj : l.Jammed) (ho : l.owner = .joining) (h : l.After m) :
    m.Jammed ∧ m.owner = .joining ∧ m.queue = l.queue := by
  refine Reach.invariant (fun m : Listener => m.Jammed ∧ m.owner = .joining ∧ m.queue = l.queue)
    ⟨hj, ho, rfl⟩ ?_ h
  rintro m x _ ⟨⟨⟨incoming, hloop⟩, hfull⟩, ho, hq⟩ hx rfl
  cases x with
  | arrive incoming' => exact ⟨⟨⟨incoming, hloop⟩, hfull⟩, ho, hq⟩
  | accept => simp [Allows, hloop] at hx
  | check =>
    obtain ⟨incoming', hloop'⟩ := hx
    simp [hloop] at hloop'
  | sink => exact absurd hx.2 (Nat.not_lt_of_le hfull)
  | send => exact absurd hx (Nat.not_lt_of_le hfull)
  | recv => simp [Allows, ho] at hx
  | signal => simp [Allows, ho] at hx
  | connect ok channel clones => simp [Allows, ho] at hx
  | join => simp [Allows, hloop] at hx

theorem joins_from_accepting (hstop : l.stop = true) (ho : l.owner = .joining)
    (hloop : l.loop = .accepting) (hback : l.backlog ≠ []) :
    ∃ m, l.After m ∧ m.owner = .joined := by
  obtain ⟨incoming, backlog, hcons⟩ := List.exists_cons_of_ne_nil hback
  refine ⟨_, Reach.snoc (a := .join) (Reach.snoc (a := .check) (Reach.snoc (a := .accept) .refl
    ⟨hloop, hback⟩ rfl) ?_ rfl) ?_ rfl, ?_⟩ <;>
  simp [Allows, Listener.apply, hcons, checked, hstop, ho]

theorem joins_of_not_jammed (hstop : l.stop = true) (ho : l.owner = .joining)
    (hj : ¬ l.Jammed) : ∃ m, l.After m ∧ m.owner = .joined := by
  cases hloop : l.loop with
  | accepting =>
    by_cases hback : l.backlog = []
    · have harrive : l.Allows (.arrive .err) := ⟨by simp [hloop], rfl⟩
      obtain ⟨m, hm, hjoined⟩ := joins_from_accepting (l := l.apply (.arrive .err)) hstop ho hloop
        (by simp [Listener.apply])
      exact ⟨m, .head ⟨_, harrive, rfl⟩ hm, hjoined⟩
    · exact joins_from_accepting hstop ho hloop hback
  | checking incoming =>
    refine ⟨_, Reach.snoc (a := .join) (Reach.snoc (a := .check) .refl ⟨incoming, hloop⟩ rfl) ?_
      rfl, ?_⟩ <;>
    simp [Allows, Listener.apply, hloop, checked, hstop, ho]
  | sinking incoming =>
    have hroom : l.queue.length < l.capacity :=
      Nat.lt_of_not_le fun hfull => hj ⟨⟨incoming, hloop⟩, hfull⟩
    have hsink : l.Allows .sink := ⟨⟨incoming, hloop⟩, hroom⟩
    have harrive : (l.apply .sink).Allows (.arrive .err) := by
      simp [Allows, Listener.apply, hloop, Incoming.fromPeer]
    obtain ⟨m, hm, hjoined⟩ := joins_from_accepting (l := (l.apply .sink).apply (.arrive .err))
      (by simpa [Listener.apply, hloop] using hstop) (by simpa [Listener.apply, hloop] using ho)
      (by simp [Listener.apply, hloop]) (by simp [Listener.apply])
    exact ⟨m, .head ⟨_, hsink, rfl⟩ (.head ⟨_, harrive, rfl⟩ hm), hjoined⟩
  | ended =>
    exact ⟨_, Reach.snoc (a := .join) .refl ⟨ho, hloop⟩ rfl, rfl⟩

theorem Clear.apply (hc : l.Clear) (hstop : l.stop = true) {x : Step} (hx : l.Allows x) :
    (l.apply x).Clear ∧ (l.apply x).rank ≤ l.rank := by
  cases x with
  | arrive incoming => exact ⟨⟨hc.1, by simp [Listener.apply]⟩, Nat.le_refl _⟩
  | accept =>
    cases hback : l.backlog with
    | nil => exact absurd hback hx.2
    | cons incoming backlog =>
      simp [Listener.apply, hback, Clear, rank, hx.1]
  | check =>
    obtain ⟨incoming, hloop⟩ := hx
    have hended : l.checked incoming = .ended := by simp [checked, hstop]
    simp only [Listener.apply, hloop, hended, Clear, rank]
    refine ⟨by simp, ?_⟩
    split <;> omega
  | sink =>
    obtain ⟨⟨incoming, hloop⟩, -⟩ := hx
    exact absurd hloop (hc.1 incoming)
  | send => exact ⟨hc, Nat.le_refl _⟩
  | recv => exact ⟨hc, Nat.le_refl _⟩
  | signal =>
    have ho : l.owner = .serving := hx
    refine ⟨hc, ?_⟩
    simp only [rank, Listener.apply, ho]
    cases l.loop <;> simp
  | connect ok channel clones =>
    refine ⟨⟨hc.1, fun hloop => ?_⟩, ?_⟩
    · have hback := hc.2 hloop
      simp only [Listener.apply]
      split
      case isTrue => simp
      case isFalse => exact hback
    · simp only [rank, Listener.apply, hx.1]
      cases l.loop <;> simp
  | join =>
    refine ⟨hc, ?_⟩
    simp [rank, Listener.apply, hx.1, hx.2]

theorem Clear.after (hc : l.Clear) (hstop : l.stop = true) (h : l.After m) :
    m.Clear ∧ m.stop = true ∧ m.rank ≤ l.rank := by
  refine Reach.invariant (fun m : Listener => m.Clear ∧ m.stop = true ∧ m.rank ≤ l.rank)
    ⟨hc, hstop, Nat.le_refl _⟩ ?_ h
  rintro m x _ ⟨hc, hstop, hrank⟩ hx rfl
  obtain ⟨hc', hle⟩ := hc.apply hstop hx
  refine ⟨hc', ?_, hle.trans hrank⟩
  cases x <;> simp only [Listener.apply] <;> first | exact hstop | rfl | (split <;> exact hstop)

theorem Clear.progress (hc : m.Clear) (hstop : m.stop = true) (ho : m.owner = .joining) :
    ∃ x, m.Allows x ∧ (m.apply x).rank < m.rank := by
  cases hloop : m.loop with
  | accepting =>
    obtain ⟨incoming, backlog, hcons⟩ := List.exists_cons_of_ne_nil (hc.2 hloop)
    refine ⟨.accept, ⟨hloop, hc.2 hloop⟩, ?_⟩
    simp [rank, Listener.apply, hcons, hloop]
  | checking incoming =>
    refine ⟨.check, ⟨incoming, hloop⟩, ?_⟩
    simp [rank, Listener.apply, hloop, checked, hstop, ho]
  | sinking incoming => exact absurd hloop (hc.1 incoming)
  | ended =>
    refine ⟨.join, ⟨ho, hloop⟩, ?_⟩
    simp [rank, Listener.apply, hloop, ho]

theorem joining_after (ho : l.owner = .joining) (h : l.After m) :
    m.owner = .joining ∨ m.owner = .joined := by
  refine Reach.invariant (fun m : Listener => m.owner = .joining ∨ m.owner = .joined) (.inl ho)
    ?_ h
  rintro m x _ hm hx rfl
  cases x with
  | accept | check | sink =>
    simp only [Listener.apply]
    split <;> exact hm
  | arrive | send | recv => exact hm
  | signal =>
    rw [show m.owner = .serving from hx] at hm
    simp at hm
  | connect =>
    rw [hx.1] at hm
    simp at hm
  | join => exact .inr rfl

end Listener

/-- The sink gets the peers' sockets in the order in which they were accepted, each once, all of
them while the listener is not being stopped; the throwaway connection never gets there.  Once the
flag is stored at most the socket that is on its way still gets there, and nothing does when the
loop has been joined. -/
theorem Listener.hands_over_in_order {l : Listener} (h : l.Reached) :
    l.handed <+: l.accepted.filter Incoming.usable ∧
    (l.stop = false → l.handed ++ l.loop.inHand = l.accepted.filter Incoming.usable) ∧
    (∀ x ∈ l.handed, x.fromPeer = true) ∧
    (l.stop = true → ∀ m, l.After m → m.handed <+: l.handed ++ l.loop.pending) ∧
    (l.owner = .joined → ∀ m, l.After m → m.handed = l.handed) := by
  have hk := h.kept
  refine ⟨(List.prefix_append _ _).trans hk.order, hk.whole,
    fun x hx => hk.peers x (List.mem_append_left _ hx), ?_, ?_⟩
  · intro hstop m hm
    exact (List.prefix_append _ _).trans (stopped_hands_over hstop hm)
  · intro ho m hm
    have hstop : l.stop = true := hk.owner (by simp [ho])
    have hle := (List.prefix_append _ _).trans (stopped_hands_over hstop hm)
    have hnone : l.loop.pending = [] := by
      rw [hk.joined ho]
      rfl
    rw [hnone, List.append_nil] at hle
    exact hle.eq_of_length_le (handed_grows hm).length_le

def lateArrival : List Listener.Step :=
  [.arrive (.ok 1 true false), .accept, .check, .sink, .arrive (.ok 2 true false), .accept, .check,
    .signal, .connect true 3 true, .sink, .accept, .check, .join]

theorem Listener.hands_over_in_order_lateArrival :
    let l := lateArrival.foldl Listener.apply { capacity := 4 }
    l.owner = .joined ∧ l.handed = [.ok 1 true false, .ok 2 true false] ∧
      l.accepted.length = 3 ∧ ∀ m, l.After m → m.handed = l.handed := by
  have hadmits : Admits Listener.apply Listener.Allows { capacity := 4 } lateArrival := by
    simp [Admits, lateArrival, Listener.Allows, Listener.apply, Listener.checked,
      Incoming.fromPeer]
  refine ⟨rfl, rfl, rfl, fun m hm => ?_⟩
  exact (Listener.hands_over_in_order ⟨4, [], reach_foldl lateArrival hadmits⟩).2.2.2.2 rfl m hm

/-- The actor comes back from the join of `stop_listener` unless the loop is in the sink and the
command channel is full.  Then nobody takes from the channel any more, and the actor is lost; if
the loop is not in the sink and has a connection to return with, the join ends after three steps
of the two, whatever the others do. -/
theorem Listener.join_ends_iff {l : Listener} (h : l.Reached) (ho : l.owner = .joining) :
    ((∃ m, l.After m ∧ m.owner = .joined) ↔ ¬ l.Jammed) ∧
    (l.Jammed → ∀ m, l.After m → m.owner = .joining ∧ m.queue = l.queue) ∧
    (l.Clear → ∀ m, l.After m → m.rank ≤ 3 ∧
      (m.owner = .joined ∨ ∃ x, m.Allows x ∧ (m.apply x).rank < m.rank)) := by
  have hstop : l.stop = true := h.kept.owner (by simp [ho])
  refine ⟨⟨?_, joins_of_not_jammed hstop ho⟩, ?_, ?_⟩
  · rintro ⟨m, hm, hjoined⟩ hj
    have hstays := (jammed_stays hj ho hm).2.1
    rw [hjoined] at hstays
    cases hstays
  · intro hj m hm
    exact (jammed_stays hj ho hm).2
  · intro hc m hm
    obtain ⟨hc', hstop', hrank⟩ := hc.after hstop hm
    refine ⟨hrank.trans hc.rank_le, ?_⟩
    rcases joining_after ho hm with ho' | ho'
    · exact .inr (hc'.progress hstop' ho')
    · exact .inl ho'

def jam : List Listener.Step :=
  [.arrive (.ok 1 true false), .accept, .check, .recv, .signal, .send, .connect true 2 true]

theorem Listener.join_ends_iff_jam :
    let l := jam.foldl Listener.apply { capacity := 1, queue := [.command] }
    l.owner = .joining ∧ ∀ m, l.After m → m.owner = .joining ∧ m.queue = [.command] := by
  have hadmits :
      Admits Listener.apply Listener.Allows { capacity := 1, queue := [.command] } jam := by
    simp [Admits, jam, Listener.Allows, Listener.apply, Listener.checked, Incoming.fromPeer]
  refine ⟨rfl, fun m hm => ?_⟩
  exact (Listener.join_ends_iff ⟨1, [.command], reach_foldl jam hadmits⟩ rfl).2.1
    ⟨⟨.ok 1 true false, rfl⟩, by decide⟩ m hm

end Nearby.Bwu
