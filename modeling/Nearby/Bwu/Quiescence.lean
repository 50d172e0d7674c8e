import Nearby.Bwu.Threads
import Mathlib.Data.Fintype.Option

/-! Every call on a `StreamChannel` comes to an end, unless it waits for something that only a
new call can bring: a resume, or a frame. -/

namespace Nearby.Bwu

open Proto Lib

def DuplexStream.left (s : DuplexStream) : Nat := 2 * s.wire.length + s.pipe.buf.length

namespace StreamChannel

variable {σ ι : Type}

theorem length_readExact_le (closed : Bool) (missing : Nat) (filled buf : Bytes) :
    (Pipe.readExact closed missing filled buf).2.length ≤ buf.length := by
  induction missing generalizing filled buf with
  | zero => exact Nat.le_refl _
  | succ missing ih =>
    cases buf with
    | nil => exact Nat.le_refl _
    | cons byte buf => exact Nat.le_succ_of_le (ih _ buf)

theorem length_readExactCall_le (p : Pipe) (r : Reader) :
    (readExactCall p r).2.buf.length ≤ p.buf.length := by
  cases r <;> exact length_readExact_le ..

theorem readExactCall_parked {p q : Pipe} {r r' : Reader}
    (h : readExactCall p r = (.parked r', q)) :
    (∃ filled len, r = .length filled ∧ r' = .payload len [] ∧ q.buf.length ≤ p.buf.length) ∨
    p.closed = false ∧ q.buf = [] ∧
      ((∃ filled, r = .length filled ∧ r' = .length (filled ++ p.buf) ∧
        p.buf.length < 4 - filled.length) ∨
      ∃ len filled, r = .payload len filled ∧ r' = .payload len (filled ++ p.buf) ∧
        p.buf.length < len - filled.length) := by
  cases r with
  | length filled =>
    by_cases hle : 4 - filled.length ≤ p.buf.length
    · simp only [readExactCall, Pipe.readExact_of_le hle] at h
      split at h
      case isTrue => simp at h
      case isFalse =>
        cases h
        refine .inl ⟨filled, _, rfl, rfl, ?_⟩
        simp
    · cases hc : p.closed with
      | true => simp [readExactCall, hc, readExact_end (Nat.lt_of_not_le hle)] at h
      | false =>
        simp only [readExactCall, hc, Pipe.readExact_of_lt (Nat.lt_of_not_le hle)] at h
        cases h
        exact .inr ⟨rfl, rfl, .inl ⟨filled, rfl, rfl, Nat.lt_of_not_le hle⟩⟩
  | payload len filled =>
    by_cases hle : len - filled.length ≤ p.buf.length
    · simp [readExactCall, readPayload, Pipe.readExact_of_le hle] at h
    · cases hc : p.closed with
      | true => simp [readExactCall, readPayload, hc, readExact_end (Nat.lt_of_not_le hle)] at h
      | false =>
        simp only [readExactCall, readPayload, hc,
          Pipe.readExact_of_lt (Nat.lt_of_not_le hle)] at h
        cases h
        exact .inr ⟨rfl, rfl, .inr ⟨len, filled, rfl, rfl, Nat.lt_of_not_le hle⟩⟩

theorem starved {p q : Pipe} {r : Reader} (hcall : readExactCall p r = (.parked r, q)) :
    p.closed = false ∧ p.buf = [] ∧
      match r with
      | .length filled => filled.length < 4
      | .payload len filled => filled.length < len := by
  rcases readExactCall_parked hcall with ⟨filled, len, rfl, hr', -⟩ | ⟨hclosed, -, hsame⟩
  · cases hr'
  · refine ⟨hclosed, ?_⟩
    rcases hsame with ⟨filled, rfl, hr', hlt⟩ | ⟨len, filled, rfl, hr', hlt⟩
    · injection hr' with hr'
      have hbuf : p.buf = [] := by simpa using hr'
      rw [hbuf, List.length_nil] at hlt
      exact ⟨hbuf, by omega⟩
    · injection hr' with _ hr'
      have hbuf : p.buf = [] := by simpa using hr'
      rw [hbuf, List.length_nil] at hlt
      exact ⟨hbuf, by omega⟩

theorem starved_row {p q : Pipe} {r : Reader} {todo : List Bytes} (hr : r.Begun)
    (hfits : ∀ x ∈ todo, x.length ≤ i32Max) (hcall : readExactCall p r = (.parked r, q))
    (h : r.consumed = todo.flatMap frameBytes) : todo = [] := by
  obtain ⟨-, -, hlt⟩ := starved hcall
  cases r with
  | length filled =>
    cases todo with
    | nil => rfl
    | cons x todo =>
      have hlen := congrArg List.length h
      rw [List.flatMap_cons, List.length_append, length_frameBytes] at hlen
      simp only [Reader.consumed] at hlen
      omega
  | payload len filled =>
    obtain ⟨x, todo', rfl, hlen, htail⟩ := frame_of_append _ _ (length_toBeBytes _) h
    have hx : len = x.length := toBeBytes_ofNat_inj hr.2 (hfits x List.mem_cons_self) hlen
    have htail := congrArg List.length htail
    rw [List.length_append] at htail
    simp only at hlt
    omega

/-- What a thread has left to do.  A byte that it may still put on the wire counts twice: it is
delivered, and read. -/
def Thread.left : Thread σ → Nat
  | .idle => 0
  | .pausing _ => 2 * (4 + i32Max) + 7
  | .queueing _ => 2 * (4 + i32Max) + 6
  | .encoding _ => 2 * (4 + i32Max) + 5
  | .prefixing _ payload => 2 * (4 + payload.length) + 4
  | .sending _ payload => 2 * payload.length + 3
  | .flushing _ => 1
  | .entering => 6
  | .reading (.length _) => 5
  | .reading (.payload _ _) => 4
  | .decoding _ => 2
  | .decrypting _ _ => 1
  | .closing => 1

namespace Threaded

variable [DecidableEq ι]

/-- A step of a thread that is in a call, or of the transport: nobody starts a call. -/
inductive Internal (P : Prost) (s : Threaded σ ι) : Threaded σ ι → Prop
  | step (t : ι) (h : s.ready t = true) : Internal P s (s.step P t)
  | deliver (k : Nat) (hk : 0 < k) (h : s.stream.wire ≠ []) :
    Internal P s { s with stream := s.stream.deliver k }
  | lose (hclosed : s.stream.pipe.closed = true) (h : s.stream.wire ≠ []) :
    Internal P s { s with stream := { s.stream with wire := [] } }

theorem Internal.allowed {P : Prost} {s s' : Threaded σ ι} (h : Internal P s s') :
    Guarded (fun s m s' => s.apply P m = s') Allows s s' := by
  cases h with
  | step t h => exact ⟨.step t, h, rfl⟩
  | deliver k hk h => exact ⟨.deliver k, trivial, rfl⟩
  | lose hclosed h => exact ⟨.lose, hclosed, rfl⟩

variable [Fintype ι]

def left (s : Threaded σ ι) : Nat := (∑ t, (s.threads t).left) + s.stream.left

theorem left_goto {s s₁ : Threaded σ ι} {t : ι} {x : Thread σ} (hsame : s₁.threads = s.threads)
    (h : x.left + s₁.stream.left < (s.threads t).left + s.stream.left) :
    (s₁.goto t x).left < s.left := by
  have hsum := sum_update Thread.left s₁.threads t x
  rw [hsame] at hsum
  simp only [left, goto, hsame]
  omega

theorem left_finish {s s₁ : Threaded σ ι} {t : ι} {x : Outcome} (hsame : s₁.threads = s.threads)
    (hstream : s₁.stream.left ≤ s.stream.left) (h : 0 < (s.threads t).left) :
    (s₁.finish t x).left < s.left := by
  have hidle : (Thread.idle : Thread σ).left = 0 := rfl
  apply left_goto hsame
  omega

theorem left_encode {s : Threaded σ ι} {t : ι} {data : Bytes} (ht : s.threads t = .encoding data) :
    (s.encode t data).left < s.left := by
  have hpos : 0 < (s.threads t).left := by
    rw [ht]
    exact Nat.succ_pos _
  rw [encode]
  dsimp only
  split
  case h_1 => exact left_finish (s := s) rfl (Nat.le_refl _) hpos
  case h_2 payload _ =>
    split
    case isTrue => exact left_finish (s := s) rfl (Nat.le_refl _) hpos
    case isFalse hlen =>
      refine left_goto (s := s) rfl ?_
      rw [maxAllowedReadBytes] at hlen
      simp only [ht, Thread.left]
      omega

theorem left_reading {P : Prost} {s : Threaded σ ι} {t : ι} {r : Reader}
    (ht : s.threads t = .reading r) (hready : s.ready t = true) :
    (s.step P t).left < s.left := by
  have hpos : 3 < (s.threads t).left := by
    rw [ht]
    cases r <;> simp [Thread.left]
  have hbuf : ∀ buf : Bytes, buf.length ≤ s.stream.pipe.buf.length →
      (s.drained buf).stream.left ≤ s.stream.left := by
    intro buf hle
    simp only [drained, DuplexStream.left]
    omega
  have hless : (readExactCall s.stream.seen r).2.buf.length ≤ s.stream.pipe.buf.length :=
    length_readExactCall_le _ _
  simp only [step, ht]
  cases hcall : readExactCall s.stream.seen r with
  | mk got q =>
    rw [hcall] at hless
    cases got with
    | raw data =>
      have hstream := hbuf q.buf hless
      refine left_goto (s := s) rfl ?_
      change 2 + (s.drained q.buf).stream.left < _
      omega
    | failed ex => exact left_finish (s := s) rfl (hbuf q.buf hless) (by omega)
    | parked r' =>
      refine left_goto (s := s) rfl ?_
      have hne : r' ≠ r := by
        rintro rfl
        simp [ready, ht, hcall] at hready
      rcases readExactCall_parked hcall with ⟨filled, len, rfl, rfl, -⟩ | ⟨-, hnil, hsame⟩
      · have hstream := hbuf q.buf hless
        simp only [ht, Thread.left]
        omega
      · have hsome : 0 < s.stream.pipe.buf.length := by
          refine List.length_pos_iff.mpr fun hempty => hne ?_
          have hseen : s.stream.seen.buf = [] := hempty
          rcases hsame with ⟨filled, rfl, rfl, -⟩ | ⟨len, filled, rfl, rfl, -⟩ <;> simp [hseen]
        have hkind : (Thread.reading r' : Thread σ).left = (Thread.reading r : Thread σ).left := by
          rcases hsame with ⟨filled, rfl, rfl, -⟩ | ⟨len, filled, rfl, rfl, -⟩ <;> rfl
        rw [ht, hkind]
        simp only [drained, DuplexStream.left, hnil, List.length_nil]
        omega

theorem left_step {P : Prost} {s : Threaded σ ι} {t : ι} (hready : s.ready t = true) :
    (s.step P t).left < s.left := by
  cases ht : s.threads t with
  | idle => simp [ready, ht] at hready
  | pausing data | queueing data =>
    simp only [step, ht]
    refine left_goto (s := s) rfl ?_
    simp only [ht, Thread.left]
    omega
  | encoding data =>
    simp only [step, ht]
    exact left_encode ht
  | prefixing data payload =>
    have hpos : 0 < (s.threads t).left := by simp [ht, Thread.left]
    simp only [step, ht, DuplexStream.writeAll]
    cases hc : s.stream.pipe.closed with
    | true => exact left_finish (s := s) rfl (Nat.le_refl _) hpos
    | false =>
      refine left_goto (s := s) rfl ?_
      simp only [ht, Thread.left, DuplexStream.left, List.length_append, length_toBeBytes]
      omega
  | sending data payload =>
    have hpos : 0 < (s.threads t).left := by simp [ht, Thread.left]
    simp only [step, ht, DuplexStream.writeAll]
    cases hc : s.stream.pipe.closed with
    | true => exact left_finish (s := s) rfl (Nat.le_refl _) hpos
    | false =>
      refine left_goto (s := s) rfl ?_
      simp only [ht, Thread.left, DuplexStream.left, List.length_append]
      omega
  | flushing data | decrypting cipher raw =>
    simp only [step, ht]
    exact left_finish (s := s) rfl (Nat.le_refl _) (by simp [ht, Thread.left])
  | entering | decoding raw =>
    simp only [step, ht]
    refine left_goto (s := s) rfl ?_
    simp only [ht, Thread.left]
    omega
  | reading r => exact left_reading ht hready
  | closing =>
    simp only [step, ht]
    refine left_goto (s := s) rfl ?_
    simp only [ht, Thread.left, DuplexStream.left, DuplexStream.close]
    omega

theorem Internal.left_lt {P : Prost} {s s' : Threaded σ ι} (h : Internal P s s') :
    s'.left < s.left := by
  cases h with
  | step t h => exact left_step h
  | deliver k hk h =>
    have hlen : 0 < s.stream.wire.length := List.length_pos_iff.mpr h
    simp only [left, DuplexStream.left, DuplexStream.deliver, List.length_drop,
      List.length_append, List.length_take]
    omega
  | lose hclosed h =>
    have hlen : 0 < s.stream.wire.length := List.length_pos_iff.mpr h
    simp only [left, DuplexStream.left, List.length_nil]
    omega

theorem internal_terminates (P : Prost) (s : Threaded σ ι) :
    Acc (fun s' s => Internal P s s') s :=
  Subrelation.accessible Internal.left_lt (InvImage.accessible left (Nat.lt_wfRel.wf.apply _))

end Threaded

/-! ### What a call can wait for -/

theorem Effect.stays_closed {x y : View σ} (h : Effect x y) (hx : x.stream.pipe.closed = true) :
    y.stream.pipe.closed = true := by
  cases h <;> first | exact hx | rfl

namespace Threaded

variable [DecidableEq ι] {P : Prost} {s : Threaded σ ι} {t u : ι}

structure Local (s : Threaded σ ι) (t : ι) (s' : Threaded σ ι) : Prop where
  closed : s'.closed = s.closed
  paused : s'.paused = s.paused
  others : ∀ u, u ≠ t → s'.threads u = s.threads u

theorem Local.goto {s₁ : Threaded σ ι} (hc : s₁.closed = s.closed) (hp : s₁.paused = s.paused)
    (ht : s₁.threads = s.threads) (x : Thread σ) : s.Local t (s₁.goto t x) :=
  ⟨hc, hp, fun u hu => (Function.update_of_ne hu _ _).trans (congrFun ht u)⟩

theorem Local.finish {s₁ : Threaded σ ι} (hc : s₁.closed = s.closed) (hp : s₁.paused = s.paused)
    (ht : s₁.threads = s.threads) (x : Outcome) : s.Local t (s₁.finish t x) :=
  ⟨hc, hp, (Local.goto hc hp ht .idle).others⟩

theorem step_local (P : Prost) (s : Threaded σ ι) (t : ι) : s.Local t (s.step P t) := by
  rw [step]
  split
  case h_1 => exact ⟨rfl, rfl, fun _ _ => rfl⟩
  case h_4 =>
    rw [encode]
    dsimp only
    split
    case h_1 => apply Local.finish <;> rfl
    case h_2 =>
      split
      case isTrue => apply Local.finish <;> rfl
      case isFalse => apply Local.goto <;> rfl
  case h_5 | h_6 =>
    split
    case h_1 => apply Local.finish <;> rfl
    case h_2 => apply Local.goto <;> rfl
  case h_9 =>
    dsimp only
    split
    case h_1 => apply Local.goto <;> rfl
    case h_2 => apply Local.goto <;> rfl
    case h_3 => apply Local.finish <;> rfl
  case h_7 | h_11 => apply Local.finish <;> rfl
  all_goals apply Local.goto <;> rfl

def Closes (s : Threaded σ ι) : Prop :=
  ∀ r, s.closed r = true → s.stream.pipe.closed = true ∨ ∃ t, s.threads t = .closing

theorem Closes.step (h : s.Closes) (hex : s.Exclusive) (hready : s.ready t = true) :
    (s.step P t).Closes := by
  intro r hclosed
  have hlocal := step_local P s t
  rcases h r (hlocal.closed ▸ hclosed) with hstream | ⟨u, hu⟩
  · exact .inl ((hex.step hready).2.stays_closed hstream)
  · by_cases hut : u = t
    · subst hut
      refine .inl ?_
      simp [Threaded.step, hu, Threaded.goto, DuplexStream.close]
    · exact .inr ⟨u, (hlocal.others u hut).trans hu⟩

theorem Closes.call (h : s.Closes) (ht : s.threads t = .idle) (request : Request σ) :
    (s.call t request).Closes := by
  have hgoto : ∀ x : Thread σ, (s.goto t x).Closes := by
    intro x r hclosed
    rcases h r hclosed with hstream | ⟨u, hu⟩
    · exact .inl hstream
    · have hut : u ≠ t := by
        rintro rfl
        rw [ht] at hu
        cases hu
      exact .inr ⟨u, (Function.update_of_ne hut _ _).trans hu⟩
  have hclose : ∀ r, (s.doClose r t).Closes := by
    intro r
    rw [doClose]
    split
    case isTrue => exact h
    case isFalse => exact fun _ _ => .inr ⟨t, Function.update_self ..⟩
  cases request with
  | write data => exact hgoto _
  | read => exact hgoto _
  | control r c =>
    cases c with
    | pause => exact h
    | resume => exact h
    | close => exact hclose r
    | closeWithReason reason => exact hclose r
  | enableEncryption r cipher => exact h
  | disableEncryption r => exact h

theorem Reached.closes {session : σ} (h : Reached P session s) : s.Closes := by
  have hboth := Reach.invariant (fun s : Threaded σ ι => s.Exclusive ∧ s.Closes)
    ⟨(Reached.sound (P := P) .refl).1, by simp [Closes]⟩ ?_ h
  · exact hboth.2
  · rintro s m t ⟨hex, hc⟩ hm rfl
    refine ⟨(hex.apply hm).1, ?_⟩
    cases m with
    | call t request => exact hc.call hm request
    | step t => exact hc.step hex hm
    | deliver k => exact hc
    | lose => exact hc

def Stuck (P : Prost) (s : Threaded σ ι) : Prop := ∀ s', ¬ Internal P s s'

theorem Stuck.not_ready (h : s.Stuck P) (t : ι) : s.ready t = false := by
  rw [← Bool.not_eq_true]
  exact fun hready => h _ (.step t hready)

theorem Stuck.wire (h : s.Stuck P) : s.stream.wire = [] := by
  by_contra hwire
  exact h _ (.deliver 1 Nat.one_pos hwire)

theorem Stuck.writer_free (h : s.Stuck P) (hex : s.Exclusive) : s.writerLock = none := by
  cases hlock : s.writerLock with
  | none => rfl
  | some u =>
    have hwrites := (hex.writer u).mpr hlock
    have hready := h.not_ready u
    cases hu : s.threads u <;> simp [hu, Thread.writes, ready] at hwrites hready

theorem Stuck.reader (h : s.Stuck P) (hex : s.Exclusive) (hcloses : s.Closes) {todo : List Bytes}
    (hfr : s.view.Framed todo) (hlock : s.readerLock = some u) :
    (∀ r, s.closed r = false) ∧ s.taken = s.sent.map Prod.snd := by
  have hreads := (hex.reader u).mpr hlock
  obtain ⟨r, hu⟩ : ∃ r, s.threads u = .reading r := by
    cases hu : s.threads u <;> simp [hu, Thread.reads] at hreads ⊢
  have hreader : s.view.reader = .reading r := (hex.reader_eq hreads).trans hu
  have hparked : (readExactCall s.stream.seen r).1 = .parked r := by
    simpa [ready, hu] using h.not_ready u
  have hcall : readExactCall s.stream.seen r =
      (.parked r, (readExactCall s.stream.seen r).2) := Prod.ext hparked rfl
  obtain ⟨hopen, hbuf, -⟩ := starved hcall
  have hpipe : s.stream.pipe.closed = false := by
    simpa [DuplexStream.seen, h.wire] using hopen
  have hidle : s.view.writer = .idle := by
    simp [view, h.writer_free hex, holder]
  obtain ⟨missing, hbytes, howed⟩ := hfr.bytes
  have hrow : r.consumed = todo.flatMap frameBytes := by
    have hmissing : missing = [] := by rw [howed hpipe, hidle]; rfl
    have hnil : s.view.stream.pipe.buf = [] := hbuf
    have hwire : s.view.stream.wire = [] := h.wire
    rw [← hbytes, hmissing, View.transit, hreader, hnil, hwire]
    simp [Thread.consumed]
  have hdone : todo = [] := starved_row (hfr.begun r hreader) hfr.fits hcall hrow
  refine ⟨fun role => ?_, ?_⟩
  · rw [← Bool.not_eq_true]
    intro hclosed
    rcases hcloses role hclosed with hstream | ⟨v, hv⟩
    · rw [hpipe] at hstream
      cases hstream
    · have hready := h.not_ready v
      simp [ready, hv] at hready
  · have hsent := hfr.sent
    rw [hdone, List.append_nil] at hsent
    exact hsent.symm

theorem Stuck.thread (h : s.Stuck P) (hex : s.Exclusive) (hcloses : s.Closes) {todo : List Bytes}
    (hfr : s.view.Framed todo) (t : ι) :
    s.threads t = .idle ∨ (∃ data, s.threads t = .pausing data) ∧ s.paused .writer = true ∨
      (s.threads t = .entering ∨ ∃ r, s.threads t = .reading r) ∧ (∀ r, s.closed r = false) ∧
        s.taken = s.sent.map Prod.snd := by
  have hready := h.not_ready t
  cases ht : s.threads t with
  | idle => exact .inl rfl
  | pausing data => exact .inr (.inl ⟨⟨data, rfl⟩, by simpa [ready, ht] using hready⟩)
  | queueing data => simp [ready, ht, h.writer_free hex] at hready
  | entering =>
    obtain ⟨u, hlock⟩ : ∃ u, s.readerLock = some u := by
      cases hlock : s.readerLock with
      | none => simp [ready, ht, hlock] at hready
      | some u => exact ⟨u, rfl⟩
    exact .inr (.inr ⟨.inl rfl, h.reader hex hcloses hfr hlock⟩)
  | reading r =>
    have hlock : s.readerLock = some t := (hex.reader t).mp (by rw [ht]; rfl)
    exact .inr (.inr ⟨.inr ⟨r, rfl⟩, h.reader hex hcloses hfr hlock⟩)
  | encoding | prefixing | sending | flushing | decoding | decrypting | closing =>
    simp [ready, ht] at hready

theorem internal_run {s' : Threaded σ ι} (h : Relation.ReflTransGen (Internal P) s s') :
    s'.closed = s.closed ∧ s'.paused = s.paused := by
  induction h with
  | refl => exact ⟨rfl, rfl⟩
  | @tail s₁ _ _ hstep ih =>
    cases hstep with
    | step t _ =>
      have hlocal := step_local P s₁ t
      exact ⟨hlocal.closed.trans ih.1, hlocal.paused.trans ih.2⟩
    | deliver => exact ih
    | lose => exact ih

end Threaded

/-- Threads that are left to themselves come to rest, whatever the order of their steps, and a
thread that is still in a call then waits for a resume, or it reads while neither channel is closed
and all frames have been taken.  In particular a close of the writing channel that no pause follows
lets every thread go, and one of the reading channel lets every reader go. -/
theorem Threaded.calls_settle [DecidableEq ι] [Fintype ι] {P : Prost} {session : σ}
    {s : Threaded σ ι} (h : Threaded.Reached P session s) :
    Acc (fun s' s => Threaded.Internal P s s') s ∧
    ∀ s', Relation.ReflTransGen (Threaded.Internal P) s s' → s'.Stuck P → ∀ t,
      s'.threads t = .idle ∨ (∃ data, s'.threads t = .pausing data) ∧ s.paused .writer = true ∨
        (s'.threads t = .entering ∨ ∃ r, s'.threads t = .reading r) ∧ (∀ r, s.closed r = false) ∧
          s'.taken = s'.sent.map Prod.snd := by
  refine ⟨Threaded.internal_terminates P s, fun s' hrun hstuck t => ?_⟩
  have hs' : Threaded.Reached P session s' :=
    h.trans (Relation.ReflTransGen.mono (fun _ _ => Threaded.Internal.allowed) _ _ hrun)
  obtain ⟨hex, -, todo, hfr⟩ := hs'.sound
  obtain ⟨hclosed, hpaused⟩ := Threaded.internal_run hrun
  rw [← hclosed, ← hpaused]
  exact hstuck.thread hex hs'.closes hfr t

def released : List (Move Unit (Option Bool)) :=
  [.call none (.control .writer .pause), .call (some true) (.write [1]), .call (some false) .read,
    .step (some false), .call none (.control .writer .close)]

theorem Threaded.calls_settle_released :
    let P : Prost := .knowing forKeepAlive []
    let s := released.foldl (Threaded.apply P) { session := () }
    s.threads (some true) = .pausing [1] ∧ s.threads (some false) = .reading (.length []) ∧
    ∀ s', Relation.ReflTransGen (Threaded.Internal P) s s' → s'.Stuck P →
      ∀ t, s'.threads t = .idle := by
  refine ⟨rfl, rfl, fun s' hrun hstuck t => ?_⟩
  have hadmits : Admits (Threaded.apply (.knowing forKeepAlive [])) Threaded.Allows
      ({ session := () } : Threaded Unit (Option Bool)) released :=
    ⟨rfl, rfl, rfl, rfl, rfl, trivial⟩
  rcases (Threaded.calls_settle (reach_foldl released hadmits)).2 s' hrun hstuck t with
    h | ⟨-, h⟩ | ⟨-, h, -⟩
  · exact h
  · cases h
  · cases h .writer

end StreamChannel

end Nearby.Bwu
