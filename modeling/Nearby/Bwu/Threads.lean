import Nearby.Bwu.Closing
import Nearby.Bwu.RoundTrip
import Nearby.Lib.Mutex

/-! Threads in two `StreamChannel`s that face each other over one stream, in the direction in which
the one writes and the other reads.  A call is cut where it takes or gives back a lock or touches
the stream, so calls interleave the way the mutexes of the source let them: the writer's lock is
held from the encoding of a message to the flush, the reader's lock only for the bytes of one
frame. -/

namespace Nearby.Bwu

open Proto Lib

/-- The pipe as its reader sees it: the end comes behind what is still on the wire. -/
def DuplexStream.seen (s : DuplexStream) : Pipe :=
  { s.pipe with closed := s.pipe.closed && s.wire.isEmpty }

namespace StreamChannel

variable {σ ι : Type}

def readExactCall (p : Pipe) : Reader → ReadFrame × Pipe
  | .length filled =>
    let r := Pipe.readExact p.closed (4 - filled.length) filled p.buf
    (match r.1 with
      | .filled lenBuf =>
        let len := (fromBeBytes lenBuf).toInt
        if len < 0 ∨ len.toNat > maxAllowedReadBytes then .failed .io
        else .parked (.payload len.toNat [])
      | .waiting filled => .parked (.length filled)
      | .noData => .failed .noData,
      { p with buf := r.2 })
  | .payload len filled => readPayload p len filled

inductive Role : Type
  | writer
  | reader
  deriving DecidableEq

inductive Thread (σ : Type) : Type
  | idle
  | pausing (data : Bytes)
  | queueing (data : Bytes)
  | encoding (data : Bytes)
  /-- `write`, before the length and before the payload. -/
  | prefixing (data payload : Bytes)
  | sending (data payload : Bytes)
  | flushing (data : Bytes)
  | entering
  | reading (reader : Reader)
  /-- `read`, past the lock: before and after it has cloned the cipher. -/
  | decoding (raw : Bytes)
  | decrypting (cipher : Option (Cipher σ)) (raw : Bytes)
  | closing

def Thread.writes : Thread σ → Bool
  | .encoding _ | .prefixing _ _ | .sending _ _ | .flushing _ => true
  | _ => false

def Thread.reads : Thread σ → Bool
  | .reading _ => true
  | _ => false

/-- What a call came back with.  A read that found no frame is `broken`; one that did comes with
the frame. -/
inductive Outcome : Type
  | wrote (data : Bytes) (ex : Exception)
  | broken (ex : Exception)
  | got (raw : Bytes) (result : Except Exception Bytes)

/-- The two channels with the threads that are in them.  The last four fields are history: the
messages in the order they were encoded, those whose length went on the stream, the frames taken
off it and what the calls returned. -/
structure Threaded (σ ι : Type) where
  paused : Role → Bool := fun _ => false
  closed : Role → Bool := fun _ => false
  cipher : Role → Option (Cipher σ) := fun _ => none
  session : σ
  stream : DuplexStream := {}
  writerLock : Option ι := none
  readerLock : Option ι := none
  threads : ι → Thread σ := fun _ => .idle
  encoded : List (Bytes × Bytes) := []
  sent : List (Bytes × Bytes) := []
  taken : List Bytes := []
  returned : List (ι × Outcome) := []

inductive Request (σ : Type) : Type
  | write (data : Bytes)
  | read
  | control (r : Role) (c : Control)
  | enableEncryption (r : Role) (cipher : Cipher σ)
  | disableEncryption (r : Role)

/-- `lose` drops what is on the wire of a closed stream. -/
inductive Move (σ ι : Type) : Type
  | call (t : ι) (request : Request σ)
  | step (t : ι)
  | deliver (k : Nat)
  | lose

namespace Threaded

variable [DecidableEq ι]

def goto (s : Threaded σ ι) (t : ι) (x : Thread σ) : Threaded σ ι :=
  { s with threads := Function.update s.threads t x }

def finish (s : Threaded σ ι) (t : ι) (x : Outcome) : Threaded σ ι :=
  { s.goto t .idle with returned := s.returned ++ [(t, x)] }

/-- The first section of `do_close`. -/
def doClose (s : Threaded σ ι) (r : Role) (t : ι) : Threaded σ ι :=
  if s.closed r then s
  else
    { s with
      closed := Function.update s.closed r true
      paused := Function.update s.paused r false }.goto t .closing

def call (s : Threaded σ ι) (t : ι) : Request σ → Threaded σ ι
  | .write data => s.goto t (.pausing data)
  | .read => s.goto t .entering
  | .control r .pause => { s with paused := Function.update s.paused r true }
  | .control r .resume => { s with paused := Function.update s.paused r false }
  | .control r .close => s.doClose r t
  | .control r (.closeWithReason _) => s.doClose r t
  | .enableEncryption r cipher => { s with cipher := Function.update s.cipher r (some cipher) }
  | .disableEncryption r => { s with cipher := Function.update s.cipher r none }

/-- The encoding of a message and the check of its length, under the writer's lock. -/
def encode (s : Threaded σ ι) (t : ι) (data : Bytes) : Threaded σ ι :=
  let e := encodePayload (s.cipher .writer) s.session data
  let s := { s with session := e.2 }
  match e.1 with
  | none => { s with writerLock := none }.finish t (.wrote data .io)
  | some payload =>
    if payload.length > maxAllowedReadBytes then
      { s with writerLock := none }.finish t (.wrote data .io)
    else { s with encoded := s.encoded ++ [(data, payload)] }.goto t (.prefixing data payload)

def drained (s : Threaded σ ι) (buf : Bytes) : Threaded σ ι :=
  { s with stream := { s.stream with pipe := { s.stream.pipe with buf := buf } } }

def step (P : Prost) (s : Threaded σ ι) (t : ι) : Threaded σ ι :=
  match s.threads t with
  | .idle => s
  | .pausing data => s.goto t (.queueing data)
  | .queueing data => { s with writerLock := some t }.goto t (.encoding data)
  | .encoding data => s.encode t data
  | .prefixing data payload =>
    match s.stream.writeAll (toBeBytes (BitVec.ofNat 32 payload.length)) with
    | .error _ => { s with writerLock := none }.finish t (.wrote data .io)
    | .ok stream =>
      { s with stream := stream, sent := s.sent ++ [(data, payload)] }.goto t
        (.sending data payload)
  | .sending data payload =>
    match s.stream.writeAll payload with
    | .error _ => { s with writerLock := none }.finish t (.wrote data .io)
    | .ok stream => { s with stream := stream }.goto t (.flushing data)
  | .flushing data => { s with writerLock := none }.finish t (.wrote data .success)
  | .entering => { s with readerLock := some t }.goto t (.reading (.length []))
  | .reading reader =>
    let r := readExactCall s.stream.seen reader
    let s := s.drained r.2.buf
    match r.1 with
    | .raw data =>
      { s with readerLock := none, taken := s.taken ++ [data] }.goto t (.decoding data)
    | .parked reader => s.goto t (.reading reader)
    | .failed ex => { s with readerLock := none }.finish t (.broken ex)
  | .decoding raw => s.goto t (.decrypting (s.cipher .reader) raw)
  | .decrypting cipher raw =>
    let d := decodeFrame P cipher s.session raw
    { s with session := d.2 }.finish t (.got raw d.1)
  | .closing => { s with stream := s.stream.close }.goto t .idle

def ready (s : Threaded σ ι) (t : ι) : Bool :=
  match s.threads t with
  | .idle => false
  | .pausing _ => !s.paused .writer
  | .queueing _ => s.writerLock.isNone
  | .entering => s.readerLock.isNone
  | .reading reader => (readExactCall s.stream.seen reader).1 != .parked reader
  | _ => true

def apply (P : Prost) (s : Threaded σ ι) : Move σ ι → Threaded σ ι
  | .call t request => s.call t request
  | .step t => s.step P t
  | .deliver k => { s with stream := s.stream.deliver k }
  | .lose => { s with stream := { s.stream with wire := [] } }

def Allows (s : Threaded σ ι) : Move σ ι → Prop
  | .call t _ => s.threads t = .idle
  | .step t => s.ready t = true
  | .deliver _ => True
  | .lose => s.stream.pipe.closed = true

def Reached (P : Prost) (session : σ) : Threaded σ ι → Prop :=
  Reach (fun s m s' => s.apply P m = s') Allows { session := session }

end Threaded

/-! ### One `read_exact` on a row of frames -/

def Reader.Begun : Reader → Prop
  | .length filled => filled.length < 4
  | .payload len filled => filled.length ≤ len ∧ len ≤ i32Max

theorem readExact_end {missing : Nat} {filled buf : Bytes} (h : buf.length < missing) :
    Pipe.readExact true missing filled buf = (.noData, []) := by
  induction missing generalizing filled buf with
  | zero => simp at h
  | succ missing ih =>
    cases buf with
    | nil => simp [Pipe.readExact]
    | cons byte buf => rw [Pipe.readExact, ih (by simpa using h)]

section

variable {p : Pipe} {rest : Bytes} {todo : List Bytes}

theorem readExactCall_length {filled : Bytes} (hr : filled.length < 4)
    (hfits : ∀ x ∈ todo, x.length ≤ i32Max)
    (h : filled ++ p.buf ++ rest = todo.flatMap frameBytes) :
    (∃ r buf, readExactCall p (.length filled) = (.parked r, { p with buf := buf }) ∧ r.Begun ∧
      r.consumed ++ buf = filled ++ p.buf) ∨
    readExactCall p (.length filled) = (.failed .noData, { p with buf := [] }) ∧
      p.closed = true := by
  by_cases hle : 4 - filled.length ≤ p.buf.length
  · have hsplit : filled ++ p.buf =
        filled ++ p.buf.take (4 - filled.length) ++ p.buf.drop (4 - filled.length) := by
      rw [List.append_assoc, List.take_append_drop]
    obtain ⟨x, todo', rfl, hlen, -⟩ := frame_of_append
      (filled ++ p.buf.take (4 - filled.length)) (p.buf.drop (4 - filled.length) ++ rest)
      (by rw [List.length_append, List.length_take]; omega)
      (by rw [← List.append_assoc, ← hsplit, h])
    have hx : x.length ≤ i32Max := hfits x List.mem_cons_self
    refine .inl ⟨.payload x.length [], p.buf.drop (4 - filled.length), ?_, ⟨Nat.zero_le _, hx⟩, ?_⟩
    · simp only [readExactCall, Pipe.readExact_of_le hle, hlen, fromBeBytes_toBeBytes,
        toInt_ofNat_of_le hx, Int.toNat_natCast]
      rw [if_neg (by rw [maxAllowedReadBytes]; omega)]
    · rw [Reader.consumed, List.append_nil, ← hlen, hsplit]
  · cases hc : p.closed with
    | true =>
      right
      simp [readExactCall, hc, readExact_end (Nat.lt_of_not_le hle)]
    | false =>
      refine .inl ⟨.length (filled ++ p.buf), [], ?_, ?_, by simp [Reader.consumed]⟩
      · simp [readExactCall, hc, Pipe.readExact_of_lt (Nat.lt_of_not_le hle)]
      · rw [Reader.Begun, List.length_append]
        omega

theorem readExactCall_payload {len : Nat} {filled : Bytes} (hr : (Reader.payload len filled).Begun)
    (hfits : ∀ x ∈ todo, x.length ≤ i32Max)
    (h : (Reader.payload len filled).consumed ++ p.buf ++ rest = todo.flatMap frameBytes) :
    (∃ x todo' buf, todo = x :: todo' ∧
      readExactCall p (.payload len filled) = (.raw x, { p with buf := buf }) ∧
      buf ++ rest = todo'.flatMap frameBytes) ∨
    (∃ r buf, readExactCall p (.payload len filled) = (.parked r, { p with buf := buf }) ∧
      r.Begun ∧ r.consumed ++ buf = (Reader.payload len filled).consumed ++ p.buf) ∨
    readExactCall p (.payload len filled) = (.failed .noData, { p with buf := [] }) ∧
      p.closed = true := by
  by_cases hle : len - filled.length ≤ p.buf.length
  · obtain ⟨x, todo', rfl, hlen, htail⟩ := frame_of_append
      (toBeBytes (BitVec.ofNat 32 len)) (filled ++ p.buf ++ rest)
      (length_toBeBytes _) (by rw [← h]; simp [Reader.consumed])
    have hx : len = x.length := toBeBytes_ofNat_inj hr.2 (hfits x List.mem_cons_self) hlen
    have hsplit : filled ++ p.buf.take (len - filled.length) ++
        (p.buf.drop (len - filled.length) ++ rest) = x ++ todo'.flatMap frameBytes := by
      rw [← htail, List.append_assoc, ← List.append_assoc (p.buf.take _), List.take_append_drop,
        List.append_assoc]
    have hfill : (filled ++ p.buf.take (len - filled.length)).length = x.length := by
      rw [List.length_append, List.length_take, ← hx]
      have hb := hr.1
      omega
    obtain ⟨hdata, hrest⟩ := List.append_inj hsplit hfill
    refine .inl ⟨x, todo', p.buf.drop (len - filled.length), rfl, ?_, hrest⟩
    simp only [readExactCall, readPayload, Pipe.readExact_of_le hle, hdata]
  · right
    cases hc : p.closed with
    | true =>
      right
      simp [readExactCall, readPayload, hc, readExact_end (Nat.lt_of_not_le hle)]
    | false =>
      refine .inl ⟨.payload len (filled ++ p.buf), [], ?_, ⟨?_, hr.2⟩, by simp [Reader.consumed]⟩
      · simp [readExactCall, readPayload, hc, Pipe.readExact_of_lt (Nat.lt_of_not_le hle)]
      · rw [List.length_append]
        omega

theorem readExactCall_cases {r : Reader} (hr : r.Begun) (hfits : ∀ x ∈ todo, x.length ≤ i32Max)
    (h : r.consumed ++ p.buf ++ rest = todo.flatMap frameBytes) :
    (∃ x todo' buf, todo = x :: todo' ∧ readExactCall p r = (.raw x, { p with buf := buf }) ∧
      buf ++ rest = todo'.flatMap frameBytes) ∨
    (∃ r' buf, readExactCall p r = (.parked r', { p with buf := buf }) ∧ r'.Begun ∧
      r'.consumed ++ buf = r.consumed ++ p.buf) ∨
    readExactCall p r = (.failed .noData, { p with buf := [] }) ∧ p.closed = true := by
  cases r with
  | length filled => exact .inr (readExactCall_length hr hfits h)
  | payload len filled => exact readExactCall_payload hr hfits h

end

/-! ### One writer and one reader at a time

What the locks leave of the threads is the one that holds the writer's lock and the one that
holds the reader's. -/

@[ext] structure View (σ : Type) where
  writer : Thread σ
  reader : Thread σ
  stream : DuplexStream
  encoded : List (Bytes × Bytes)
  sent : List (Bytes × Bytes)
  taken : List Bytes
  confirmed : List Bytes
  broken : List Exception

def Outcome.confirmed : Outcome → Option Bytes
  | .wrote data .success => some data
  | _ => none

def Outcome.breaks : Outcome → Option Exception
  | .broken ex => some ex
  | _ => none

namespace Threaded

def confirmed (s : Threaded σ ι) : List Bytes := s.returned.filterMap (·.2.confirmed)

def broken (s : Threaded σ ι) : List Exception := s.returned.filterMap (·.2.breaks)

def view (s : Threaded σ ι) : View σ where
  writer := holder .idle s.writerLock s.threads
  reader := holder .idle s.readerLock s.threads
  stream := s.stream
  encoded := s.encoded
  sent := s.sent
  taken := s.taken
  confirmed := s.confirmed
  broken := s.broken

structure Exclusive (s : Threaded σ ι) : Prop where
  writer : Locked Thread.writes s.writerLock s.threads
  reader : Locked Thread.reads s.readerLock s.threads

end Threaded

inductive Effect : View σ → View σ → Prop
  | none {x : View σ} : Effect x x
  | lock {x : View σ} (data : Bytes) (h : x.writer = .idle) :
    Effect x { x with writer := .encoding data }
  | refuse {x : View σ} {data : Bytes} (h : x.writer = .encoding data) :
    Effect x { x with writer := .idle }
  | encode {x : View σ} {data payload : Bytes} (h : x.writer = .encoding data)
    (hlen : payload.length ≤ i32Max) :
    Effect x { x with writer := .prefixing data payload, encoded := x.encoded ++ [(data, payload)] }
  | frame {x : View σ} {data payload : Bytes} (h : x.writer = .prefixing data payload)
    (hopen : x.stream.pipe.closed = false) :
    Effect x { x with
      writer := .sending data payload
      stream := { x.stream with
        wire := x.stream.wire ++ toBeBytes (BitVec.ofNat 32 payload.length) }
      sent := x.sent ++ [(data, payload)] }
  | send {x : View σ} {data payload : Bytes} (h : x.writer = .sending data payload)
    (hopen : x.stream.pipe.closed = false) :
    Effect x { x with
      writer := .flushing data
      stream := { x.stream with wire := x.stream.wire ++ payload } }
  | abort {x : View σ} (hclosed : x.stream.pipe.closed = true) :
    Effect x { x with writer := .idle }
  | confirm {x : View σ} {data : Bytes} (h : x.writer = .flushing data) :
    Effect x { x with writer := .idle, confirmed := x.confirmed ++ [data] }
  | enter {x : View σ} (h : x.reader = .idle) :
    Effect x { x with reader := .reading (.length []) }
  | park {x : View σ} {r r' : Reader} {buf : Bytes} (h : x.reader = .reading r)
    (hr : readExactCall x.stream.seen r = (.parked r', { x.stream.seen with buf := buf })) :
    Effect x { x with
      reader := .reading r'
      stream := { x.stream with pipe := { x.stream.pipe with buf := buf } } }
  | take {x : View σ} {r : Reader} {data buf : Bytes} (h : x.reader = .reading r)
    (hr : readExactCall x.stream.seen r = (.raw data, { x.stream.seen with buf := buf })) :
    Effect x { x with
      reader := .idle
      stream := { x.stream with pipe := { x.stream.pipe with buf := buf } }
      taken := x.taken ++ [data] }
  | fail {x : View σ} {r : Reader} {ex : Exception} {buf : Bytes} (h : x.reader = .reading r)
    (hr : readExactCall x.stream.seen r = (.failed ex, { x.stream.seen with buf := buf })) :
    Effect x { x with
      reader := .idle
      stream := { x.stream with pipe := { x.stream.pipe with buf := buf } }
      broken := x.broken ++ [ex] }
  | deliver {x : View σ} (k : Nat) : Effect x { x with stream := x.stream.deliver k }
  | lose {x : View σ} (hclosed : x.stream.pipe.closed = true) :
    Effect x { x with stream := { x.stream with wire := [] } }
  | close {x : View σ} : Effect x { x with stream := x.stream.close }

theorem readExactCall_pipe (p : Pipe) (r : Reader) :
    (readExactCall p r).2 = { p with buf := (readExactCall p r).2.buf } := by
  cases r <;> rfl

namespace Threaded

variable {s : Threaded σ ι} {t : ι}

theorem Exclusive.writer_eq (h : s.Exclusive) (hw : (s.threads t).writes = true) :
    s.view.writer = s.threads t :=
  h.writer.holder_eq hw

theorem Exclusive.reader_eq (h : s.Exclusive) (hr : (s.threads t).reads = true) :
    s.view.reader = s.threads t :=
  h.reader.holder_eq hr

variable [DecidableEq ι]

theorem Exclusive.aside (h : s.Exclusive) (hw : (s.threads t).writes = false)
    (hr : (s.threads t).reads = false) {x : Thread σ} (hwx : x.writes = false)
    (hrx : x.reads = false) : (s.goto t x).Exclusive ∧ (s.goto t x).view = s.view :=
  ⟨⟨h.writer.moves (hwx.trans hw.symm), h.reader.moves (hrx.trans hr.symm)⟩,
    View.ext (h.writer.holder_aside hw) (h.reader.holder_aside hr) rfl rfl rfl rfl rfl rfl⟩

theorem confirmed_finish (s : Threaded σ ι) (t : ι) (x : Outcome) :
    (s.finish t x).confirmed = s.confirmed ++ x.confirmed.toList := by
  rw [confirmed, finish, List.filterMap_append, confirmed]
  cases hx : x.confirmed <;> simp [hx]

theorem broken_finish (s : Threaded σ ι) (t : ι) (x : Outcome) :
    (s.finish t x).broken = s.broken ++ x.breaks.toList := by
  rw [broken, finish, List.filterMap_append, broken]
  cases hx : x.breaks <;> simp [hx]

theorem Exclusive.leave_writer (h : s.Exclusive) (hw : (s.threads t).writes = true) (data : Bytes)
    (ex : Exception) :
    ({ s with writerLock := none }.finish t (.wrote data ex)).Exclusive ∧
      ({ s with writerLock := none }.finish t (.wrote data ex)).view =
        { s.view with
          writer := .idle
          confirmed := s.confirmed ++ (Outcome.confirmed (.wrote data ex)).toList } := by
  have hr : (s.threads t).reads = false := by
    cases hx : s.threads t <;> simp_all [Thread.reads, Thread.writes]
  refine ⟨⟨h.writer.releases hw rfl, h.reader.moves hr.symm⟩, ?_⟩
  exact View.ext rfl (h.reader.holder_aside hr) rfl rfl rfl rfl (confirmed_finish _ t _)
    ((broken_finish { s with writerLock := none } t _).trans (List.append_nil _))

theorem Exclusive.give_up (h : s.Exclusive) (hw : (s.threads t).writes = true) (data : Bytes) :
    ({ s with writerLock := none }.finish t (.wrote data .io)).Exclusive ∧
      ({ s with writerLock := none }.finish t (.wrote data .io)).view =
        { s.view with writer := .idle } := by
  obtain ⟨hex, hview⟩ := h.leave_writer hw data .io
  refine ⟨hex, hview.trans ?_⟩
  exact View.ext rfl rfl rfl rfl rfl rfl (List.append_nil _) rfl

theorem Exclusive.encode (h : s.Exclusive) {data : Bytes} (ht : s.threads t = .encoding data) :
    (s.encode t data).Exclusive ∧ Effect s.view (s.encode t data).view := by
  have hw : (s.threads t).writes = true := by rw [ht]; rfl
  have hwriter : s.view.writer = .encoding data := (h.writer_eq hw).trans ht
  have hsession : ({ s with session := (encodePayload (s.cipher .writer) s.session data).2 } :
      Threaded σ ι).Exclusive := ⟨h.writer, h.reader⟩
  obtain ⟨hex, hview⟩ := hsession.give_up hw data
  have hrefuse := hview ▸ Effect.refuse hwriter
  rw [Threaded.encode]
  dsimp only
  split
  case h_1 => exact ⟨hex, hrefuse⟩
  case h_2 payload _ =>
    split
    case isTrue => exact ⟨hex, hrefuse⟩
    case isFalse hlen =>
      refine ⟨⟨h.writer.moves (by rw [hw]; rfl), h.reader.moves (by rw [ht]; rfl)⟩, ?_⟩
      convert Effect.encode hwriter (Nat.le_of_not_lt hlen) using 1
      exact View.ext (h.writer.holder_moves hw) (h.reader.holder_aside (by rw [ht]; rfl)) rfl rfl
        rfl rfl rfl rfl

theorem Exclusive.reading (h : s.Exclusive) {P : Prost} {r : Reader}
    (ht : s.threads t = .reading r) :
    (s.step P t).Exclusive ∧ Effect s.view (s.step P t).view := by
  have hr : (s.threads t).reads = true := by rw [ht]; rfl
  have hreader : s.view.reader = .reading r := (h.reader_eq hr).trans ht
  have hpipe := readExactCall_pipe s.stream.seen r
  simp only [step, ht]
  cases hcall : readExactCall s.stream.seen r with
  | mk got p =>
    rw [hcall] at hpipe
    dsimp only at hpipe
    rw [hpipe] at hcall
    have hwt : (s.threads t).writes = false := by rw [ht]; rfl
    cases got with
    | raw data =>
      refine ⟨⟨h.writer.moves hwt.symm, h.reader.releases hr rfl⟩, ?_⟩
      convert Effect.take hreader hcall using 1
      exact View.ext (h.writer.holder_aside hwt) rfl rfl rfl rfl rfl rfl rfl
    | parked r' =>
      refine ⟨⟨h.writer.moves hwt.symm, h.reader.moves hr.symm⟩, ?_⟩
      convert Effect.park hreader hcall using 1
      exact View.ext (h.writer.holder_aside hwt) (h.reader.holder_moves hr) rfl rfl rfl rfl rfl rfl
    | failed ex =>
      refine ⟨⟨h.writer.moves hwt.symm, h.reader.releases hr rfl⟩, ?_⟩
      convert Effect.fail hreader hcall using 1
      exact View.ext (h.writer.holder_aside hwt) rfl rfl rfl rfl rfl
        ((confirmed_finish _ t (.broken ex)).trans (List.append_nil _))
        (broken_finish _ t (.broken ex))

theorem Exclusive.prefixing (h : s.Exclusive) {P : Prost} {data payload : Bytes}
    (ht : s.threads t = .prefixing data payload) :
    (s.step P t).Exclusive ∧ Effect s.view (s.step P t).view := by
  have hw : (s.threads t).writes = true := by rw [ht]; rfl
  have hwriter : s.view.writer = .prefixing data payload := (h.writer_eq hw).trans ht
  cases hclosed : s.stream.pipe.closed with
  | true =>
    obtain ⟨hex, hview⟩ := h.give_up hw data
    have hstep : s.step P t = { s with writerLock := none }.finish t (.wrote data .io) := by
      simp [Threaded.step, ht, DuplexStream.writeAll, hclosed]
    rw [hstep, hview]
    exact ⟨hex, .abort hclosed⟩
  | false =>
    have hstep : s.step P t = { s with
        stream := { s.stream with
          wire := s.stream.wire ++ toBeBytes (BitVec.ofNat 32 payload.length) }
        sent := s.sent ++ [(data, payload)] }.goto t (.sending data payload) := by
      simp [Threaded.step, ht, DuplexStream.writeAll, hclosed]
    rw [hstep]
    refine ⟨⟨h.writer.moves (by rw [hw]; rfl), h.reader.moves (by rw [ht]; rfl)⟩, ?_⟩
    convert Effect.frame hwriter hclosed using 1
    exact View.ext (h.writer.holder_moves hw) (h.reader.holder_aside (by rw [ht]; rfl)) rfl rfl
      rfl rfl rfl rfl

theorem Exclusive.sending (h : s.Exclusive) {P : Prost} {data payload : Bytes}
    (ht : s.threads t = .sending data payload) :
    (s.step P t).Exclusive ∧ Effect s.view (s.step P t).view := by
  have hw : (s.threads t).writes = true := by rw [ht]; rfl
  have hwriter : s.view.writer = .sending data payload := (h.writer_eq hw).trans ht
  cases hclosed : s.stream.pipe.closed with
  | true =>
    obtain ⟨hex, hview⟩ := h.give_up hw data
    have hstep : s.step P t = { s with writerLock := none }.finish t (.wrote data .io) := by
      simp [Threaded.step, ht, DuplexStream.writeAll, hclosed]
    rw [hstep, hview]
    exact ⟨hex, .abort hclosed⟩
  | false =>
    have hstep : s.step P t = { s with
        stream := { s.stream with wire := s.stream.wire ++ payload } }.goto t (.flushing data) := by
      simp [Threaded.step, ht, DuplexStream.writeAll, hclosed]
    rw [hstep]
    refine ⟨⟨h.writer.moves (by rw [hw]; rfl), h.reader.moves (by rw [ht]; rfl)⟩, ?_⟩
    convert Effect.send hwriter hclosed using 1
    exact View.ext (h.writer.holder_moves hw) (h.reader.holder_aside (by rw [ht]; rfl)) rfl rfl
      rfl rfl rfl rfl

theorem Exclusive.step (h : s.Exclusive) {P : Prost} (hready : s.ready t = true) :
    (s.step P t).Exclusive ∧ Effect s.view (s.step P t).view := by
  cases ht : s.threads t with
  | idle => simp [ready, ht] at hready
  | pausing data =>
    obtain ⟨hex, hview⟩ := h.aside (by rw [ht]; rfl) (by rw [ht]; rfl)
      (Eq.refl (Thread.queueing data).writes) rfl
    simp only [Threaded.step, ht]
    exact ⟨hex, hview ▸ .none⟩
  | queueing data =>
    have hfree : s.writerLock = none := by simpa [ready, ht] using hready
    have hw : (s.threads t).writes = false := by rw [ht]; rfl
    have hr : (s.threads t).reads = false := by rw [ht]; rfl
    simp only [Threaded.step, ht]
    refine ⟨⟨(hfree ▸ h.writer).acquires rfl, h.reader.moves hr.symm⟩, ?_⟩
    have hidle : s.view.writer = .idle := by simp [view, hfree, holder]
    convert Effect.lock data hidle using 1
    exact View.ext (by simp [view, goto, holder]) (h.reader.holder_aside hr) rfl rfl rfl rfl rfl rfl
  | encoding data =>
    simp only [Threaded.step, ht]
    exact h.encode ht
  | prefixing data payload => exact h.prefixing ht
  | sending data payload => exact h.sending ht
  | flushing data =>
    have hw : (s.threads t).writes = true := by rw [ht]; rfl
    obtain ⟨hex, hview⟩ := h.leave_writer hw data .success
    simp only [Threaded.step, ht]
    rw [hview]
    exact ⟨hex, .confirm ((h.writer_eq hw).trans ht)⟩
  | entering =>
    have hfree : s.readerLock = none := by simpa [ready, ht] using hready
    have hw : (s.threads t).writes = false := by rw [ht]; rfl
    simp only [Threaded.step, ht]
    refine ⟨⟨h.writer.moves hw.symm, (hfree ▸ h.reader).acquires rfl⟩, ?_⟩
    have hidle : s.view.reader = .idle := by simp [view, hfree, holder]
    convert Effect.enter hidle using 1
    exact View.ext (h.writer.holder_aside hw) (by simp [view, goto, holder]) rfl rfl rfl rfl rfl rfl
  | reading r => exact h.reading ht
  | decoding raw =>
    obtain ⟨hex, hview⟩ := h.aside (by rw [ht]; rfl) (by rw [ht]; rfl)
      (Eq.refl (Thread.decrypting (s.cipher .reader) raw).writes) rfl
    simp only [Threaded.step, ht]
    exact ⟨hex, hview ▸ .none⟩
  | decrypting cipher raw =>
    have hw : (s.threads t).writes = false := by rw [ht]; rfl
    have hr : (s.threads t).reads = false := by rw [ht]; rfl
    simp only [Threaded.step, ht]
    refine ⟨⟨h.writer.moves hw.symm, h.reader.moves hr.symm⟩, ?_⟩
    convert Effect.none using 1
    exact View.ext (h.writer.holder_aside hw) (h.reader.holder_aside hr) rfl rfl rfl rfl
      ((confirmed_finish _ t _).trans (List.append_nil _))
      ((broken_finish _ t _).trans (List.append_nil _))
  | closing =>
    have hw : (s.threads t).writes = false := by rw [ht]; rfl
    have hr : (s.threads t).reads = false := by rw [ht]; rfl
    simp only [Threaded.step, ht]
    refine ⟨⟨h.writer.moves hw.symm, h.reader.moves hr.symm⟩, ?_⟩
    convert Effect.close using 1
    exact View.ext (h.writer.holder_aside hw) (h.reader.holder_aside hr) rfl rfl rfl rfl rfl rfl

theorem Exclusive.call (h : s.Exclusive) (ht : s.threads t = .idle) (request : Request σ) :
    (s.call t request).Exclusive ∧ (s.call t request).view = s.view := by
  have hw : (s.threads t).writes = false := by rw [ht]; rfl
  have hr : (s.threads t).reads = false := by rw [ht]; rfl
  have hclose : ∀ r, (s.doClose r t).Exclusive ∧ (s.doClose r t).view = s.view := by
    intro r
    rw [doClose]
    split
    case isTrue => exact ⟨h, rfl⟩
    case isFalse =>
      have hset : ({ s with
          closed := Function.update s.closed r true
          paused := Function.update s.paused r false } : Threaded σ ι).Exclusive :=
        ⟨h.writer, h.reader⟩
      exact hset.aside hw hr rfl rfl
  cases request with
  | write data => exact h.aside hw hr rfl rfl
  | read => exact h.aside hw hr rfl rfl
  | control r c =>
    cases c with
    | pause => exact ⟨⟨h.writer, h.reader⟩, rfl⟩
    | resume => exact ⟨⟨h.writer, h.reader⟩, rfl⟩
    | close => exact hclose r
    | closeWithReason reason => exact hclose r
  | enableEncryption r cipher => exact ⟨⟨h.writer, h.reader⟩, rfl⟩
  | disableEncryption r => exact ⟨⟨h.writer, h.reader⟩, rfl⟩

theorem Exclusive.apply (h : s.Exclusive) {P : Prost} {m : Move σ ι} (hm : s.Allows m) :
    (s.apply P m).Exclusive ∧ Effect s.view (s.apply P m).view := by
  cases m with
  | call t request =>
    obtain ⟨hex, hview⟩ := h.call hm request
    exact ⟨hex, hview ▸ .none⟩
  | step t => exact h.step hm
  | deliver k => exact ⟨⟨h.writer, h.reader⟩, .deliver k⟩
  | lose => exact ⟨⟨h.writer, h.reader⟩, .lose hm⟩

end Threaded

/-! ### Frames stay whole -/

def Thread.consumed : Thread σ → Bytes
  | .reading r => r.consumed
  | _ => []

def Thread.owed : Thread σ → Bytes
  | .sending _ payload => payload
  | _ => []

namespace View

def transit (x : View σ) : Bytes := x.reader.consumed ++ x.stream.pipe.buf ++ x.stream.wire

structure Framed (x : View σ) (todo : List Bytes) : Prop where
  sent : x.sent.map Prod.snd = x.taken ++ todo
  bytes : ∃ missing, x.transit ++ missing = todo.flatMap frameBytes ∧
    (x.stream.pipe.closed = false → missing = x.writer.owed)
  fits : ∀ p ∈ todo, p.length ≤ i32Max
  begun : ∀ r, x.reader = .reading r → r.Begun
  prefixed : ∀ data payload, x.writer = .prefixing data payload → payload.length ≤ i32Max
  broken : ∀ ex ∈ x.broken, ex = .noData ∧ x.stream.pipe.closed = true

variable {x y : View σ} {todo : List Bytes}

theorem Framed.writer (h : x.Framed todo) {w : Thread σ} (howed : w.owed = x.writer.owed)
    (hw : ∀ data payload, w = .prefixing data payload → payload.length ≤ i32Max)
    {encoded : List (Bytes × Bytes)} {confirmed : List Bytes} :
    { x with writer := w, encoded := encoded, confirmed := confirmed }.Framed todo := by
  obtain ⟨missing, hbytes, hopen⟩ := h.bytes
  exact ⟨h.sent, ⟨missing, hbytes, fun hc => (hopen hc).trans howed.symm⟩, h.fits, h.begun, hw,
    h.broken⟩

theorem Framed.read (h : x.Framed todo) {r : Reader} (hreader : x.reader = .reading r) :
    ∃ missing, (x.stream.pipe.closed = false → missing = x.writer.owed) ∧
    ((∃ data todo' buf, todo = data :: todo' ∧
      readExactCall x.stream.seen r = (.raw data, { x.stream.seen with buf := buf }) ∧
      buf ++ (x.stream.wire ++ missing) = todo'.flatMap frameBytes) ∨
    (∃ r' buf, readExactCall x.stream.seen r = (.parked r', { x.stream.seen with buf := buf }) ∧
      r'.Begun ∧ r'.consumed ++ buf ++ x.stream.wire ++ missing = todo.flatMap frameBytes) ∨
    readExactCall x.stream.seen r = (.failed .noData, { x.stream.seen with buf := [] }) ∧
      x.stream.pipe.closed = true ∧ x.stream.wire = []) := by
  obtain ⟨missing, hbytes, hopen⟩ := h.bytes
  refine ⟨missing, hopen, ?_⟩
  rw [transit, hreader] at hbytes
  have hrow : r.consumed ++ x.stream.seen.buf ++ (x.stream.wire ++ missing) =
      todo.flatMap frameBytes := by
    rw [← hbytes, ← List.append_assoc]
    rfl
  rcases readExactCall_cases (h.begun r hreader) h.fits hrow with hraw | hpark | ⟨hfail, hclosed⟩
  · exact .inl hraw
  · obtain ⟨r', buf, hcall, hbegun, hsame⟩ := hpark
    refine .inr (.inl ⟨r', buf, hcall, hbegun, ?_⟩)
    rw [hsame, List.append_assoc, hrow]
  · obtain ⟨hpipe, hwire⟩ := Bool.and_eq_true_iff.mp hclosed
    exact .inr (.inr ⟨hfail, hpipe, List.isEmpty_iff.mp hwire⟩)

theorem Framed.effect (h : x.Framed todo) (he : Effect x y) : ∃ todo', y.Framed todo' := by
  obtain ⟨missing, hbytes, hopen⟩ := h.bytes
  cases he with
  | none => exact ⟨todo, h⟩
  | lock data hw => exact ⟨todo, h.writer (by rw [hw]; rfl) (by simp)⟩
  | refuse hw => exact ⟨todo, h.writer (by rw [hw]; rfl) (by simp)⟩
  | encode hw hlen =>
    refine ⟨todo, h.writer (by rw [hw]; rfl) ?_⟩
    intro data' payload' heq
    cases heq
    exact hlen
  | @frame data payload hw hc =>
    refine ⟨todo ++ [payload], ?_, ⟨payload, ?_, fun _ => rfl⟩, ?_, h.begun, by simp, h.broken⟩
    · simp [h.sent]
    · have hnil : missing = [] := by rw [hopen hc, hw]; rfl
      rw [hnil, List.append_nil] at hbytes
      rw [List.flatMap_append, ← hbytes]
      simp [transit, frameBytes]
    · intro p hp
      rcases List.mem_append.mp hp with hp | hp
      · exact h.fits p hp
      · cases List.mem_singleton.mp hp
        exact h.prefixed data payload hw
  | @send data payload hw hc =>
    have howed : missing = payload := by rw [hopen hc, hw]; rfl
    refine ⟨todo, h.sent, ⟨[], ?_, fun _ => rfl⟩, h.fits, h.begun, by simp, h.broken⟩
    rw [← hbytes, howed]
    simp [transit]
  | abort hc =>
    refine ⟨todo, h.sent, ⟨missing, hbytes, ?_⟩, h.fits, h.begun, by simp, h.broken⟩
    intro hc'
    rw [hc] at hc'
    cases hc'
  | confirm hw => exact ⟨todo, h.writer (by rw [hw]; rfl) (by simp)⟩
  | enter hr =>
    refine ⟨todo, h.sent, ⟨missing, ?_, hopen⟩, h.fits, ?_, h.prefixed, h.broken⟩
    · rw [← hbytes]
      simp [transit, hr, Thread.consumed, Reader.consumed]
    · rintro r ⟨⟩
      exact Nat.zero_lt_succ 3
  | @park r r' buf hr hcall =>
    obtain ⟨missing, hopen, hraw | hpark | hfail⟩ := h.read hr
    · obtain ⟨data, todo', buf', -, hcall', -⟩ := hraw
      simp [hcall] at hcall'
    · obtain ⟨r'', buf', hcall', hbegun, hrow⟩ := hpark
      rw [hcall] at hcall'
      cases hcall'
      refine ⟨todo, h.sent, ⟨missing, hrow, hopen⟩, h.fits, ?_, h.prefixed, h.broken⟩
      rintro r'' ⟨⟩
      exact hbegun
    · simp [hcall] at hfail
  | @take r data buf hr hcall =>
    obtain ⟨missing, hopen, hraw | hpark | hfail⟩ := h.read hr
    · obtain ⟨data', todo', buf', rfl, hcall', hrow⟩ := hraw
      rw [hcall] at hcall'
      cases hcall'
      refine ⟨todo', ?_, ⟨missing, ?_, hopen⟩, fun p hp => h.fits p (List.mem_cons_of_mem _ hp),
        by simp, h.prefixed, h.broken⟩
      · simp [h.sent]
      · rw [← hrow]
        simp [transit, Thread.consumed]
    · obtain ⟨r', buf', hcall', -, -⟩ := hpark
      simp [hcall] at hcall'
    · simp [hcall] at hfail
  | @fail r ex buf hr hcall =>
    obtain ⟨missing, hopen, hraw | hpark | hfail⟩ := h.read hr
    · obtain ⟨data', todo', buf', -, hcall', -⟩ := hraw
      simp [hcall] at hcall'
    · obtain ⟨r', buf', hcall', -, -⟩ := hpark
      simp [hcall] at hcall'
    · obtain ⟨hcall', hc, hwire⟩ := hfail
      rw [hcall] at hcall'
      cases hcall'
      refine ⟨todo, h.sent, ⟨todo.flatMap frameBytes, ?_, ?_⟩, h.fits, by simp, h.prefixed, ?_⟩
      · simp [transit, Thread.consumed, hwire]
      · intro hc'
        rw [show x.stream.pipe.closed = false from hc'] at hc
        cases hc
      · intro ex hex
        rcases List.mem_append.mp hex with hex | hex
        · exact h.broken ex hex
        · exact ⟨List.mem_singleton.mp hex, hc⟩
  | deliver k =>
    refine ⟨todo, h.sent, ⟨missing, ?_, hopen⟩, h.fits, h.begun, h.prefixed, h.broken⟩
    rw [← hbytes]
    simp [transit, DuplexStream.deliver]
  | lose hc =>
    refine ⟨todo, h.sent, ⟨x.stream.wire ++ missing, ?_, ?_⟩, h.fits, h.begun, h.prefixed, h.broken⟩
    · rw [← hbytes]
      simp [transit]
    · intro hc'
      rw [show x.stream.pipe.closed = false from hc'] at hc
      cases hc
  | close =>
    refine ⟨todo, h.sent, ⟨missing, hbytes, by simp [DuplexStream.close]⟩, h.fits, h.begun,
      h.prefixed, fun ex hex => ⟨(h.broken ex hex).1, rfl⟩⟩

end View

/-! ### The order of the messages -/

def Thread.unsent : Thread σ → List (Bytes × Bytes)
  | .prefixing data payload => [(data, payload)]
  | _ => []

def Thread.underway : Thread σ → List Bytes
  | .sending data _ | .flushing data => [data]
  | _ => []

def Thread.flushed : Thread σ → List Bytes
  | .flushing data => [data]
  | _ => []

namespace View

structure Ordered (x : View σ) : Prop where
  encoded : x.sent <+: x.encoded
  unsent : x.stream.pipe.closed = false → x.encoded = x.sent ++ x.writer.unsent
  confirmed : x.confirmed ++ x.writer.flushed <+: x.sent.map Prod.fst
  underway : x.stream.pipe.closed = false →
    x.confirmed ++ x.writer.underway = x.sent.map Prod.fst

variable {x y : View σ}

theorem Ordered.effect (h : x.Ordered) (he : Effect x y) : y.Ordered := by
  cases he with
  | none => exact h
  | lock data hw | refuse hw =>
    obtain ⟨hencoded, hunsent, hconfirmed, hunderway⟩ := h
    rw [hw] at hunsent hconfirmed hunderway
    exact ⟨hencoded, hunsent, hconfirmed, hunderway⟩
  | encode hw hlen =>
    obtain ⟨hencoded, hunsent, hconfirmed, hunderway⟩ := h
    rw [hw] at hunsent hconfirmed hunderway
    refine ⟨hencoded.trans (List.prefix_append _ _), ?_, hconfirmed, hunderway⟩
    intro hc
    dsimp only
    rw [hunsent hc]
    simp [Thread.unsent]
  | @frame data payload hw hc =>
    have hunsent := h.unsent hc
    have hunderway := h.underway hc
    rw [hw] at hunsent hunderway
    refine ⟨?_, fun _ => ?_, ?_, fun _ => ?_⟩
    · dsimp only
      rw [hunsent]
      exact List.prefix_refl _
    · dsimp only
      rw [hunsent]
      simp [Thread.unsent]
    · simp [← hunderway, Thread.flushed, Thread.underway]
    · simp [← hunderway, Thread.underway]
  | @send data payload hw hc =>
    have hunsent := h.unsent hc
    have hunderway := h.underway hc
    rw [hw] at hunsent hunderway
    refine ⟨h.encoded, fun _ => hunsent, ?_, fun _ => hunderway⟩
    dsimp only
    rw [← hunderway]
    exact List.prefix_refl _
  | abort hc =>
    have hlast : x.confirmed <+: x.sent.map Prod.fst :=
      (List.prefix_append _ _).trans h.confirmed
    refine ⟨h.encoded, ?_, by simpa [Thread.flushed] using hlast, ?_⟩ <;>
      simp [hc]
  | confirm hw =>
    obtain ⟨hencoded, hunsent, hconfirmed, hunderway⟩ := h
    rw [hw] at hunsent hconfirmed hunderway
    refine ⟨hencoded, hunsent, ?_, fun hc => ?_⟩
    · simpa [Thread.flushed] using hconfirmed
    · simpa [Thread.underway] using hunderway hc
  | close =>
    exact ⟨h.encoded, by simp [DuplexStream.close], h.confirmed, by simp [DuplexStream.close]⟩
  | enter | park | take | fail | deliver | lose =>
    exact ⟨h.encoded, h.unsent, h.confirmed, h.underway⟩

end View

namespace Threaded

variable [DecidableEq ι] {P : Prost} {session : σ} {s : Threaded σ ι}

theorem Reached.sound (h : Reached P session s) :
    s.Exclusive ∧ s.view.Ordered ∧ ∃ todo, s.view.Framed todo := by
  refine Reach.invariant (fun s : Threaded σ ι => s.Exclusive ∧ s.view.Ordered ∧
    ∃ todo, s.view.Framed todo) ?_ ?_ h
  · refine ⟨⟨fun t => ?_, fun t => ?_⟩, ⟨List.prefix_refl _, fun _ => rfl, List.prefix_refl _,
      fun _ => rfl⟩, [], rfl, ⟨[], rfl, fun _ => rfl⟩, ?_, ?_, ?_, ?_⟩ <;>
    simp [Thread.writes, Thread.reads, view, holder, broken]
  · rintro s m t ⟨hex, hord, todo, hfr⟩ hm rfl
    obtain ⟨hex', heff⟩ := hex.apply hm
    exact ⟨hex', hord.effect heff, hfr.effect heff⟩

end Threaded

/-- The two channels are one queue of frames, whatever threads use them and whoever closes them:
frames are encoded, go on the stream and are taken off it in one order, each is taken by one read,
no read sees less or more than a frame, and the writes that returned success are the first of those
on the stream, while it is open all but the one under way. -/
theorem Threaded.one_queue [DecidableEq ι] {P : Prost} {session : σ} {s : Threaded σ ι}
    (h : Threaded.Reached P session s) :
    s.taken <+: s.sent.map Prod.snd ∧ s.sent <+: s.encoded ∧ s.confirmed <+: s.sent.map Prod.fst ∧
    (∀ ex ∈ s.broken, ex = .noData ∧ s.stream.pipe.closed = true) ∧
    (s.stream.pipe.closed = false → s.writerLock = none →
      s.encoded = s.sent ∧ s.confirmed = s.sent.map Prod.fst ∧
      (s.readerLock = none → s.stream.pipe.buf = [] → s.stream.wire = [] →
        s.taken = s.sent.map Prod.snd)) := by
  obtain ⟨hex, hord, todo, hfr⟩ := h.sound
  refine ⟨hfr.sent ▸ List.prefix_append _ _, hord.encoded,
    (List.prefix_append _ _).trans hord.confirmed, hfr.broken, ?_⟩
  intro hopen hfree
  have hidle : s.view.writer = .idle := by simp [Threaded.view, hfree, holder]
  have hunsent := hord.unsent hopen
  have hunderway := hord.underway hopen
  rw [hidle] at hunsent hunderway
  refine ⟨hunsent.trans (List.append_nil _), (List.append_nil _).symm.trans hunderway, ?_⟩
  intro hfree' hbuf hwire
  obtain ⟨missing, hbytes, howed⟩ := hfr.bytes
  have hreader : s.view.reader = .idle := by simp [Threaded.view, hfree', holder]
  have hdone : todo = [] := by
    apply flatMap_frameBytes_eq_nil
    rw [← hbytes, howed hopen, hidle, View.transit, hreader]
    simp [Threaded.view, hbuf, hwire, Thread.consumed, Thread.owed]
  have hsent := hfr.sent
  rw [hdone, List.append_nil] at hsent
  exact hsent.symm

def overtaken : List (Move Unit (Fin 3)) :=
  [.call 0 (.write [1]), .call 1 (.write [2]), .call 2 .read, .step 0, .step 1, .step 1, .step 2,
    .step 1, .step 1, .deliver 4, .step 2, .step 1, .step 1, .deliver 1, .step 2]

theorem Threaded.one_queue_overtaken :
    let s := overtaken.foldl (Threaded.apply (.knowing forKeepAlive [])) { session := () }
    s.taken = [[2]] ∧ s.confirmed = [[2]] ∧ s.taken <+: s.sent.map Prod.snd := by
  have hadmits : Admits (Threaded.apply (.knowing forKeepAlive [])) Threaded.Allows
      ({ session := () } : Threaded Unit (Fin 3)) overtaken := by
    exact ⟨rfl, rfl, rfl, rfl, rfl, rfl, rfl, rfl, rfl, trivial, rfl, rfl, rfl, trivial, rfl,
      trivial⟩
  exact ⟨rfl, rfl, (Threaded.one_queue (reach_foldl overtaken hadmits)).1⟩

end StreamChannel

end Nearby.Bwu
