import Nearby.Bwu.StreamChannel
import Nearby.Lib.Transition

/-! What is written on a stream is what is read from it, whatever way the bytes arrive.  The
point is that a parked read, taken up again, does what a new one would have done had all the
bytes been there. -/

namespace Nearby.Bwu.StreamChannel

open Proto Lib

variable {σ : Type}

/-! ### A parked read is no different from a new one -/

def Reader.consumed : Reader → Bytes
  | .length filled => filled
  | .payload len filled => toBeBytes (BitVec.ofNat 32 len) ++ filled

def Reader.Waits : Reader → Prop
  | .length filled => filled.length < 4
  | .payload len filled => filled.length < len ∧ len ≤ i32Max

theorem Reader.waits_new : (Reader.length []).Waits := Nat.zero_lt_succ 3

theorem readPayload_resume {p : Pipe} {len : Nat} {filled : Bytes} (hp : p.closed = false)
    (h : filled.length ≤ len) :
    readPayload p len filled = readPayload { p with buf := filled ++ p.buf } len [] := by
  simp only [readPayload, hp, List.length_nil, Nat.sub_zero]
  by_cases hlen : len - filled.length ≤ p.buf.length
  · rw [Pipe.readExact_of_le hlen, Pipe.readExact_of_le (by rw [List.length_append]; omega)]
    simp [List.take_append, List.drop_append, List.take_of_length_le h, List.drop_of_length_le h]
  · rw [Pipe.readExact_of_lt (by omega), Pipe.readExact_of_lt (by rw [List.length_append]; omega)]
    rfl

theorem readFrame_length {p : Pipe} {len : Nat} {rest : Bytes} (hp : p.closed = false)
    (h : len ≤ i32Max) (hbuf : p.buf = toBeBytes (BitVec.ofNat 32 len) ++ rest) :
    readFrame p (.length []) = readPayload { p with buf := rest } len [] := by
  have hlen : ((fromBeBytes (toBeBytes (BitVec.ofNat 32 len))).toInt) = len := by
    rw [fromBeBytes_toBeBytes, toInt_ofNat_of_le h]
  simp only [readFrame, hp, hbuf, List.length_nil, Nat.sub_zero]
  rw [Pipe.readExact_of_le (by simp [length_toBeBytes]), List.take_left' (length_toBeBytes _),
    List.drop_left' (length_toBeBytes _)]
  simp only [List.nil_append, hlen, Int.toNat_natCast]
  rw [if_neg]
  rw [maxAllowedReadBytes]
  omega

theorem readFrame_resume {p : Pipe} {r : Reader} (hp : p.closed = false) (h : r.Waits) :
    readFrame p r = readFrame { p with buf := r.consumed ++ p.buf } (.length []) := by
  cases r with
  | length filled =>
    have hf : filled.length ≤ 4 := Nat.le_of_lt h
    simp only [readFrame, Reader.consumed, hp, List.length_nil, Nat.sub_zero]
    by_cases hlen : 4 - filled.length ≤ p.buf.length
    · rw [Pipe.readExact_of_le hlen, Pipe.readExact_of_le (by rw [List.length_append]; omega)]
      simp [List.take_append, List.drop_append, List.take_of_length_le hf,
        List.drop_of_length_le hf]
    · rw [Pipe.readExact_of_lt (by omega),
        Pipe.readExact_of_lt (by rw [List.length_append]; omega)]
      rfl
  | payload len filled =>
    have hnew : readFrame { p with buf := Reader.consumed (.payload len filled) ++ p.buf }
        (.length []) = readPayload { p with buf := filled ++ p.buf } len [] :=
      readFrame_length hp h.2 (List.append_assoc _ _ _)
    rw [hnew, readFrame, readPayload_resume hp (Nat.le_of_lt h.1)]

/-! ### A new read -/

theorem readFrame_frame {p : Pipe} {payload rest : Bytes} (hp : p.closed = false)
    (h : payload.length ≤ i32Max) (hbuf : p.buf = frameBytes payload ++ rest) :
    readFrame p (.length []) = (.raw payload, { p with buf := rest }) := by
  rw [frameBytes, List.append_assoc] at hbuf
  rw [readFrame_length hp h hbuf]
  simp only [readPayload, List.length_nil, Nat.sub_zero]
  rw [Pipe.readExact_of_le (by simp)]
  simp

theorem readFrame_partial {p : Pipe} {payload rest : Bytes} (hp : p.closed = false)
    (h : payload.length ≤ i32Max) (hbuf : p.buf ++ rest = frameBytes payload) (hrest : rest ≠ []) :
    ∃ r, readFrame p (.length []) = (.parked r, { p with buf := [] }) ∧ r.consumed = p.buf ∧
      r.Waits := by
  have hlen : p.buf.length + rest.length = 4 + payload.length := by
    rw [← List.length_append, hbuf, length_frameBytes]
  have hpos : 0 < rest.length := List.length_pos_iff.mpr hrest
  by_cases h4 : p.buf.length < 4
  · refine ⟨.length p.buf, ?_, rfl, h4⟩
    simp only [readFrame, hp, List.length_nil, Nat.sub_zero]
    rw [Pipe.readExact_of_lt h4]
    rfl
  · have hsplit : p.buf = toBeBytes (BitVec.ofNat 32 payload.length) ++ p.buf.drop 4 := by
      have htake := congrArg (List.take 4) hbuf
      rw [List.take_append_of_le_length (by omega), frameBytes,
        List.take_left' (length_toBeBytes _)] at htake
      rw [← htake, List.take_append_drop]
    have hdrop : (p.buf.drop 4).length < payload.length := by
      rw [List.length_drop]
      omega
    refine ⟨.payload payload.length (p.buf.drop 4), ?_, hsplit.symm, hdrop, h⟩
    rw [readFrame_length hp h hsplit]
    simp only [readPayload, hp, List.length_nil, Nat.sub_zero]
    rw [Pipe.readExact_of_lt hdrop]
    rfl

/-! ### Writing -/

theorem writeFrame_success {s : DuplexStream} {payload : Bytes} (hp : s.pipe.closed = false)
    (h : payload.length ≤ i32Max) :
    writeFrame s payload = (.success, { s with wire := s.wire ++ frameBytes payload }) := by
  rw [writeFrame, if_neg (by rw [maxAllowedReadBytes]; omega)]
  simp [DuplexStream.writeAll, hp, frameBytes]

theorem writeFrame_io {s : DuplexStream} {payload : Bytes} (h : i32Max < payload.length) :
    writeFrame s payload = (.io, s) :=
  if_pos h

/-! ### Runs -/

/-- The cipher decodes frames in the order they were encoded, and a frame that it rejects
does not disturb it.  `R session q` says that `q` is what was encoded and is still to be
decoded: the messages and their frames. -/
structure InOrder (C : Cipher σ) (R : σ → List (Bytes × Bytes) → Prop) : Prop where
  encode : ∀ {session q data payload}, R session q → (C.encode session data).1 = some payload →
    R (C.encode session data).2 (q ++ [(data, payload)])
  decode : ∀ {session data payload q}, R session ((data, payload) :: q) →
    (C.decode session payload).1 = some data ∧ R (C.decode session payload).2 q
  reject : ∀ {session q raw}, R session q → (C.decode session raw).1 = none →
    R (C.decode session raw).2 q

/-- A frame on the stream: a message with what it was encoded to, or the frame of a peer that
does not use the cipher. -/
inductive Sent : Type
  | message (data payload : Bytes)
  | foreign (raw : Bytes)
  deriving DecidableEq, Repr

namespace Sent

def payload : Sent → Bytes
  | .message _ payload => payload
  | .foreign raw => raw

def pending : Sent → Option (Bytes × Bytes)
  | .message data payload => some (data, payload)
  | .foreign _ => none

def outcome (P : Prost) (encrypted : Bool) : Sent → Except Exception Bytes
  | .message data _ =>
    if encrypted ∧ data = [] then .error .invalidProtocolBuffer else .ok data
  | .foreign raw => if encrypted then undecoded P raw else .ok raw

end Sent

/-- A writer and a reader on one stream, with what was sent and what the reads returned. -/
structure Line (σ : Type) where
  session : σ
  stream : DuplexStream := {}
  reader : Reader := .length []
  sent : List Sent := []
  results : List (Except Exception Bytes) := []

inductive LineOp : Type
  | write (data : Bytes)
  | writeForeign (raw : Bytes)
  | deliver (n : Nat)
  | read
  deriving DecidableEq, Repr

namespace Line

/-- `read` enters a read or wakes the one that is parked. -/
def apply (P : Prost) (cipher : Option (Cipher σ)) (l : Line σ) : LineOp → Line σ
  | .write data =>
    let w := write cipher l.session l.stream data
    { l with
      session := w.2.1
      stream := w.2.2
      sent := if w.1.ok then l.sent ++
          [.message data ((encodePayload cipher l.session data).1.getD [])]
        else l.sent }
  | .writeForeign raw =>
    let w := writeFrame l.stream raw
    { l with stream := w.2, sent := if w.1.ok then l.sent ++ [.foreign raw] else l.sent }
  | .deliver n => { l with stream := l.stream.deliver n }
  | .read =>
    let r := readFrame l.stream.pipe l.reader
    let stream := { l.stream with pipe := r.2 }
    match r.1 with
    | .raw data =>
      let d := decodeFrame P cipher l.session data
      { l with
        session := d.2, stream := stream, reader := .length [], results := l.results ++ [d.1] }
    | .parked reader => { l with stream := stream, reader := reader }
    | .failed ex =>
      { l with stream := stream, reader := .length [], results := l.results ++ [.error ex] }

/-- Every message is encoded to no more than `i32::MAX` bytes, and a frame that is not the
cipher's is one that it rejects when it is read. -/
def Allows (cipher : Option (Cipher σ)) (l : Line σ) : LineOp → Prop
  | .write data => ∃ payload, (encodePayload cipher l.session data).1 = some payload ∧
      payload.length ≤ i32Max
  | .writeForeign raw => raw.length ≤ i32Max
  | .deliver _ => True
  | .read => ∀ C ∈ cipher, ∀ raw, l.sent[l.results.length]? = some (.foreign raw) →
      (C.decode l.session raw).1 = none

def Reached (P : Prost) (cipher : Option (Cipher σ)) (session : σ) : Line σ → Prop :=
  Reach (fun l op l' => l.apply P cipher op = l') (Allows cipher) { session := session }

structure Sound (P : Prost) (cipher : Option (Cipher σ)) (R : σ → List (Bytes × Bytes) → Prop)
    (l : Line σ) (past todo : List Sent) : Prop where
  opened : l.stream.pipe.closed = false
  waits : l.reader.Waits
  sent : l.sent = past ++ todo
  results : l.results = past.map (Sent.outcome P cipher.isSome)
  bytes : l.reader.consumed ++ l.stream.pipe.buf ++ l.stream.wire =
    todo.flatMap fun x => frameBytes x.payload
  fits : ∀ x ∈ todo, x.payload.length ≤ i32Max
  plain : cipher = none → ∀ data payload, Sent.message data payload ∈ todo → payload = data
  session : ∀ C ∈ cipher, R l.session (todo.filterMap Sent.pending)

section

variable {P : Prost} {cipher : Option (Cipher σ)} {R : σ → List (Bytes × Bytes) → Prop}
  {l : Line σ} {past todo : List Sent}

theorem Sound.write {data : Bytes} (hR : ∀ C ∈ cipher, InOrder C R)
    (h : l.Sound P cipher R past todo)
    (hop : l.Allows cipher (.write data)) :
    ∃ payload, (l.apply P cipher (.write data)).Sound P cipher R past
      (todo ++ [.message data payload]) := by
  obtain ⟨payload, hpayload, hlen⟩ := hop
  have hw := writeFrame_success h.opened hlen
  refine ⟨payload, ?_⟩
  simp only [apply, StreamChannel.write, hpayload, hw, Exception.ok, if_true, Option.getD_some]
  refine ⟨h.opened, h.waits, ?_, h.results, ?_, ?_, ?_, ?_⟩
  · rw [h.sent, List.append_assoc]
  · rw [List.flatMap_append, ← h.bytes]
    simp [Sent.payload]
  · intro x hx
    rcases List.mem_append.mp hx with hx | hx
    · exact h.fits x hx
    · cases List.mem_singleton.mp hx
      exact hlen
  · intro hc data' payload' hx
    rcases List.mem_append.mp hx with hx | hx
    · exact h.plain hc data' payload' hx
    · cases List.mem_singleton.mp hx
      subst hc
      exact (Option.some.inj hpayload).symm
  · intro C hC
    cases hC
    rw [List.filterMap_append]
    exact (hR C rfl).encode (h.session C rfl) hpayload

theorem Sound.writeForeign {raw : Bytes} (h : l.Sound P cipher R past todo)
    (hlen : raw.length ≤ i32Max) :
    (l.apply P cipher (.writeForeign raw)).Sound P cipher R past (todo ++ [.foreign raw]) := by
  have hw := writeFrame_success h.opened hlen
  simp only [apply, hw, Exception.ok, if_true]
  refine ⟨h.opened, h.waits, ?_, h.results, ?_, ?_, ?_, ?_⟩
  · rw [h.sent, List.append_assoc]
  · rw [List.flatMap_append, ← h.bytes]
    simp [Sent.payload]
  · intro x hx
    rcases List.mem_append.mp hx with hx | hx
    · exact h.fits x hx
    · cases List.mem_singleton.mp hx
      exact hlen
  · intro hc data' payload' hx
    rcases List.mem_append.mp hx with hx | hx
    · exact h.plain hc data' payload' hx
    · cases List.mem_singleton.mp hx
  · intro C hC
    rw [List.filterMap_append]
    exact (List.append_nil _).symm ▸ h.session C hC

theorem Sound.deliver (n : Nat) (h : l.Sound P cipher R past todo) :
    (l.apply P cipher (.deliver n)).Sound P cipher R past todo := by
  refine ⟨h.opened, h.waits, h.sent, h.results, ?_, h.fits, h.plain, h.session⟩
  rw [← h.bytes]
  simp [apply, DuplexStream.deliver]

theorem Sound.readFrame (h : l.Sound P cipher R past todo) :
    (∃ x rest buf, todo = x :: rest ∧
      readFrame l.stream.pipe l.reader = (.raw x.payload, { l.stream.pipe with buf := buf }) ∧
      buf ++ l.stream.wire = rest.flatMap fun x => frameBytes x.payload) ∨
    (∃ r, readFrame l.stream.pipe l.reader = (.parked r, { l.stream.pipe with buf := [] }) ∧
      r.consumed = l.reader.consumed ++ l.stream.pipe.buf ∧ r.Waits ∧
      ∀ x rest, todo = x :: rest →
        (l.reader.consumed ++ l.stream.pipe.buf).length < (frameBytes x.payload).length) := by
  have hbytes := h.bytes
  rw [readFrame_resume h.opened h.waits]
  generalize hbuf : l.reader.consumed ++ l.stream.pipe.buf = buf at hbytes ⊢
  cases todo with
  | nil =>
    have hnil : buf = [] := (List.append_eq_nil_iff.mp hbytes).1
    have hzero : ([] : Bytes).length ≤ i32Max := Nat.zero_le _
    obtain ⟨r, hr, hc, hw⟩ := readFrame_partial (p := { l.stream.pipe with buf := buf })
      h.opened hzero (by rw [hnil]; rfl) (by decide)
    exact .inr ⟨r, hr, hc, hw, nofun⟩
  | cons x rest =>
    have hx := h.fits x List.mem_cons_self
    rw [List.flatMap_cons] at hbytes
    rcases List.append_eq_append_iff.mp hbytes with ⟨more, hframe, hwire⟩ | ⟨left, hleft, hrest⟩
    · -- the buffer ends within the frame, or with it
      by_cases hmore : more = []
      · subst hmore
        rw [List.append_nil] at hframe
        refine .inl ⟨x, rest, [], rfl, ?_, hwire⟩
        exact readFrame_frame h.opened hx (by rw [← hframe, List.append_nil])
      · obtain ⟨r, hr, hc, hw⟩ := readFrame_partial (p := { l.stream.pipe with buf := buf })
          h.opened hx hframe.symm hmore
        refine .inr ⟨r, hr, hc, hw, ?_⟩
        rintro _ _ ⟨⟩
        rw [hframe, List.length_append]
        exact Nat.lt_add_of_pos_right (List.length_pos_iff.mpr hmore)
    · exact .inl ⟨x, rest, left, rfl, readFrame_frame h.opened hx hleft, hrest.symm⟩

theorem decodeFrame_sent {x : Sent} {rest : List Sent} {session : σ}
    (hR : ∀ C ∈ cipher, InOrder C R)
    (hplain : cipher = none → ∀ data payload, x = .message data payload → payload = data)
    (hsession : ∀ C ∈ cipher, R session ((x :: rest).filterMap Sent.pending))
    (hforeign : ∀ C ∈ cipher, ∀ raw, x = .foreign raw → (C.decode session raw).1 = none) :
    (decodeFrame P cipher session x.payload).1 = x.outcome P cipher.isSome ∧
      ∀ C ∈ cipher, R (decodeFrame P cipher session x.payload).2 (rest.filterMap Sent.pending) := by
  cases cipher with
  | none =>
    refine ⟨?_, nofun⟩
    cases x with
    | message data payload =>
      cases hplain rfl data payload rfl
      simp [decodeFrame, Sent.outcome, Sent.payload]
    | foreign raw => simp [decodeFrame, Sent.outcome, Sent.payload]
  | some C =>
    have hs := hsession C rfl
    cases x with
    | message data payload =>
      obtain ⟨hd, hs⟩ := (hR C rfl).decode hs
      refine ⟨?_, fun C' hC' => ?_⟩
      · simp [decodeFrame, Sent.outcome, Sent.payload, hd]
      · cases hC'
        exact hs
    | foreign raw =>
      have hd := hforeign C rfl raw rfl
      refine ⟨?_, fun C' hC' => ?_⟩
      · simp [decodeFrame, Sent.outcome, Sent.payload, hd]
      · cases hC'
        exact (hR C rfl).reject hs hd

theorem Sound.next_frame (h : l.Sound P cipher R past todo) :
    l.sent[l.results.length]? = todo.head? := by
  rw [h.sent, h.results, List.length_map, List.getElem?_append_right (Nat.le_refl _),
    Nat.sub_self, List.head?_eq_getElem?]

theorem Sound.read_returns {x : Sent} {rest : List Sent} {buf : Bytes}
    (hR : ∀ C ∈ cipher, InOrder C R) (h : l.Sound P cipher R past (x :: rest))
    (hop : l.Allows cipher .read)
    (hread : StreamChannel.readFrame l.stream.pipe l.reader =
      (.raw x.payload, { l.stream.pipe with buf := buf }))
    (hbuf : buf ++ l.stream.wire = rest.flatMap fun x => frameBytes x.payload) :
    (l.apply P cipher .read).Sound P cipher R (past ++ [x]) rest := by
  have hd := decodeFrame_sent (P := P) hR
    (fun hc data payload hx => h.plain hc data payload (hx ▸ List.mem_cons_self)) h.session
    (fun C hC raw hx => hop C hC raw (by rw [h.next_frame, hx]; rfl))
  simp only [apply, hread]
  refine ⟨h.opened, Reader.waits_new, ?_, ?_, hbuf, ?_, ?_, hd.2⟩
  · rw [h.sent, List.append_assoc]
    rfl
  · rw [h.results, List.map_append, hd.1]
    rfl
  · exact fun y hy => h.fits y (List.mem_cons_of_mem x hy)
  · exact fun hc data payload hy => h.plain hc data payload (List.mem_cons_of_mem x hy)

theorem Sound.read_waits {r : Reader} (h : l.Sound P cipher R past todo)
    (hread : StreamChannel.readFrame l.stream.pipe l.reader =
      (.parked r, { l.stream.pipe with buf := [] }))
    (hc : r.consumed = l.reader.consumed ++ l.stream.pipe.buf) (hw : r.Waits) :
    (l.apply P cipher .read).Sound P cipher R past todo := by
  simp only [apply, hread]
  refine ⟨h.opened, hw, h.sent, h.results, ?_, h.fits, h.plain, h.session⟩
  rw [← h.bytes, hc, List.append_nil]

theorem Sound.step {l' : Line σ} {op : LineOp} (hR : ∀ C ∈ cipher, InOrder C R)
    (h : l.Sound P cipher R past todo) (hop : l.Allows cipher op)
    (hst : l.apply P cipher op = l') : ∃ past todo, l'.Sound P cipher R past todo := by
  subst hst
  cases op with
  | write data =>
    obtain ⟨payload, h'⟩ := h.write hR hop
    exact ⟨_, _, h'⟩
  | writeForeign raw => exact ⟨_, _, h.writeForeign hop⟩
  | deliver n => exact ⟨_, _, h.deliver n⟩
  | read =>
    rcases h.readFrame with ⟨x, rest, buf, rfl, hread, hbuf⟩ | ⟨r, hread, hc, hw, -⟩
    · exact ⟨_, _, h.read_returns hR hop hread hbuf⟩
    · exact ⟨_, _, h.read_waits hread hc hw⟩

theorem Reached.sound {session : σ} (hR : ∀ C ∈ cipher, InOrder C R) (h₀ : R session [])
    (h : Reached P cipher session l) : ∃ past todo, l.Sound P cipher R past todo := by
  refine Reach.invariant (fun l => ∃ past todo, l.Sound P cipher R past todo) ?_ ?_ h
  · exact ⟨[], [], rfl, Reader.waits_new, rfl, rfl, rfl, nofun, nofun, fun _ _ => h₀⟩
  · rintro l op l' ⟨past, todo, hl⟩ hop hst
    exact hl.step hR hop hst

end

/-- The reads return the frames sent, in order and each with the result it has to have; what
they left on the stream are exactly the bytes of the frames to come; a read returns once the
bytes of its frame are there; and a message that is encoded to more than `i32::MAX` bytes is
refused with nothing written. -/
theorem framed_round_trip {P : Prost} {cipher : Option (Cipher σ)}
    {R : σ → List (Bytes × Bytes) → Prop} (hR : ∀ C ∈ cipher, InOrder C R) {session : σ}
    (h₀ : R session []) {l : Line σ} (h : Reached P cipher session l) :
    l.results = (l.sent.take l.results.length).map (Sent.outcome P cipher.isSome) ∧
      l.reader.consumed ++ l.stream.pipe.buf ++ l.stream.wire =
        (l.sent.drop l.results.length).flatMap (fun x => frameBytes x.payload) ∧
      (∀ x, l.sent[l.results.length]? = some x →
        (frameBytes x.payload).length ≤ (l.reader.consumed ++ l.stream.pipe.buf).length →
        l.Allows cipher .read →
          (l.apply P cipher .read).results = l.results ++ [x.outcome P cipher.isSome]) ∧
      ∀ data payload, (encodePayload cipher l.session data).1 = some payload →
        (payload.length ≤ i32Max → (write cipher l.session l.stream data).1 = .success ∧
          (write cipher l.session l.stream data).2.2 =
            { l.stream with wire := l.stream.wire ++ frameBytes payload }) ∧
        (i32Max < payload.length → (write cipher l.session l.stream data).1 = .io ∧
          (write cipher l.session l.stream data).2.2 = l.stream) := by
  obtain ⟨past, todo, hl⟩ := h.sound hR h₀
  have hlen : l.results.length = past.length := by rw [hl.results, List.length_map]
  refine ⟨?_, ?_, ?_, ?_⟩
  · rw [hlen, hl.sent, List.take_left', hl.results]
    rfl
  · rw [hlen, hl.sent, List.drop_left', hl.bytes]
    rfl
  · intro x hx hlen hop
    rw [hl.next_frame] at hx
    obtain ⟨rest, rfl⟩ := List.head?_eq_some_iff.mp hx
    rcases hl.readFrame with ⟨y, rest', buf, heq, hread, hbuf⟩ | ⟨_, _, _, _, hne⟩
    · cases heq
      rw [(hl.read_returns hR hop hread hbuf).results, hl.results, List.map_append]
      rfl
    · exact absurd hlen (Nat.not_le.mpr (hne x rest rfl))
  · intro data payload hpayload
    simp only [write, hpayload]
    refine ⟨fun hle => ?_, fun hgt => ?_⟩
    · rw [writeFrame_success hl.opened hle]
      exact ⟨rfl, rfl⟩
    · rw [writeFrame_io hgt]
      exact ⟨rfl, rfl⟩

/-- The cipher of the tests: a marker byte in front. -/
def markerCipher : Cipher Unit where
  encode _ plaintext := (some (0xE5 :: plaintext), ())
  decode _
    | 0xE5 :: plaintext => (some plaintext, ())
    | _ => (none, ())

theorem markerCipher_inOrder :
    InOrder markerCipher fun _ q => ∀ x ∈ q, x.2 = 0xE5 :: x.1 where
  encode := by
    intro session q data payload hq hp x hx
    rcases List.mem_append.mp hx with hx | hx
    · exact hq x hx
    · cases List.mem_singleton.mp hx
      exact (Option.some.inj hp).symm
  decode := by
    intro session data payload q hq
    have hp : payload = 0xE5 :: data := hq _ List.mem_cons_self
    subst hp
    exact ⟨rfl, fun x hx => hq x (List.mem_cons_of_mem _ hx)⟩
  reject hq _ := hq

def markedLine : Line Unit :=
  [.write [7], .write [], .deliver 3, .read, .writeForeign [1], .deliver 13, .read, .read,
    .read].foldl (apply ⟨fun _ => [], fun _ => none⟩ (some markerCipher)) { session := () }

theorem markedLine_round_trip :
    markedLine.results = [.ok [7], .error .invalidProtocolBuffer, .error .invalidProtocolBuffer] ∧
      markedLine.results = (markedLine.sent.take markedLine.results.length).map
        (Sent.outcome ⟨fun _ => [], fun _ => none⟩ true) := by
  have hR : ∀ C ∈ some markerCipher, InOrder C fun _ q => ∀ x ∈ q, x.2 = 0xE5 :: x.1 := by
    rintro _ ⟨⟩
    exact markerCipher_inOrder
  have hread : ∀ {l : Line Unit}, (∀ raw, l.sent[l.results.length]? = some (.foreign raw) →
      raw = [1]) → l.Allows (some markerCipher) .read := by
    rintro l h _ ⟨⟩ raw hraw
    rw [h raw hraw]
    rfl
  refine ⟨by decide +kernel, (framed_round_trip hR nofun (reach_foldl _ ?_)).1⟩
  refine ⟨⟨_, rfl, by decide⟩, ⟨_, rfl, by decide⟩, trivial, hread ?_, ?_, trivial, hread ?_,
    hread ?_, hread ?_, trivial⟩
  · rintro raw ⟨⟩
  · exact (by decide : [(1 : UInt8)].length ≤ i32Max)
  · rintro raw ⟨⟩
  · rintro raw ⟨⟩
  · rintro raw ⟨⟩
    rfl

end Line

end Nearby.Bwu.StreamChannel
