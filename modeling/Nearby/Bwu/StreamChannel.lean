import Nearby.Lib.Framing
import Nearby.Bwu.Channel

/-! `stream_channel.rs`: frames over a blocking byte stream.  A blocking call is modelled by
how far it gets on the bytes that have arrived and by where it is taken up again. -/

namespace Nearby.Bwu

open Proto Lib

structure Pipe where
  buf : Bytes := []
  closed : Bool := false
  deriving DecidableEq, Repr

/-- How far a `read_exact` gets: `waiting` is parked with the bytes it filled so far. -/
inductive ReadExact : Type
  | filled (bytes : Bytes)
  | waiting (bytes : Bytes)
  | noData
  deriving DecidableEq, Repr

namespace Pipe

/-- The loop of `read_exact`, entered or woken with `missing` bytes to go. -/
def readExact (closed : Bool) : (missing : Nat) → (filled buf : Bytes) → ReadExact × Bytes
  | 0, filled, buf => (.filled filled, buf)
  | _ + 1, filled, [] => (if closed then .noData else .waiting filled, [])
  | missing + 1, filled, byte :: buf => readExact closed missing (filled ++ [byte]) buf

theorem readExact_of_le {closed : Bool} {missing : Nat} {filled buf : Bytes}
    (h : missing ≤ buf.length) :
    readExact closed missing filled buf =
      (.filled (filled ++ buf.take missing), buf.drop missing) := by
  induction missing generalizing filled buf with
  | zero => simp [readExact]
  | succ missing ih =>
    cases buf with
    | nil => simp at h
    | cons byte buf =>
      rw [readExact, ih (by simpa using h)]
      simp

theorem readExact_of_lt {missing : Nat} {filled buf : Bytes} (h : buf.length < missing) :
    readExact false missing filled buf = (.waiting (filled ++ buf), []) := by
  induction missing generalizing filled buf with
  | zero => simp at h
  | succ missing ih =>
    cases buf with
    | nil => simp [readExact]
    | cons byte buf =>
      rw [readExact, ih (by simpa using h)]
      simp

end Pipe

/-- A byte stream between two channels: what is written goes on the wire, and arrives in the
reader's pipe in pieces of any size. -/
structure DuplexStream where
  wire : Bytes := []
  pipe : Pipe := {}
  deriving DecidableEq, Repr

namespace DuplexStream

def writeAll (s : DuplexStream) (bytes : Bytes) : Except Exception DuplexStream :=
  if s.pipe.closed then .error .io else .ok { s with wire := s.wire ++ bytes }

def deliver (s : DuplexStream) (n : Nat) : DuplexStream where
  wire := s.wire.drop n
  pipe := { s.pipe with buf := s.pipe.buf ++ s.wire.take n }

end DuplexStream

/-- The cipher of the writing channel and that of the reading one, on the state they keep.
Both channels may hold the same object. -/
structure Cipher (σ : Type) where
  encode : σ → Bytes → Option Bytes × σ
  decode : σ → Bytes → Option Bytes × σ

namespace StreamChannel

variable {σ : Type}

def maxAllowedReadBytes : Nat := i32Max

/-! ### Reading -/

inductive Reader : Type
  | length (filled : Bytes)
  | payload (len : Nat) (filled : Bytes)
  deriving DecidableEq, Repr

inductive ReadFrame : Type
  | raw (data : Bytes)
  | parked (reader : Reader)
  | failed (ex : Exception)
  deriving DecidableEq, Repr

def readPayload (p : Pipe) (len : Nat) (filled : Bytes) : ReadFrame × Pipe :=
  let r := Pipe.readExact p.closed (len - filled.length) filled p.buf
  (match r.1 with
    | .filled data => .raw data
    | .waiting filled => .parked (.payload len filled)
    | .noData => .failed .noData,
    { p with buf := r.2 })

def readFrame (p : Pipe) : Reader → ReadFrame × Pipe
  | .length filled =>
    let r := Pipe.readExact p.closed (4 - filled.length) filled p.buf
    let p := { p with buf := r.2 }
    match r.1 with
    | .filled lenBuf =>
      let len := (fromBeBytes lenBuf).toInt
      if len < 0 ∨ len.toNat > maxAllowedReadBytes then (.failed .io, p)
      else readPayload p len.toNat []
    | .waiting filled => (.parked (.length filled), p)
    | .noData => (.failed .noData, p)
  | .payload len filled => readPayload p len filled

/-- A frame the cipher rejects: a plaintext KEEP_ALIVE is let through. -/
def undecoded (P : Prost) (raw : Bytes) : Except Exception Bytes :=
  match P.fromBytes raw with
  | .ok frame =>
    if getFrameType frame = .keepAlive then .ok raw else .error .invalidProtocolBuffer
  | .error ex => .error ex

/-- The rest of `read`, with the frame off the stream. -/
def decodeFrame (P : Prost) (cipher : Option (Cipher σ)) (session : σ) (raw : Bytes) :
    Except Exception Bytes × σ :=
  match cipher with
  | none => (.ok raw, session)
  | some cipher =>
    let d := cipher.decode session raw
    (match d.1 with
      | some plaintext => if plaintext = [] then .error .invalidProtocolBuffer else .ok plaintext
      | none => undecoded P raw,
      d.2)

/-- `read`, entered or taken up again at `reader`: what it returns, or where it is parked now. -/
def read (P : Prost) (cipher : Option (Cipher σ)) (session : σ) (p : Pipe) (reader : Reader) :
    (Except Exception Bytes ⊕ Reader) × σ × Pipe :=
  let r := readFrame p reader
  match r.1 with
  | .raw data =>
    let d := decodeFrame P cipher session data
    (.inl d.1, d.2, r.2)
  | .parked reader => (.inr reader, session, r.2)
  | .failed ex => (.inl (.error ex), session, r.2)

/-! ### Writing.  What follows the wait for a paused channel. -/

def encodePayload (cipher : Option (Cipher σ)) (session : σ) (data : Bytes) : Option Bytes × σ :=
  match cipher with
  | none => (some data, session)
  | some cipher => cipher.encode session data

/-- The length, the payload and the flush, which always succeeds on a `Pipe`. -/
def writeFrame (s : DuplexStream) (payload : Bytes) : Exception × DuplexStream :=
  if payload.length > maxAllowedReadBytes then (.io, s)
  else
    match s.writeAll (toBeBytes (BitVec.ofNat 32 payload.length)) with
    | .error _ => (.io, s)
    | .ok s =>
      match s.writeAll payload with
      | .error _ => (.io, s)
      | .ok s => (.success, s)

def write (cipher : Option (Cipher σ)) (session : σ) (s : DuplexStream) (data : Bytes) :
    Exception × σ × DuplexStream :=
  let payload := encodePayload cipher session data
  match payload.1 with
  | none => (.io, payload.2, s)
  | some bytes =>
    let w := writeFrame s bytes
    (w.1, payload.2, w.2)

end StreamChannel

end Nearby.Bwu
