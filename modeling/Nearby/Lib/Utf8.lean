import Mathlib.Data.List.Basic

/-! UTF-8 with replacement: how a byte sequence of unknown origin is read as text. -/

namespace Nearby.Lib.Utf8

def isContinuation (b : UInt8) : Bool := 0x80 ≤ b && b ≤ 0xBF

/-- The second bytes a three-byte lead admits; overlong forms and surrogates are left out. -/
def second3 (lead b : UInt8) : Bool :=
  if lead = 0xE0 then 0xA0 ≤ b && b ≤ 0xBF
  else if lead = 0xED then 0x80 ≤ b && b ≤ 0x9F
  else isContinuation b

def second4 (lead b : UInt8) : Bool :=
  if lead = 0xF0 then 0x90 ≤ b && b ≤ 0xBF
  else if lead = 0xF4 then 0x80 ≤ b && b ≤ 0x8F
  else isContinuation b

def tailBits (b : UInt8) : Nat := b.toNat % 64

def replacement : Char := '\uFFFD'

/-- The character at the front and how many further bytes it takes up.  A sequence that breaks
off is replaced as far as it was well formed. -/
def next (lead : UInt8) (rest : List UInt8) : Char × Nat :=
  if lead < 0x80 then (Char.ofNat lead.toNat, 0)
  else if 0xC2 ≤ lead && lead ≤ 0xDF then
    match rest with
    | b :: _ =>
      if isContinuation b then (Char.ofNat (lead.toNat % 32 * 64 + tailBits b), 1)
      else (replacement, 0)
    | [] => (replacement, 0)
  else if 0xE0 ≤ lead && lead ≤ 0xEF then
    match rest with
    | b :: rest =>
      if second3 lead b then
        match rest with
        | c :: _ =>
          if isContinuation c then
            (Char.ofNat (lead.toNat % 16 * 4096 + tailBits b * 64 + tailBits c), 2)
          else (replacement, 1)
        | [] => (replacement, 1)
      else (replacement, 0)
    | [] => (replacement, 0)
  else if 0xF0 ≤ lead && lead ≤ 0xF4 then
    match rest with
    | b :: rest =>
      if second4 lead b then
        match rest with
        | c :: rest =>
          if isContinuation c then
            match rest with
            | d :: _ =>
              if isContinuation d then
                (Char.ofNat (lead.toNat % 8 * 262144 + tailBits b * 4096 + tailBits c * 64 +
                  tailBits d), 3)
              else (replacement, 2)
            | [] => (replacement, 2)
          else (replacement, 1)
        | [] => (replacement, 1)
      else (replacement, 0)
    | [] => (replacement, 0)
  else (replacement, 0)

/-- The characters of a byte sequence of which the first `skip` bytes are already read. -/
def chars (skip : Nat) : List UInt8 → List Char
  | [] => []
  | lead :: rest =>
    match skip with
    | skip + 1 => chars skip rest
    | 0 =>
      let (c, taken) := next lead rest
      c :: chars taken rest

/-- `String::from_utf8_lossy`. -/
def fromUtf8Lossy (bytes : List UInt8) : String := String.ofList (chars 0 bytes)

theorem fromUtf8Lossy_eq_empty_iff (bytes : List UInt8) :
    fromUtf8Lossy bytes = "" ↔ bytes = [] := by
  rw [fromUtf8Lossy, ← String.toList_eq_nil_iff, String.toList_ofList]
  cases bytes with
  | nil => simp [chars]
  | cons lead rest => simp [chars]

example : chars 0 [0x41, 0xC3, 0xA9, 0xE2, 0x82, 0x42, 0xF0, 0x9F, 0x98, 0x80, 0xFF] =
    ['A', 'é', replacement, 'B', '😀', replacement] := by decide

end Nearby.Lib.Utf8
