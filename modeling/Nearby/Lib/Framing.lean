import Mathlib.Algebra.Ring.Nat
import Mathlib.Data.List.Basic

/-! Length-prefixed framing: a payload behind its length, as a signed 32-bit integer in
big-endian order. -/

namespace Nearby.Lib

/-- `i32::to_be_bytes`. -/
def toBeBytes (x : BitVec 32) : List UInt8 :=
  [⟨x.extractLsb' 24 8⟩, ⟨x.extractLsb' 16 8⟩, ⟨x.extractLsb' 8 8⟩, ⟨x.extractLsb' 0 8⟩]

/-- `i32::from_be_bytes`, on the four bytes it takes. -/
def fromBeBytes : List UInt8 → BitVec 32
  | [a, b, c, d] => a.toBitVec ++ b.toBitVec ++ c.toBitVec ++ d.toBitVec
  | _ => 0

theorem length_toBeBytes (x : BitVec 32) : (toBeBytes x).length = 4 := rfl

theorem fromBeBytes_toBeBytes (x : BitVec 32) : fromBeBytes (toBeBytes x) = x := by
  change x.extractLsb' 24 8 ++ x.extractLsb' 16 8 ++ x.extractLsb' 8 8 ++ x.extractLsb' 0 8 = x
  rw [BitVec.extractLsb'_append_extractLsb'_eq_extractLsb' (by rfl),
    BitVec.extractLsb'_append_extractLsb'_eq_extractLsb' (by rfl),
    BitVec.extractLsb'_append_extractLsb'_eq_extractLsb' (by rfl)]
  exact BitVec.extractLsb'_eq_self

def i32Max : Nat := 2 ^ 31 - 1

theorem toInt_ofNat_of_le {n : Nat} (h : n ≤ i32Max) : (BitVec.ofNat 32 n).toInt = n := by
  rw [i32Max] at h
  have hn : (BitVec.ofNat 32 n).toNat = n := by
    rw [BitVec.toNat_ofNat, Nat.mod_eq_of_lt (by omega)]
  rw [BitVec.toInt_eq_toNat_of_lt (by omega), hn]

def frameBytes (payload : List UInt8) : List UInt8 :=
  toBeBytes (BitVec.ofNat 32 payload.length) ++ payload

theorem length_frameBytes (payload : List UInt8) :
    (frameBytes payload).length = 4 + payload.length := by
  rw [frameBytes, List.length_append, length_toBeBytes]

theorem frame_of_append (lenBuf tail : List UInt8) {payloads : List (List UInt8)}
    (h4 : lenBuf.length = 4) (h : lenBuf ++ tail = payloads.flatMap frameBytes) :
    ∃ x rest, payloads = x :: rest ∧ lenBuf = toBeBytes (BitVec.ofNat 32 x.length) ∧
      tail = x ++ rest.flatMap frameBytes := by
  cases payloads with
  | nil =>
    have hnil : lenBuf = [] := (List.append_eq_nil_iff.mp h).1
    rw [hnil] at h4
    cases h4
  | cons x rest =>
    rw [List.flatMap_cons, frameBytes, List.append_assoc] at h
    obtain ⟨hlen, htail⟩ := List.append_inj h h4
    exact ⟨x, rest, rfl, hlen, htail⟩

theorem toBeBytes_ofNat_inj {n m : Nat} (hn : n ≤ i32Max) (hm : m ≤ i32Max)
    (h : toBeBytes (BitVec.ofNat 32 n) = toBeBytes (BitVec.ofNat 32 m)) : n = m := by
  have hbytes := congrArg (BitVec.toInt ∘ fromBeBytes) h
  simp only [Function.comp_apply, fromBeBytes_toBeBytes, toInt_ofNat_of_le hn,
    toInt_ofNat_of_le hm] at hbytes
  exact Int.ofNat.inj hbytes

theorem flatMap_frameBytes_eq_nil {payloads : List (List UInt8)}
    (h : payloads.flatMap frameBytes = []) : payloads = [] := by
  cases payloads with
  | nil => rfl
  | cons x rest =>
    have hlen := congrArg List.length h
    rw [List.flatMap_cons, List.length_append, length_frameBytes, List.length_nil] at hlen
    omega

end Nearby.Lib
