import Mathlib.Algebra.Group.Nat.Defs
import Mathlib.Data.List.Induction

/-! Numbers as bytes of a given width, most or least significant first. -/

namespace BigEndian

def decode (bytes : List UInt8) : Nat := bytes.foldl (fun n byte => n * 256 + byte.toNat) 0

def encode : Nat → Nat → List UInt8
  | 0, _ => []
  | width + 1, n => encode width (n / 256) ++ [UInt8.ofNat n]

@[simp] theorem length_encode (width n : Nat) : (encode width n).length = width := by
  induction width generalizing n with
  | zero => rfl
  | succ width ih => simp [encode, ih]

theorem decode_append_singleton (bytes : List UInt8) (byte : UInt8) :
    decode (bytes ++ [byte]) = decode bytes * 256 + byte.toNat := by
  simp [decode]

theorem decode_encode (fits : n < 256 ^ width) : decode (encode width n) = n := by
  induction width generalizing n with
  | zero =>
    have zero : n = 0 := by simpa using fits
    subst zero
    rfl
  | succ width ih =>
    have upper : n / 256 < 256 ^ width := Nat.div_lt_of_lt_mul (by rwa [Nat.pow_succ, Nat.mul_comm] at fits)
    rw [encode, decode_append_singleton, ih upper, UInt8.toNat_ofNat']
    omega

theorem encode_decode (bytes : List UInt8) : encode bytes.length (decode bytes) = bytes := by
  induction bytes using List.reverseRecOn with
  | nil => rfl
  | append_singleton bytes byte ih =>
    have upper : (decode bytes * 256 + byte.toNat) / 256 = decode bytes := by
      have small := byte.toNat_lt
      omega
    have lower : UInt8.ofNat (decode bytes * 256 + byte.toNat) = byte := by
      apply UInt8.toNat_inj.mp
      have small := byte.toNat_lt
      rw [UInt8.toNat_ofNat']
      omega
    rw [List.length_append, List.length_singleton, decode_append_singleton, encode, upper, lower, ih]

theorem decode_lt (bytes : List UInt8) : decode bytes < 256 ^ bytes.length := by
  induction bytes using List.reverseRecOn with
  | nil => exact Nat.one_pos
  | append_singleton bytes byte ih =>
    have small := byte.toNat_lt
    rw [decode_append_singleton, List.length_append, List.length_singleton, Nat.pow_succ]
    omega

theorem decode_inj (width : bytes.length = others.length) :
    decode bytes = decode others ↔ bytes = others := by
  constructor
  · intro same
    rw [← encode_decode bytes, ← encode_decode others, same, width]
  · rintro rfl
    rfl

end BigEndian

namespace LittleEndian

def decode (bytes : List UInt8) : Nat := BigEndian.decode bytes.reverse

def encode (width n : Nat) : List UInt8 := (BigEndian.encode width n).reverse

@[simp] theorem length_encode (width n : Nat) : (encode width n).length = width := by simp [encode]

theorem decode_encode (fits : n < 256 ^ width) : decode (encode width n) = n := by
  rw [decode, encode, List.reverse_reverse, BigEndian.decode_encode fits]

end LittleEndian
