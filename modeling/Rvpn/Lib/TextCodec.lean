import Mathlib.Algebra.Group.Nat.Defs
import Mathlib.Data.List.Basic

/-! Hexadecimal, and base32 without padding, over lists of bits. Decoding is strict. -/

namespace TextCodec

/-- The `width` low bits of a number, most significant first. -/
def bitsOf : Nat → Nat → List Bool
  | 0, _ => []
  | width + 1, n => n.testBit width :: bitsOf width n

def ofBits (bits : List Bool) : Nat := bits.foldl (fun n bit => 2 * n + bit.toNat) 0

/-- Cut a list into pieces of `width`, with the piece that is left over at the end. -/
def chunks {α : Type} (width : Nat) : Nat → List α → List (List α)
  | 0, _ => []
  | count + 1, items => items.take width :: chunks width count (items.drop width)

def valueIn (alphabet : List Char) (symbol : Char) : Option Nat := alphabet.idxOf? symbol

def base32Alphabet : List Char := "ABCDEFGHIJKLMNOPQRSTUVWXYZ234567".toList

def hexAlphabet : List Char := "0123456789abcdef".toList

def bytesOf (bits : List Bool) : List UInt8 :=
  (chunks 8 (bits.length / 8) bits).map fun piece => UInt8.ofNat (ofBits piece)

def byteBits (bytes : List UInt8) : List Bool := bytes.flatMap fun byte => bitsOf 8 byte.toNat

/-- The symbols of `bytes`, the last one filled up with zero bits. -/
def base32Encode (bytes : List UInt8) : List Char :=
  let bits := byteBits bytes
  (chunks 5 ((bits.length + 4) / 5) (bits ++ List.replicate 4 false)).map fun piece =>
    base32Alphabet.getD (ofBits piece) 'A'

def base32Decode (symbols : List Char) : Option (List UInt8) :=
  match symbols.mapM (valueIn base32Alphabet) with
  | none => none
  | some values =>
    let bits := values.flatMap (bitsOf 5)
    let rest := bits.drop (8 * (bits.length / 8))
    if rest.length < 5 ∧ rest.all (! ·) then some (bytesOf bits) else none

section bits

@[simp] theorem length_bitsOf (width n : Nat) : (bitsOf width n).length = width := by
  induction width with
  | zero => rfl
  | succ width ih => rw [bitsOf, List.length_cons, ih]

theorem bitsOf_congr (same : ∀ i < width, n.testBit i = m.testBit i) :
    bitsOf width n = bitsOf width m := by
  induction width with
  | zero => rfl
  | succ width ih =>
    rw [bitsOf, bitsOf, same width (Nat.lt_succ_self width), ih fun i less => same i (Nat.lt_succ_of_lt less)]

theorem ofBits_foldl (bits : List Bool) (n : Nat) :
    bits.foldl (fun n bit => 2 * n + bit.toNat) n = 2 ^ bits.length * n + ofBits bits := by
  induction bits generalizing n with
  | nil => simp [ofBits]
  | cons bit bits ih =>
    rw [ofBits, List.foldl_cons, List.foldl_cons, ih, ih (2 * 0 + bit.toNat), List.length_cons, Nat.pow_succ,
      Nat.mul_add, Nat.mul_zero, Nat.zero_add, Nat.mul_assoc, Nat.add_assoc]

theorem ofBits_cons (bit : Bool) (bits : List Bool) :
    ofBits (bit :: bits) = 2 ^ bits.length * bit.toNat + ofBits bits := by
  rw [ofBits, List.foldl_cons, ofBits_foldl, Nat.mul_zero, Nat.zero_add]

theorem ofBits_lt (bits : List Bool) : ofBits bits < 2 ^ bits.length := by
  induction bits with
  | nil => exact Nat.one_pos
  | cons bit bits ih =>
    rw [ofBits_cons, List.length_cons, Nat.pow_succ]
    cases bit <;> simp <;> omega

theorem bitsOf_ofBits (bits : List Bool) : bitsOf bits.length (ofBits bits) = bits := by
  induction bits with
  | nil => rfl
  | cons bit bits ih =>
    have spelled := Nat.testBit_two_pow_mul_add bit.toNat (ofBits_lt bits)
    have high : (ofBits (bit :: bits)).testBit bits.length = bit := by
      rw [ofBits_cons, spelled, if_neg (Nat.lt_irrefl _), Nat.sub_self]
      cases bit <;> rfl
    have low : bitsOf bits.length (ofBits (bit :: bits)) = bitsOf bits.length (ofBits bits) := by
      refine bitsOf_congr fun i less => ?_
      rw [ofBits_cons, spelled, if_pos less]
    rw [List.length_cons, bitsOf, high, low, ih]

theorem ofBits_bitsOf (width n : Nat) : ofBits (bitsOf width n) = n % 2 ^ width := by
  induction width with
  | zero => simp [bitsOf, ofBits, Nat.mod_one]
  | succ width ih =>
    have digit : (n.testBit width).toNat = n / 2 ^ width % 2 := Nat.toNat_testBit n width
    rw [bitsOf, ofBits_cons, length_bitsOf, ih, digit, Nat.mod_pow_succ, Nat.add_comm]

end bits

section chunks

variable {α : Type} {width count : Nat} {items : List α}

theorem flatten_chunks (width count : Nat) (items : List α) :
    (chunks width count items).flatten = items.take (width * count) := by
  induction count generalizing items with
  | zero => simp [chunks]
  | succ count ih => rw [chunks, List.flatten_cons, ih, Nat.mul_succ, Nat.add_comm, List.take_add]

theorem length_of_mem_chunks (enough : width * count ≤ items.length) :
    ∀ piece ∈ chunks width count items, piece.length = width := by
  induction count generalizing items with
  | zero => exact fun piece listed => nomatch listed
  | succ count ih =>
    rw [Nat.mul_succ] at enough
    intro piece listed
    rcases List.mem_cons.mp listed with rfl | later
    · rw [List.length_take]
      omega
    · exact ih (by rw [List.length_drop]; omega) piece later

theorem length_byteBits (bytes : List UInt8) : (byteBits bytes).length = 8 * bytes.length := by
  induction bytes with
  | nil => rfl
  | cons byte bytes ih =>
    rw [byteBits, List.flatMap_cons, ← byteBits, List.length_append, length_bitsOf, ih, List.length_cons]
    omega

theorem chunks_byteBits (bytes : List UInt8) (rest : List Bool) :
    (chunks 8 bytes.length (byteBits bytes ++ rest)).map (fun piece => UInt8.ofNat (ofBits piece)) = bytes := by
  induction bytes with
  | nil => rfl
  | cons byte bytes ih =>
    have shape : byteBits (byte :: bytes) ++ rest = bitsOf 8 byte.toNat ++ (byteBits bytes ++ rest) := by
      rw [byteBits, List.flatMap_cons, ← byteBits, List.append_assoc]
    have first : UInt8.ofNat (ofBits (bitsOf 8 byte.toNat)) = byte := by
      rw [ofBits_bitsOf, Nat.mod_eq_of_lt byte.toNat_lt, UInt8.ofNat_toNat]
    rw [shape, List.length_cons, chunks, List.map_cons, List.take_left' (length_bitsOf 8 _),
      List.drop_left' (length_bitsOf 8 _), first, ih]

end chunks

section base32

theorem valueIn_base32 : ∀ value : Fin 32, valueIn base32Alphabet (base32Alphabet.getD value 'A') = some value.val := by
  decide

theorem mapM_valueIn {pieces : List (List Bool)} (sized : ∀ piece ∈ pieces, piece.length = 5) :
    (pieces.map fun piece => base32Alphabet.getD (ofBits piece) 'A').mapM (valueIn base32Alphabet) =
      some (pieces.map ofBits) := by
  induction pieces with
  | nil => rfl
  | cons piece pieces ih =>
    have small : ofBits piece < 2 ^ 5 := sized piece List.mem_cons_self ▸ ofBits_lt piece
    have first := valueIn_base32 ⟨ofBits piece, small⟩
    have later := ih fun other listed => sized other (List.mem_cons_of_mem _ listed)
    simp only [List.map_cons, List.mapM_cons, later]
    rw [first]
    rfl

theorem flatMap_bitsOf {pieces : List (List Bool)} (sized : ∀ piece ∈ pieces, piece.length = 5) :
    (pieces.map ofBits).flatMap (bitsOf 5) = pieces.flatten := by
  induction pieces with
  | nil => rfl
  | cons piece pieces ih =>
    have first : bitsOf 5 (ofBits piece) = piece := sized piece List.mem_cons_self ▸ bitsOf_ofBits piece
    rw [List.map_cons, List.flatMap_cons, first, ih fun other listed => sized other (List.mem_cons_of_mem _ listed),
      List.flatten_cons]

theorem base32Decode_encode (bytes : List UInt8) : base32Decode (base32Encode bytes) = some bytes := by
  have total := length_byteBits bytes
  obtain ⟨count, symbols⟩ : ∃ count, count = ((byteBits bytes).length + 4) / 5 := ⟨_, rfl⟩
  have enough : 5 * count ≤ (byteBits bytes ++ List.replicate 4 false).length := by
    rw [List.length_append, List.length_replicate]
    omega
  have sized := length_of_mem_chunks enough
  -- the last symbol is filled up with fewer than five zeros
  have padded : (byteBits bytes ++ List.replicate 4 false).take (5 * count) =
      byteBits bytes ++ List.replicate (5 * count - 8 * bytes.length) false := by
    rw [List.take_append, List.take_of_length_le (by omega), List.take_replicate, total]
    congr 2
    omega
  have bits : (byteBits bytes ++ List.replicate (5 * count - 8 * bytes.length) false).length / 8 = bytes.length := by
    rw [List.length_append, List.length_replicate, total]
    omega
  have rest : (byteBits bytes ++ List.replicate (5 * count - 8 * bytes.length) false).drop (8 * bytes.length) =
      List.replicate (5 * count - 8 * bytes.length) false := List.drop_left' total
  have few : 5 * count - 8 * bytes.length < 5 := by omega
  simp only [base32Encode, base32Decode, ← symbols, mapM_valueIn sized, flatMap_bitsOf sized, flatten_chunks, padded,
    bits, rest, bytesOf, chunks_byteBits, List.length_replicate]
  simp [few]

end base32

def hexValue (digit : Char) : Option Nat := valueIn hexAlphabet digit.toLower

def hexDecode (digits : List Char) : Option (List UInt8) :=
  if digits.length % 2 = 0 then (digits.mapM hexValue).map fun values => bytesOf (values.flatMap (bitsOf 4))
  else none

def hexEncode (bytes : List UInt8) : List Char :=
  bytes.flatMap fun byte =>
    [hexAlphabet.getD (byte.toNat / 16) '0', hexAlphabet.getD (byte.toNat % 16) '0']

theorem hexValue_digit : ∀ value : Fin 16, hexValue (hexAlphabet.getD value '0') = some value.val := by
  decide

theorem bitsOf_byte : ∀ value : Fin 256, bitsOf 4 (value / 16) ++ bitsOf 4 (value % 16) = bitsOf 8 value := by
  decide +kernel

theorem mapM_hexValue (bytes : List UInt8) :
    (hexEncode bytes).mapM hexValue = some (bytes.flatMap fun byte => [byte.toNat / 16, byte.toNat % 16]) := by
  induction bytes with
  | nil => rfl
  | cons byte rest ih =>
    have small : byte.toNat < 256 := byte.toNat_lt
    have high := hexValue_digit ⟨byte.toNat / 16, by omega⟩
    have low := hexValue_digit ⟨byte.toNat % 16, by omega⟩
    rw [hexEncode, List.flatMap_cons, ← hexEncode, List.cons_append, List.mapM_cons, high]
    simp only [List.cons_append, List.mapM_cons, low, List.nil_append, ih]
    rfl

theorem hexDecode_hexEncode (bytes : List UInt8) : hexDecode (hexEncode bytes) = some bytes := by
  have even : (hexEncode bytes).length = 2 * bytes.length := by
    simp [hexEncode, List.length_flatMap, Nat.mul_comm]
  have bits : (bytes.flatMap fun byte => [byte.toNat / 16, byte.toNat % 16]).flatMap (bitsOf 4) = byteBits bytes := by
    rw [List.flatMap_assoc]
    refine List.flatMap_congr fun byte _ => ?_
    simpa using bitsOf_byte ⟨byte.toNat, byte.toNat_lt⟩
  have whole := chunks_byteBits bytes []
  rw [List.append_nil] at whole
  rw [hexDecode, if_pos (by omega), mapM_hexValue, Option.map_some, bits, bytesOf, length_byteBits,
    Nat.mul_div_cancel_left _ (by decide), whole]

theorem hexEncode_injective (same : hexEncode first = hexEncode second) : first = second := by
  have decoded := hexDecode_hexEncode first
  rw [same, hexDecode_hexEncode] at decoded
  exact (Option.some.inj decoded).symm

end TextCodec
