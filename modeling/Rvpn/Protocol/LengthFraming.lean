import Mathlib.Data.FinEnum
import Mathlib.Data.List.Nodup
import Mathlib.Data.List.Range
import Rvpn.Crypto.Primitives
import Rvpn.Lib.BigEndian

/-! The nonces of `protocol/length_framing.rs`: a counter of 96 bits, advanced twice for each frame. -/

namespace Rvpn.Protocol

open Crypto

/-- The loop of `increment_nonce`, over the bytes from the last to the first. -/
def carry : Bytes → Bytes
  | [] => []
  | byte :: rest => if byte = 255 then 0 :: carry rest else (byte + 1) :: rest

theorem length_carry (bytes : Bytes) : (carry bytes).length = bytes.length := by
  induction bytes with
  | nil => rfl
  | cons byte rest ih =>
    rw [carry]
    split <;> simp [ih]

def incrementNonce (nonce : Nonce) : Nonce :=
  ⟨(carry nonce.toList.reverse).reverse.toArray, by simp [length_carry]⟩

def deriveClientNonce (base : Nonce) : Nonce := base.set 11 (base[11] ||| 0x01)

def deriveServerNonce (base : Nonce) : Nonce := base.set 11 (base[11] &&& 0xFE)

inductive FramingError where
  | encryptionFailed (cause : String)

/-- An `Aes256Gcm` with its key. -/
abbrev FrameCipher := Nonce → Bytes → Option Bytes

/-- The frame, what `nonce` is left as, and the nonces under which something was encrypted. -/
def encodeFrame (cipher : FrameCipher) (data : Bytes) (nonce : Nonce) :
    Except FramingError Bytes × Nonce × List Nonce :=
  if data.length > 65535 then
    (.error (.encryptionFailed "data exceeds maximum size"), nonce, [])
  else
    match cipher nonce (BigEndian.encode 2 data.length) with
    | none => (.error (.encryptionFailed "aead::Error"), nonce, [])
    | some lenCiphertext =>
      let next := incrementNonce nonce
      match cipher next data with
      | none => (.error (.encryptionFailed "aead::Error"), next, [nonce])
      | some dataCiphertext => (.ok (lenCiphertext ++ dataCiphertext), incrementNonce next, [nonce, next])

def noncesUsed (cipher : FrameCipher) : Nonce → List Bytes → List Nonce
  | _, [] => []
  | nonce, data :: rest =>
    let (_, next, used) := encodeFrame cipher data nonce
    used ++ noncesUsed cipher next rest

def value (nonce : Nonce) : Nat := BigEndian.decode nonce.toList

theorem length_toList (nonce : Nonce) : nonce.toList.length = 12 := Vector.length_toList

theorem decode_carry (bytes : Bytes) :
    BigEndian.decode (carry bytes).reverse = (BigEndian.decode bytes.reverse + 1) % 256 ^ bytes.length := by
  induction bytes with
  | nil => rfl
  | cons byte rest ih =>
    have fits := BigEndian.decode_lt rest.reverse
    have small := byte.toNat_lt
    rw [List.length_reverse] at fits
    rw [carry, List.reverse_cons, BigEndian.decode_append_singleton, List.length_cons, Nat.pow_succ]
    split
    · rename_i full
      subst full
      rw [List.reverse_cons, BigEndian.decode_append_singleton, ih, ← Nat.mul_mod_mul_right]
      have carried : (BigEndian.decode rest.reverse + 1) * 256 =
          BigEndian.decode rest.reverse * 256 + (255 : UInt8).toNat + 1 := by
        rw [show (255 : UInt8).toNat = 255 from rfl]
        omega
      rw [carried]
      rfl
    · rename_i room
      have below : byte.toNat ≠ 255 := fun full => room (UInt8.toNat_inj.mp full)
      rw [List.reverse_cons, BigEndian.decode_append_singleton, UInt8.toNat_add, Nat.mod_eq_of_lt, Nat.mod_eq_of_lt]
      · exact (Nat.add_assoc _ _ _).symm
      · omega
      · rw [show (1 : UInt8).toNat = 1 from rfl]
        omega

theorem value_incrementNonce (nonce : Nonce) : value (incrementNonce nonce) = (value nonce + 1) % 2 ^ 96 := by
  have carried := decode_carry nonce.toList.reverse
  rw [List.reverse_reverse, List.length_reverse, length_toList] at carried
  simpa [value, incrementNonce] using carried

theorem value_iterate (nonce : Nonce) (count : Nat) :
    value (incrementNonce^[count] nonce) = (value nonce + count) % 2 ^ 96 := by
  induction count with
  | zero =>
    have fits := BigEndian.decode_lt nonce.toList
    rw [length_toList] at fits
    exact (Nat.mod_eq_of_lt fits).symm
  | succ count ih =>
    rw [Function.iterate_succ_apply', value_incrementNonce, ih]
    omega

theorem iterate_inj (below : first < 2 ^ 96) (below' : second < 2 ^ 96)
    (same : incrementNonce^[first] nonce = incrementNonce^[second] nonce) : first = second := by
  have values := congrArg value same
  rw [value_iterate, value_iterate] at values
  omega

theorem deriveClientNonce_eq (base : Nonce) : deriveClientNonce base = incrementNonce (deriveServerNonce base) := by
  have size := length_toList base
  obtain ⟨bytes, last, split⟩ : ∃ bytes last, base.toList = bytes ++ [last] :=
    ⟨_, _, (List.dropLast_append_getLast (List.ne_nil_of_length_pos (size ▸ by decide))).symm⟩
  have length : bytes.length = 11 := by
    rw [split, List.length_append, List.length_singleton] at size
    omega
  have found : base[11] = last := by
    rw [← Vector.getElem_toList (by rw [size]; decide)]
    simp [split, length]
  have replaced : ∀ byte, (base.set 11 byte).toList = bytes ++ [byte] := by
    intro byte
    rw [Vector.toList_set, split, ← length, List.set_append_right _ _ (Nat.le_refl _), Nat.sub_self]
    rfl
  have raised : ∀ byte : UInt8, (byte &&& 0xFE) + 1 = byte ||| 0x01 := by decide +kernel
  have even : ∀ byte : UInt8, byte &&& 0xFE ≠ 255 := by decide +kernel
  apply Vector.toList_inj.mp
  rw [deriveClientNonce, replaced, found, incrementNonce, deriveServerNonce, Vector.toList_mk]
  simp [replaced, found, carry, even, raised]

theorem noncesUsed_eq (cipher : FrameCipher) (nonce : Nonce) (frames : List Bytes) :
    ∃ count ≤ 2 * frames.length, noncesUsed cipher nonce frames =
      (List.range count).map fun index => incrementNonce^[index] nonce := by
  induction frames generalizing nonce with
  | nil => exact ⟨0, Nat.le_refl 0, rfl⟩
  | cons data rest ih =>
    have frame : ∃ taken ≤ 2, (encodeFrame cipher data nonce).2 =
        (incrementNonce^[taken] nonce, (List.range taken).map fun index => incrementNonce^[index] nonce) := by
      unfold encodeFrame
      dsimp only
      split
      · exact ⟨0, by decide, rfl⟩
      · split
        · exact ⟨0, by decide, rfl⟩
        · split
          · exact ⟨1, by decide, rfl⟩
          · exact ⟨2, by decide, rfl⟩
    obtain ⟨taken, few, left⟩ := frame
    obtain ⟨count, bound, used⟩ := ih (incrementNonce^[taken] nonce)
    refine ⟨taken + count, by simp only [List.length_cons]; omega, ?_⟩
    simp only [noncesUsed, left, used, List.range_add, List.map_append, List.map_map]
    congr 1
    refine List.map_congr_left fun index _ => ?_
    rw [Function.comp_apply, Nat.add_comm, Function.iterate_add_apply]

theorem nonces_distinct_iff (cipher : FrameCipher) (base : Nonce) (client server : List Bytes)
    (few : client.length < 2 ^ 64) (few' : server.length < 2 ^ 64) :
    (noncesUsed cipher (deriveClientNonce base) client ++ noncesUsed cipher (deriveServerNonce base) server).Nodup ↔
      noncesUsed cipher (deriveClientNonce base) client = [] ∨
        (noncesUsed cipher (deriveServerNonce base) server).length ≤ 1 := by
  obtain ⟨sent, bound, used⟩ := noncesUsed_eq cipher (deriveClientNonce base) client
  obtain ⟨sent', bound', used'⟩ := noncesUsed_eq cipher (deriveServerNonce base) server
  have shifted : ∀ index, incrementNonce^[index] (deriveClientNonce base) =
      incrementNonce^[index + 1] (deriveServerNonce base) := by
    intro index
    rw [deriveClientNonce_eq, Function.iterate_succ_apply]
  rw [used, used']
  have distinct : ∀ {indices : List Nat}, indices.Nodup → (∀ index ∈ indices, index < 2 ^ 96) →
      (indices.map fun index => incrementNonce^[index] (deriveServerNonce base)).Nodup := by
    intro indices nodup below
    exact nodup.map_on fun first listed second listed' => iterate_inj (below first listed) (below second listed')
  have joined : (List.range sent).map (fun index => incrementNonce^[index] (deriveClientNonce base)) ++
      (List.range sent').map (fun index => incrementNonce^[index] (deriveServerNonce base)) =
      (List.range' 1 sent ++ List.range sent').map fun index => incrementNonce^[index] (deriveServerNonce base) := by
    simp only [shifted, List.map_append, List.range'_eq_map_range, List.map_map]
    congr 2
    funext index
    rw [Function.comp_apply, Nat.add_comm]
  rw [joined, List.map_eq_nil_iff, List.range_eq_nil, List.length_map, List.length_range]
  constructor
  · intro nodup
    by_contra both
    -- the client's first nonce is the server's second
    have overlap : (List.range' 1 sent ++ List.range sent').Nodup := nodup.of_map
    refine List.disjoint_of_nodup_append overlap (List.mem_range'_1.mpr ⟨Nat.le_refl 1, ?_⟩) (List.mem_range.mpr ?_)
    all_goals omega
  · intro few
    refine distinct (List.nodup_append.mpr ⟨List.nodup_range', List.nodup_range, ?_⟩) ?_
    · simp only [List.mem_range'_1, List.mem_range]
      omega
    · simp only [List.mem_append, List.mem_range'_1, List.mem_range]
      omega

theorem client_alone_distinct :
    (noncesUsed (fun _ data => some data) (deriveClientNonce (.replicate 12 9)) [[1], [2]] ++
      noncesUsed (fun _ data => some data) (deriveServerNonce (.replicate 12 9)) []).Nodup :=
  (nonces_distinct_iff _ _ _ _ (by decide) (by decide)).mpr (.inr (by decide))

/-- One frame from each side: the client's length field and the server's data have one nonce. -/
theorem first_frames_share_nonce :
    ¬ (noncesUsed (fun _ data => some data) (deriveClientNonce (.replicate 12 9)) [[1]] ++
      noncesUsed (fun _ data => some data) (deriveServerNonce (.replicate 12 9)) [[2]]).Nodup := by
  decide +kernel

end Rvpn.Protocol
