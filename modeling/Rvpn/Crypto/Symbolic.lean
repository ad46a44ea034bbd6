import Rvpn.Crypto.KeySchedule
import Rvpn.Lib.SelfDelimiting

/-! Symbolic primitives: every output spells out how it was made, so all assumptions hold of them at once. -/

namespace Rvpn.Crypto.Symbolic

open SelfDelimiting (encode encodeOption encodeList encode_append_inj encodeOption_append_inj
  encodeList_append_inj)

def preamble (key : Bytes) (nonce : Nonce) (aad : Bytes) : Bytes :=
  encode 0 1 key ++ (nonce.toList ++ encode 0 1 aad)

def tag : Bytes := List.replicate tagSize 0

def pack (key : Bytes) (nonce : Nonce) (aad plaintext : Bytes) : Bytes :=
  preamble key nonce aad ++ (plaintext ++ tag)

def unpack (key : Bytes) (nonce : Nonce) (aad ciphertext : Bytes) : Option Bytes :=
  let body := ciphertext.drop (preamble key nonce aad).length
  let plaintext := body.take (body.length - tagSize)
  if pack key nonce aad plaintext = ciphertext then some plaintext else none

def derivation (salt : Option Bytes) (ikm : List Bytes) (info : Bytes) : Bytes :=
  encodeOption 0 1 salt ++ (encodeList 0 1 ikm ++ info)

def primitives : Primitives Bytes (Vector UInt8 32) where
  aeadEncrypt key nonce aad plaintext := some (pack key nonce aad plaintext)
  aeadDecrypt := unpack
  hmac key byte := 0 :: byte :: key
  hkdf salt ikm info := (1 :: derivation salt ikm info, 2 :: derivation salt ikm info)
  publicKey := id
  diffieHellman mine theirs := 3 :: List.zipWith (· ^^^ ·) mine.toList theirs.toList

private theorem stop_ne_more : (0 : UInt8) ≠ 1 := by decide

theorem unpack_pack (key : Bytes) (nonce : Nonce) (aad plaintext : Bytes) :
    unpack key nonce aad (pack key nonce aad plaintext) = some plaintext := by
  have body : (pack key nonce aad plaintext).drop (preamble key nonce aad).length = plaintext ++ tag :=
    List.drop_left
  have cut : (plaintext ++ tag).take ((plaintext ++ tag).length - tagSize) = plaintext := by
    simp [tag]
  simp only [unpack, body, cut, if_true]

theorem pack_inj (same : pack key nonce aad plaintext = pack key' nonce' aad' plaintext') :
    key = key' ∧ nonce = nonce' ∧ aad = aad' ∧ plaintext = plaintext' := by
  simp only [pack, preamble, List.append_assoc] at same
  obtain ⟨sameKey, afterKey⟩ := encode_append_inj stop_ne_more same
  obtain ⟨sameNonce, afterNonce⟩ := List.append_inj afterKey (by simp)
  obtain ⟨sameAad, afterAad⟩ := encode_append_inj stop_ne_more afterNonce
  exact ⟨sameKey, Vector.toList_inj.mp sameNonce, sameAad, List.append_cancel_right afterAad⟩

theorem derivation_inj (same : derivation salt ikm info = derivation salt' ikm' info') :
    salt = salt' ∧ ikm = ikm' ∧ info = info' := by
  obtain ⟨sameSalt, afterSalt⟩ := encodeOption_append_inj stop_ne_more same
  obtain ⟨sameIkm, sameInfo⟩ := encodeList_append_inj stop_ne_more afterSalt
  exact ⟨sameSalt, sameIkm, sameInfo⟩

theorem aeadCorrect : AeadCorrect primitives where
  decrypts encrypted := by
    cases encrypted
    exact unpack_pack _ _ _ _
  tagged encrypted := by
    cases encrypted
    simp [pack, tag]
    omega

theorem aeadIdeal : AeadIdeal primitives where
  produced {key nonce aad plaintext ciphertext} opened := by
    simp only [primitives, unpack] at opened ⊢
    split at opened
    · rename_i packedBack
      cases opened
      rw [packedBack]
    · cases opened
  binding first second := pack_inj (Option.some.inj (first.trans second.symm))

theorem kdfCollisionFree : KdfCollisionFree primitives where
  hmac_inj same := by
    obtain ⟨sameByte, sameKey⟩ := List.cons.inj (List.cons.inj same).2
    exact ⟨sameKey, sameByte⟩
  fst_inj same := derivation_inj (List.cons.inj same).2
  snd_inj same := derivation_inj (List.cons.inj same).2
  fst_ne_snd same := absurd (List.cons.inj same).1 (by decide)
  hmac_ne_fst same := absurd (List.cons.inj same).1 (by decide)
  hmac_ne_snd same := absurd (List.cons.inj same).1 (by decide)

private theorem zipWith_xor_comm (mine theirs : Bytes) :
    List.zipWith (· ^^^ ·) mine theirs = List.zipWith (· ^^^ ·) theirs mine :=
  List.zipWith_comm_of_comm UInt8.xor_comm

private theorem zipWith_xor_cancel {mine first second : Bytes} (length : first.length = mine.length)
    (length' : second.length = mine.length)
    (same : List.zipWith (· ^^^ ·) mine first = List.zipWith (· ^^^ ·) mine second) :
    first = second := by
  induction mine generalizing first second with
  | nil => rw [List.length_eq_zero_iff.mp length, List.length_eq_zero_iff.mp length']
  | cons byte rest ih =>
    cases first with
    | nil => simp at length
    | cons head tail =>
      cases second with
      | nil => simp at length'
      | cons head' tail' =>
        simp only [List.zipWith_cons_cons, List.cons.injEq] at same
        rw [(UInt8.xor_right_inj byte).mp same.1, ih (by simpa using length) (by simpa using length') same.2]

theorem dhSymbolic : DhSymbolic primitives where
  commutes mine theirs := congrArg (3 :: ·) (zipWith_xor_comm mine.toList theirs.toList)
  injective same :=
    Vector.toList_inj.mp (zipWith_xor_cancel (by simp) (by simp) (List.cons.inj same).2)

theorem original (start : secret.head? ≠ some 1) : Original primitives secret := by
  rintro rootKey dhOut rfl
  exact start rfl

def keyOf (byte : UInt8) : Vector UInt8 32 := Vector.replicate 32 byte

def nonceOf (byte : UInt8) : Nonce := Vector.replicate nonceSize byte

end Rvpn.Crypto.Symbolic
