import Mathlib.Logic.Function.Iterate

/-! The third-party primitives, taken as parameters. Secret keys stay opaque; what the code compares or measures is
bytes. -/

namespace Rvpn

abbrev Bytes := List UInt8

/-- The bytes of a literal such as `b"R-VPN-v1 X3DH"`. -/
def label (text : String) : Bytes := text.toUTF8.data.toList

namespace Crypto

def nonceSize : Nat := 12
def tagSize : Nat := 16
def maxMessageSize : Nat := 1024 * 1024

abbrev PublicKey := Vector UInt8 32
abbrev Nonce := Vector UInt8 nonceSize

/-- The variants of `crate::Error` the ratchet returns. -/
inductive Error where
  | encryptionFailed (message : String)
  | decryptionFailed (message : String)
deriving DecidableEq, Repr

/-- The `Display` text that `thiserror` derives. -/
def Error.toText : Error → String
  | .encryptionFailed message => s!"encryption failed: {message}"
  | .decryptionFailed message => s!"decryption failed: {message}"

/-- ChaCha20-Poly1305, HMAC-SHA256, HKDF-SHA256 and X25519. `hkdf` takes the
optional salt, the concatenated input key material and the info label, and
returns the first and second 32 bytes of its expansion. -/
structure Primitives (Secret Private : Type) where
  aeadEncrypt : Secret → Nonce → Bytes → Bytes → Option Bytes
  aeadDecrypt : Secret → Nonce → Bytes → Bytes → Option Bytes
  hmac : Secret → UInt8 → Secret
  hkdf : Option Secret → List Secret → Bytes → Secret × Secret
  publicKey : Private → PublicKey
  diffieHellman : Private → PublicKey → Secret

variable {Secret Private : Type} (P : Primitives Secret Private)

/-- Decrypting under the same key, nonce and associated data returns the
plaintext, and a ciphertext carries a tag. -/
structure AeadCorrect : Prop where
  decrypts : ∀ {key nonce aad plaintext ciphertext},
    P.aeadEncrypt key nonce aad plaintext = some ciphertext →
      P.aeadDecrypt key nonce aad ciphertext = some plaintext
  tagged : ∀ {key nonce aad plaintext ciphertext},
    P.aeadEncrypt key nonce aad plaintext = some ciphertext →
      tagSize ≤ ciphertext.length

/-- The ideal AEAD: only what was produced decrypts, and a ciphertext belongs
to one key, nonce, associated data and plaintext. -/
structure AeadIdeal : Prop where
  produced : ∀ {key nonce aad plaintext ciphertext},
    P.aeadDecrypt key nonce aad ciphertext = some plaintext →
      P.aeadEncrypt key nonce aad plaintext = some ciphertext
  binding : ∀ {key nonce aad plaintext key' nonce' aad' plaintext' ciphertext},
    P.aeadEncrypt key nonce aad plaintext = some ciphertext →
      P.aeadEncrypt key' nonce' aad' plaintext' = some ciphertext →
        key = key' ∧ nonce = nonce' ∧ aad = aad' ∧ plaintext = plaintext'

/-- Injective key derivation with domain separation: two derivations give the
same key only when they are the same derivation. -/
structure KdfCollisionFree : Prop where
  hmac_inj : ∀ {key byte key' byte'}, P.hmac key byte = P.hmac key' byte' →
    key = key' ∧ byte = byte'
  fst_inj : ∀ {salt ikm info salt' ikm' info'},
    (P.hkdf salt ikm info).1 = (P.hkdf salt' ikm' info').1 →
      salt = salt' ∧ ikm = ikm' ∧ info = info'
  snd_inj : ∀ {salt ikm info salt' ikm' info'},
    (P.hkdf salt ikm info).2 = (P.hkdf salt' ikm' info').2 →
      salt = salt' ∧ ikm = ikm' ∧ info = info'
  fst_ne_snd : ∀ {salt ikm info salt' ikm' info'},
    (P.hkdf salt ikm info).1 ≠ (P.hkdf salt' ikm' info').2
  hmac_ne_fst : ∀ {key byte salt ikm info}, P.hmac key byte ≠ (P.hkdf salt ikm info).1
  hmac_ne_snd : ∀ {key byte salt ikm info}, P.hmac key byte ≠ (P.hkdf salt ikm info).2

/-- Symbolic Diffie-Hellman: both ends compute one secret, and one private key
gives different secrets with different public keys. -/
structure DhSymbolic : Prop where
  commutes : ∀ mine theirs, P.diffieHellman mine (P.publicKey theirs) =
    P.diffieHellman theirs (P.publicKey mine)
  injective : ∀ {mine first second},
    P.diffieHellman mine first = P.diffieHellman mine second → first = second

/-- `Cipher::encrypt` and `Cipher::encrypt_in_place`. -/
def cipherEncrypt (key : Secret) (nonce : Nonce) (associatedData plaintext : Bytes) :
    Except Error Bytes :=
  match P.aeadEncrypt key nonce associatedData plaintext with
  | some ciphertext => .ok ciphertext
  | none => .error (.encryptionFailed "aead::Error")

/-- `Cipher::decrypt` and `Cipher::decrypt_in_place`. -/
def cipherDecrypt (key : Secret) (nonce : Nonce) (associatedData ciphertext : Bytes) :
    Except Error Bytes :=
  if ciphertext.length < tagSize then
    .error (.decryptionFailed "ciphertext too short")
  else
    match P.aeadDecrypt key nonce associatedData ciphertext with
    | some plaintext => .ok plaintext
    | none => .error (.decryptionFailed "aead::Error")

/-- `EphemeralKey`; `generate` draws the private half and derives the other. -/
structure EphemeralKey where
  privateKey : Private
  publicKey : PublicKey
  derived : publicKey = P.publicKey privateKey

def EphemeralKey.generate (drawn : Private) : EphemeralKey P := ⟨drawn, P.publicKey drawn, rfl⟩

def EphemeralKey.diffieHellman (pair : EphemeralKey P) (other : PublicKey) : Secret :=
  P.diffieHellman pair.privateKey other

/-- `kdf_init`. -/
def kdfInit (sharedSecret : Secret) : Secret × Secret :=
  P.hkdf none [sharedSecret] (label "R-VPN-v1 DoubleRatchet Init")

/-- `kdf_rk_2`: the next root key and the new chain key. -/
def kdfRk2 (rootKey dhOut : Secret) : Secret × Secret :=
  P.hkdf (some rootKey) [dhOut] (label "R-VPN-v1 Ratchet")

/-- `kdf_ck`: the message key and the next chain key. -/
def kdfCk (chainKey : Secret) : Secret × Secret := (P.hmac chainKey 0x01, P.hmac chainKey 0x02)

/-- `derive_shared_secret`. -/
def deriveSharedSecret (dhResults : List Secret) : Secret :=
  (P.hkdf none dhResults (label "R-VPN-v1 X3DH")).1

/-- The chain key after `n` messages. -/
def chainAfter (chainKey : Secret) (n : Nat) : Secret := (fun key => (kdfCk P key).2)^[n] chainKey

variable {P}

theorem cipherEncrypt_ok (closed : cipherEncrypt P key nonce aad plaintext = .ok ciphertext) :
    P.aeadEncrypt key nonce aad plaintext = some ciphertext := by
  unfold cipherEncrypt at closed
  split at closed
  · rename_i produced
    cases closed
    exact produced
  · cases closed

theorem cipherDecrypt_ok (accepted : cipherDecrypt P key nonce aad ciphertext = .ok plaintext) :
    P.aeadDecrypt key nonce aad ciphertext = some plaintext := by
  unfold cipherDecrypt at accepted
  split at accepted
  · cases accepted
  · split at accepted
    · rename_i found
      cases accepted
      exact found
    · cases accepted

theorem AeadCorrect.cipherDecrypt (correct : AeadCorrect P)
    (encrypted : cipherEncrypt P key nonce aad plaintext = .ok ciphertext) :
    Crypto.cipherDecrypt P key nonce aad ciphertext = .ok plaintext := by
  have produced := cipherEncrypt_ok encrypted
  have long : ¬ ciphertext.length < tagSize := Nat.not_lt.mpr (correct.tagged produced)
  simp [Crypto.cipherDecrypt, long, correct.decrypts produced]

@[simp] theorem chainAfter_zero (chainKey : Secret) : chainAfter P chainKey 0 = chainKey := rfl

theorem chainAfter_succ (chainKey : Secret) (n : Nat) :
    chainAfter P chainKey (n + 1) = (kdfCk P (chainAfter P chainKey n)).2 :=
  Function.iterate_succ_apply' _ _ _

theorem chainAfter_add (chainKey : Secret) (m n : Nat) :
    chainAfter P (chainAfter P chainKey m) n = chainAfter P chainKey (m + n) := by
  unfold chainAfter
  rw [Nat.add_comm m n, Function.iterate_add_apply]

end Crypto

end Rvpn
