import Rvpn.Crypto.X3dh

/-! Identity keys: an Ed25519 signing key whose seed, clamped, is also the X25519 private
key of the X3DH agreement. -/

namespace Rvpn.Crypto

/-- The 32 bytes of `SigningKey::to_bytes` and of a `StaticSecret`. -/
abbrev Seed := Vector UInt8 32

/-- Ed25519: what a signing key makes, and what `VerifyingKey::from_bytes` and `verify`
answer, with the library's error texts. -/
structure Ed25519 where
  verifyingKey : Seed → PublicKey
  sign : Seed → Bytes → Vector UInt8 64
  fromBytes : PublicKey → Except String Unit
  verify : PublicKey → Bytes → Vector UInt8 64 → Except String Unit

/-- A key pair's verifying key is a point, and its signatures verify under it. -/
structure Ed25519.Correct (ed : Ed25519) : Prop where
  fromBytes : ∀ seed, ed.fromBytes (ed.verifyingKey seed) = .ok ()
  verify : ∀ seed message, ed.verify (ed.verifyingKey seed) message (ed.sign seed message) = .ok ()

/-- The clamping of `ed25519_signing_key_to_x25519_private_key`. -/
def clamp (seed : Seed) : Seed :=
  (seed.set 0 (seed[0] &&& 0b11111000)).set 31 ((seed[31] &&& 0b01111111) ||| 0b01000000)

private theorem clampFirst_idem (byte : UInt8) :
    (byte &&& 0b11111000) &&& 0b11111000 = byte &&& 0b11111000 := by
  rw [UInt8.and_assoc]
  rfl

private theorem clampLast_idem (byte : UInt8) :
    (((byte &&& 0b01111111) ||| 0b01000000) &&& 0b01111111) ||| 0b01000000 =
      (byte &&& 0b01111111) ||| 0b01000000 := by
  have bitwise : ∀ bits : BitVec 8, (((bits &&& 0b01111111) ||| 0b01000000) &&& 0b01111111) ||| 0b01000000 =
      (bits &&& 0b01111111) ||| 0b01000000 := by
    decide
  exact UInt8.toBitVec_inj.mp (bitwise byte.toBitVec)

theorem clamp_clamp (seed : Seed) : clamp (clamp seed) = clamp seed := by
  apply Vector.ext
  intro i inside
  by_cases first : i = 0
  · subst first
    simp [clamp, clampFirst_idem]
  · by_cases last : i = 31
    · subst last
      simp [clamp, clampLast_idem]
    · simp [clamp, Ne.symm first, Ne.symm last]

variable {Secret : Type}

/-- X25519 multiplies with the clamped scalar, whatever bytes the secret holds. -/
structure ClampsScalars (P : Primitives Secret Seed) : Prop where
  publicKey : ∃ multiplyBase : Seed → PublicKey, ∀ seed, P.publicKey seed = multiplyBase (clamp seed)
  diffieHellman : ∃ multiply : Seed → PublicKey → Secret, ∀ seed key,
    P.diffieHellman seed key = multiply (clamp seed) key

theorem ClampsScalars.publicKey_clamp (clamps : ClampsScalars P) (seed : Seed) :
    P.publicKey (clamp seed) = P.publicKey seed := by
  obtain ⟨multiplyBase, multiplied⟩ := clamps.publicKey
  rw [multiplied, multiplied, clamp_clamp]

/-- `IdentityKey`. -/
structure IdentityKey (ed : Ed25519) where
  signingKey : Seed
  verifyingKey : PublicKey
  derived : verifyingKey = ed.verifyingKey signingKey

variable (P : Primitives Secret Seed) {ed : Ed25519}

/-- `IdentityKey::x25519_public_key`: the library gets the seed as it is. -/
def IdentityKey.x25519PublicKey (identity : IdentityKey ed) : PublicKey := P.publicKey identity.signingKey

/-- `X3DHInitiator::from_identity_key`, with the key it generates. -/
def X3dhInitiator.fromIdentityKey (identity : IdentityKey ed) (ephemeralKey : EphemeralKey P) :
    X3dhInitiator P where
  identityX25519Private := clamp identity.signingKey
  ephemeralKey := ephemeralKey

/-- `X3DHResponder::from_identity_with_bundle`, and the one-time prekey that
`generate_one_time_prekey` may add. The signature is the one `get_public_bundle` makes. -/
def X3dhPrivateBundle.fromIdentity (identity : IdentityKey ed) (signedPrekey : Seed)
    (oneTimePrekey : Option Seed) : X3dhPrivateBundle Seed where
  identityKey := identity.verifyingKey
  prekeySignature := (ed.sign identity.signingKey (P.publicKey signedPrekey).toList).toList
  identityX25519Key := clamp identity.signingKey
  signedPrekey := signedPrekey
  oneTimePrekey := oneTimePrekey

variable {P}

theorem ClampsScalars.x25519PublicKey_eq (clamps : ClampsScalars P) (identity : IdentityKey ed)
    (ephemeralKey : EphemeralKey P) :
    identity.x25519PublicKey P = (X3dhInitiator.fromIdentityKey P identity ephemeralKey).identityX25519Public :=
  (clamps.publicKey_clamp identity.signingKey).symm

end Rvpn.Crypto
