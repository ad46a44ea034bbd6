import Rvpn.Crypto.KeySchedule

/-! X3DH key agreement. The Ed25519 half of an identity is the verifying key and the signature of the bundles. -/

namespace Rvpn.Crypto

variable {Secret Private : Type} (P : Primitives Secret Private)

structure X3dhPublicBundle where
  identityKey : PublicKey
  identityX25519Key : PublicKey
  signedPrekey : PublicKey
  prekeySignature : Bytes
  oneTimePrekey : Option PublicKey

structure X3dhPrivateBundle (Private : Type) where
  identityKey : PublicKey
  prekeySignature : Bytes
  identityX25519Key : Private
  signedPrekey : Private
  oneTimePrekey : Option Private

structure X3dhInitiator where
  identityX25519Private : Private
  ephemeralKey : EphemeralKey P

namespace X3dhInitiator

variable {P}

def identityX25519Public (initiator : X3dhInitiator P) : PublicKey :=
  P.publicKey initiator.identityX25519Private

def agree (initiator : X3dhInitiator P) (serverBundle : X3dhPublicBundle) : Secret :=
  let dh1 := P.diffieHellman initiator.identityX25519Private serverBundle.signedPrekey
  let dh2 := initiator.ephemeralKey.diffieHellman P serverBundle.identityX25519Key
  let dh3 := initiator.ephemeralKey.diffieHellman P serverBundle.signedPrekey
  let dh4 := serverBundle.oneTimePrekey.map (initiator.ephemeralKey.diffieHellman P)
  deriveSharedSecret P ([dh1, dh2, dh3] ++ dh4.toList)

end X3dhInitiator

namespace X3dhPrivateBundle

/-- `X3DHResponder::agree`. -/
def agree (bundle : X3dhPrivateBundle Private) (clientIdentityX25519 clientEphemeral : PublicKey)
    (usedOneTimePrekey : Bool) : Secret :=
  let dh1 := P.diffieHellman bundle.signedPrekey clientIdentityX25519
  let dh2 := P.diffieHellman bundle.identityX25519Key clientEphemeral
  let dh3 := P.diffieHellman bundle.signedPrekey clientEphemeral
  let dh4 := if usedOneTimePrekey then
      bundle.oneTimePrekey.map fun opk => P.diffieHellman opk clientEphemeral
    else none
  deriveSharedSecret P ([dh1, dh2, dh3] ++ dh4.toList)

/-- `X3DHResponder::get_public_bundle`. -/
def getPublicBundle (bundle : X3dhPrivateBundle Private) : X3dhPublicBundle where
  identityKey := bundle.identityKey
  identityX25519Key := P.publicKey bundle.identityX25519Key
  signedPrekey := P.publicKey bundle.signedPrekey
  prekeySignature := bundle.prekeySignature
  oneTimePrekey := bundle.oneTimePrekey.map P.publicKey

variable {P} (bundle : X3dhPrivateBundle Private)

theorem agree_initiator (commutes : ∀ mine theirs, P.diffieHellman mine (P.publicKey theirs) =
    P.diffieHellman theirs (P.publicKey mine)) (initiator : X3dhInitiator P) :
    bundle.agree P initiator.identityX25519Public initiator.ephemeralKey.publicKey
        bundle.oneTimePrekey.isSome =
      initiator.agree (bundle.getPublicBundle P) := by
  unfold agree X3dhInitiator.agree X3dhInitiator.identityX25519Public getPublicBundle
    EphemeralKey.diffieHellman
  rw [initiator.ephemeralKey.derived, commutes bundle.signedPrekey, commutes bundle.identityX25519Key,
    commutes bundle.signedPrekey]
  cases bundle.oneTimePrekey with
  | none => simp
  | some opk => simp [commutes opk]

theorem agree_inj (dh : DhSymbolic P) (free : KdfCollisionFree P)
    (same : bundle.agree P identity ephemeral false = bundle.agree P identity' ephemeral' false) :
    identity = identity' ∧ ephemeral = ephemeral' := by
  have results := (free.fst_inj same).2.1
  simp only [Bool.false_eq_true, if_false, Option.toList_none, List.append_nil, List.cons.injEq,
    and_true] at results
  exact ⟨dh.injective results.1, dh.injective results.2.1⟩

theorem agree_original (free : KdfCollisionFree P) (identity ephemeral : PublicKey)
    (usedOneTimePrekey : Bool) :
    Original P (bundle.agree P identity ephemeral usedOneTimePrekey) := by
  intro rootKey dhOut same
  have labels := (free.fst_inj same).2.2
  exact absurd labels (by decide)

end X3dhPrivateBundle

end Rvpn.Crypto
