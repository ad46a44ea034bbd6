import Rvpn.Crypto.IdentityKey
import Rvpn.Identity.KnownHosts
import Rvpn.Lib.BigEndian

/-! The rotation of a server's identity key; no caller checks its signature. -/

namespace Rvpn.Identity

open Crypto (Ed25519 PublicKey X3dhPublicBundle)

/-- `X3DHPublicBundle` with the two fields that a rotation uses. -/
structure VersionedBundle extends X3dhPublicBundle where
  identityKeyVersion : UInt32
  rotationSignature : Option (Vector UInt8 64)

inductive RotationError where
  | invalidKey (message : String)
  | handshakeFailed (message : String)
  deriving DecidableEq

def identityKeyLen : Nat := 32

def rotationSignatureMessage (newIdentityPub : Bytes) (newVersion : UInt32) : Bytes :=
  newIdentityPub ++ LittleEndian.encode 4 newVersion.toNat

def verifyRotationSignature (ed : Ed25519) (prevIdentityPub : Bytes) (prevVersion : UInt32) (newIdentityPub : Bytes)
    (newVersion : UInt32) (rotationSignature : Vector UInt8 64) : Except RotationError Unit :=
  match digestOf prevIdentityPub with
  | none =>
    let size := prevIdentityPub.length
    .error (.invalidKey s!"previous identity key must be {identityKeyLen} bytes, got {size}")
  | some key =>
    let size := newIdentityPub.length
    if size ≠ identityKeyLen then
      .error (.invalidKey s!"new identity key must be {identityKeyLen} bytes, got {size}")
    else if newVersion ≠ prevVersion + 1 then
      .error (.handshakeFailed s!"rotation version must bump by 1 (prev={prevVersion}, new={newVersion})")
    else
      match ed.fromBytes key with
      | .error failure => .error (.invalidKey s!"previous identity key is not a valid Ed25519 point: {failure}")
      | .ok () =>
        match ed.verify key (rotationSignatureMessage newIdentityPub newVersion) rotationSignature with
        | .error failure => .error (.handshakeFailed s!"rotation signature invalid: {failure}")
        | .ok () => .ok ()

variable {ed : Ed25519} {previous : PublicKey} {version : UInt32}

theorem verifyRotationSignature_eq_ok_iff {key : PublicKey} :
    verifyRotationSignature ed previous.toList version key.toList newVersion signature = .ok () ↔
      newVersion = version + 1 ∧ ed.fromBytes previous = .ok () ∧
        ed.verify previous (rotationSignatureMessage key.toList newVersion) signature = .ok () := by
  have sized : ¬ key.toList.length ≠ identityKeyLen := by simp [identityKeyLen]
  simp only [verifyRotationSignature, digestOf_toList, if_neg sized]
  by_cases bumped : newVersion = version + 1
  · rw [if_neg (not_not_intro bumped)]
    cases ed.fromBytes previous <;>
      cases ed.verify previous (rotationSignatureMessage key.toList newVersion) signature <;> simp [bumped]
  · simp [bumped]

namespace VersionedBundle

/-- The bundle carries a signature over its key and version that is valid under the previous key. -/
def Chained (ed : Ed25519) (previous : PublicKey) (version : UInt32) (bundle : VersionedBundle) : Prop :=
  ∃ signature, bundle.rotationSignature = some signature ∧ verifyRotationSignature ed previous.toList version
    bundle.identityKey.toList bundle.identityKeyVersion signature = .ok ()

theorem chained_of_sign (correct : ed.Correct) {bundle : VersionedBundle}
    (bumped : bundle.identityKeyVersion = version + 1) (signed : bundle.rotationSignature =
      some (ed.sign seed (rotationSignatureMessage bundle.identityKey.toList bundle.identityKeyVersion))) :
    bundle.Chained ed (ed.verifyingKey seed) version :=
  ⟨_, signed, verifyRotationSignature_eq_ok_iff.mpr ⟨bumped, correct.fromBytes seed, correct.verify seed _⟩⟩

end VersionedBundle

/-- What a rotation is to do to the pin of an address: replace it if the signature is valid, and otherwise neither
replace it nor let the client go on. -/
def RotationHonoured (sha256 : Bytes → Digest) (serverAddress : String) (bundle : VersionedBundle) (chained : Prop)
    (before : KnownHosts) (proceed : Bool) (after : KnownHosts) : Prop :=
  (chained → proceed = true ∧
    after.getFingerprint serverAddress = some (encodeIdentityPin sha256 bundle.identityKey)) ∧
  (¬ chained → proceed = false ∧ after.getFingerprint serverAddress = before.getFingerprint serverAddress)

section verification

variable {sha256 : Bytes → Digest} {serverAddress : String} {bundle : X3dhPublicBundle} {hosts : KnownHosts}

theorem verifyConfigured_proceeds_iff (expected : String) : (verifyConfigured sha256 bundle expected).2 = true ↔
    pinsMatch sha256 expected bundle.identityKey = .ok true := by
  unfold verifyConfigured
  cases pinsMatch sha256 expected bundle.identityKey with
  | error failure => simp
  | ok matched => cases matched <;> simp

/-- A pin that stays as it is honours the rotation exactly if the client goes on with a valid signature only, and the
new key has the old one's digest then. -/
theorem rotationHonoured_iff {bundle : VersionedBundle} {after : KnownHosts}
    (pinned : hosts.getFingerprint serverAddress = some (encodeIdentityPin sha256 previous))
    (proceeds : proceed = true ↔ goes)
    (kept : after.getFingerprint serverAddress = some (encodeIdentityPin sha256 previous)) :
    RotationHonoured sha256 serverAddress bundle chained hosts proceed after ↔
      (chained → sha256 previous.toList = sha256 bundle.identityKey.toList) ∧ (chained ↔ goes) := by
  have samePin : some (encodeIdentityPin sha256 previous) = some (encodeIdentityPin sha256 bundle.identityKey) ↔
      sha256 previous.toList = sha256 bundle.identityKey.toList := by
    rw [Option.some_inj, encodeIdentityPin, encodeIdentityPin, canonicalText_inj]
  rw [RotationHonoured, kept, pinned, samePin, proceeds, ← Bool.not_eq_true, proceeds]
  constructor
  · rintro ⟨accepted, refused⟩
    refine ⟨fun chained => (accepted chained).2, fun chained => (accepted chained).1, fun goes => ?_⟩
    by_contra broken
    exact (refused broken).1 goes
  · rintro ⟨same, decides⟩
    exact ⟨fun chained => ⟨decides.mp chained, same chained⟩, fun broken => ⟨fun goes => broken (decides.mpr goes), rfl⟩⟩

end verification

/-- Only digests decide. With the previous key's pin in the store, the rotation is honoured exactly if the signature's
verdict happens to agree with them; with a pin in the configuration, that one decides about going on. -/
theorem rotation_honoured_iff (ed : Ed25519) (sha256 : Bytes → Digest) (now serverAddress : String)
    (previous : PublicKey) (version : UInt32) (bundle : VersionedBundle) (hosts : KnownHosts)
    (configFingerprint : Option String) (trustOnFirstUse strictMode : Bool)
    (pinned : hosts.getFingerprint serverAddress = some (encodeIdentityPin sha256 previous)) :
    let verdict := verifyServerIdentity sha256 now serverAddress bundle.toX3dhPublicBundle hosts configFingerprint
      trustOnFirstUse strictMode
    RotationHonoured sha256 serverAddress bundle (bundle.Chained ed previous version) hosts verdict.2.1 verdict.2.2 ↔
      (bundle.Chained ed previous version → sha256 previous.toList = sha256 bundle.identityKey.toList) ∧
      (bundle.Chained ed previous version ↔
        match configFingerprint with
        | none => sha256 previous.toList = sha256 bundle.identityKey.toList
        | some expected => pinsMatch sha256 expected bundle.identityKey = .ok true) := by
  cases configFingerprint with
  | none =>
    have parsed : parsePin (encodeIdentityPin sha256 previous) = .ok ⟨pinVersion, sha256 previous.toList⟩ :=
      parsePin_canonicalText _
    have stored := verifyStored_of_parsePin sha256 parsed now bundle.toX3dhPublicBundle pinned
    simp only [verifyServerIdentity, pinned]
    exact rotationHonoured_iff pinned stored.1 stored.2
  | some expected => exact rotationHonoured_iff pinned (verifyConfigured_proceeds_iff expected) pinned

namespace RotationSample

def trusting : Ed25519 := ⟨fun seed => seed, fun _ _ => .replicate 64 0, fun _ => .ok (), fun _ _ _ => .ok ()⟩

def firstByte (bytes : Bytes) : Digest := .replicate 32 (bytes.headD 0)

def oldKey : PublicKey := .replicate 32 1

def store : KnownHosts := ⟨fun _ => some ⟨encodeIdentityPin firstByte oldKey, "then", "then"⟩⟩

def rotated (signature : Option (Vector UInt8 64)) : VersionedBundle :=
  ⟨⟨.replicate 32 2, .replicate 32 3, .replicate 32 4, [], none⟩, 2, signature⟩

end RotationSample

open RotationSample in
/-- Without a signature the client does not go on, and its pin stays. -/
theorem unsigned_rotation_refused : RotationHonoured firstByte "vpn.example" (rotated none)
    ((rotated none).Chained trusting oldKey 1) store
    (verifyServerIdentity firstByte "now" "vpn.example" (rotated none).toX3dhPublicBundle store none true false).2.1
    (verifyServerIdentity firstByte "now" "vpn.example" (rotated none).toX3dhPublicBundle store none true false).2.2 := by
  have unsigned : ¬ (rotated none).Chained trusting oldKey 1 := fun ⟨_, signed, _⟩ => nomatch signed
  refine (rotation_honoured_iff trusting firstByte "now" "vpn.example" oldKey 1 (rotated none) store none true false
    rfl).mpr ⟨fun chained => absurd chained unsigned, fun chained => absurd chained unsigned, fun same => ?_⟩
  exact absurd same (by decide)

open RotationSample in
/-- The signature is valid, and still the client does not go on and keeps the old key's pin. -/
theorem signed_rotation_refused : (rotated (some (.replicate 64 0))).Chained trusting oldKey 1 ∧
    verifyServerIdentity firstByte "now" "vpn.example" (rotated (some (.replicate 64 0))).toX3dhPublicBundle store none
      true false =
      (.mismatch (encodeIdentityPin firstByte oldKey) (encodeIdentityPin firstByte (.replicate 32 2)), false, store) := by
  have correct : trusting.Correct := ⟨fun _ => rfl, fun _ _ => rfl⟩
  have pinned : store.getFingerprint "vpn.example" = some (encodeIdentityPin firstByte oldKey) := rfl
  have mismatched : pinsMatch firstByte (encodeIdentityPin firstByte oldKey) (.replicate 32 2) = .ok false :=
    pinsMatch_of_parsePin firstByte (parsePin_canonicalText (firstByte oldKey.toList)) (.replicate 32 2)
  have shown : canonicaliseForDisplay (encodeIdentityPin firstByte oldKey) = encodeIdentityPin firstByte oldKey := by
    rw [canonicaliseForDisplay, encodeIdentityPin, parsePin_canonicalText]
    rfl
  refine ⟨VersionedBundle.chained_of_sign correct rfl rfl, ?_⟩
  simp only [verifyServerIdentity, pinned, verifyStored, rotated, mismatched, shown]
  rfl

end Rvpn.Identity
