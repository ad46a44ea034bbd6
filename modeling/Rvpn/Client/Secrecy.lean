import Rvpn.Client.IdentityCheck
import Rvpn.Lib.SymbolicDh

/-! What an active attacker, who chooses the ServerHello, needs to have the secret that a client derives. -/

namespace Rvpn.Client

open Crypto Identity Session SymbolicDh

/-- The crate's key derivations: HMAC of a constant byte, and a half of HKDF's output with
or without a salt. -/
inductive Derivation where
  | hmac (byte : UInt8)
  | hkdf (secondHalf salted : Bool) (info : Bytes)

variable {Name : Type} [DecidableEq Name]

/-- How bytes stand for symbolic keys: each private key has its public key, and every 32
bytes are some point, of small order or not. The cipher is arbitrary. -/
structure Reading (Name : Type) [DecidableEq Name] where
  publicKey : Name → PublicKey
  point : PublicKey → Option (Exponent Name)
  point_publicKey : ∀ name, point (publicKey name) = some (scalar name)
  encrypt : Term Name Derivation → Nonce → Bytes → Bytes → Option Bytes
  decrypt : Term Name Derivation → Nonce → Bytes → Bytes → Option Bytes

namespace Reading

def diffieHellman (reading : Reading Name) (mine : Name) (theirs : PublicKey) : Term Name Derivation :=
  match reading.point theirs with
  | none => .zero
  | some exponent => .element (exponent + scalar mine)

def primitives (reading : Reading Name) : Primitives (Term Name Derivation) Name where
  aeadEncrypt := reading.encrypt
  aeadDecrypt := reading.decrypt
  hmac key byte := .derived (.hmac byte) [key]
  hkdf salt ikm info :=
    (.derived (.hkdf false salt.isSome info) (salt.toList ++ ikm),
      .derived (.hkdf true salt.isSome info) (salt.toList ++ ikm))
  publicKey := reading.publicKey
  diffieHellman := reading.diffieHellman

end Reading

inductive ClientPath where
  | desktop (path : DesktopPath)
  | ios
  | android
  deriving DecidableEq

section Paths

variable {Secret Private : Type} {P : Primitives Secret Private} {ed : Ed25519} {wording : Wording}
  {ratchet : DoubleRatchet P}

def ClientPath.performHandshake (ed : Ed25519) (path : ClientPath) (attempt : Attempt P) :
    Except String (DoubleRatchet P) :=
  match path with
  | .desktop path => (path.performHandshake ed attempt).1
  | .ios =>
    ServerSession.performHandshake ed attempt.initiator attempt.drawn attempt.serverBundle attempt.received
  | .android =>
    AndroidServerSession.performHandshake ed attempt.initiator attempt.drawn attempt.serverBundle
      attempt.received

theorem checkedHandshake_ok
    (established : (checkedHandshake ed wording judge around initiator drawn serverBundle address config file
      received).1 = .ok ratchet) :
    ∃ bundle, receiveBundle ed wording serverBundle received = .ok bundle ∧
      ratchet = startRatchet initiator drawn bundle := by
  unfold checkedHandshake at established
  split at established
  · cases established
  · rename_i bundle accepted
    refine ⟨bundle, accepted, ?_⟩
    split at established
    · cases established
      rfl
    · dsimp only at established
      split at established
      · cases established
      · cases established
        rfl

theorem uncheckedHandshake_ok
    (established : uncheckedHandshake ed wording initiator drawn serverBundle received = .ok ratchet) :
    ∃ bundle, receiveBundle ed wording serverBundle received = .ok bundle ∧
      ratchet = startRatchet initiator drawn bundle := by
  unfold uncheckedHandshake at established
  cases accepted : receiveBundle ed wording serverBundle received with
  | error failure =>
    rw [accepted] at established
    cases established
  | ok bundle =>
    rw [accepted] at established
    cases established
    exact ⟨bundle, rfl, rfl⟩

theorem ClientPath.performHandshake_ok {path : ClientPath} {attempt : Attempt P}
    (established : path.performHandshake ed attempt = .ok ratchet) :
    ∃ wording bundle, receiveBundle ed wording attempt.serverBundle attempt.received = .ok bundle ∧
      ratchet = startRatchet attempt.initiator attempt.drawn bundle := by
  cases path with
  | desktop path =>
    cases path with
    | streamRelay | vpnTunnel | socks5Tunnel => exact ⟨_, checkedHandshake_ok established⟩
    | dnsProxy => exact ⟨_, uncheckedHandshake_ok established⟩
  | ios => exact ⟨_, uncheckedHandshake_ok established⟩
  | android => exact ⟨_, uncheckedHandshake_ok established⟩

end Paths

/-- The attacker has been given derived keys only, as many as it likes, but not this one. -/
structure Lacks (attacker : Attacker Name Derivation) (secret : Term Name Derivation) : Prop where
  noElement : ∀ exponent, ¬ attacker.given (.element exponent)
  notGiven : ¬ attacker.given secret

theorem mem_inputs_of_agree {reading : Reading Name} (initiator : X3dhInitiator reading.primitives)
    {bundle : X3dhPublicBundle} (identity : bundle.identityX25519Key = reading.publicKey serverKey) :
    ∃ tag inputs, initiator.agree bundle = .derived tag inputs ∧
      .element (scalar serverKey + scalar initiator.ephemeralKey.privateKey) ∈ inputs := by
  refine ⟨_, _, rfl, ?_⟩
  have mixed : initiator.ephemeralKey.diffieHellman reading.primitives bundle.identityX25519Key =
      .element (scalar serverKey + scalar initiator.ephemeralKey.privateKey) := by
    change reading.diffieHellman _ _ = _
    simp only [Reading.diffieHellman, identity, reading.point_publicKey]
  simp [mixed]

theorem knows_of_derivable_agree {reading : Reading Name} {attacker : Attacker Name Derivation}
    (initiator : X3dhInitiator reading.primitives) {bundle : X3dhPublicBundle}
    (identity : bundle.identityX25519Key = reading.publicKey serverKey)
    (lacks : Lacks attacker (initiator.agree bundle)) (built : Derivable attacker (initiator.agree bundle)) :
    attacker.knows initiator.ephemeralKey.privateKey ∨ attacker.knows serverKey := by
  obtain ⟨tag, inputs, formed, member⟩ := mem_inputs_of_agree initiator identity
  rw [formed] at built lacks
  rcases built.inputs with held | parts
  · exact absurd held lacks.notGiven
  by_contra neither
  obtain ⟨noEphemeral, noServer⟩ := not_or.mp neither
  let hidden : Finset Name := {serverKey, initiator.ephemeralKey.privateKey}
  have unknown : ∀ x ∈ hidden, ¬ attacker.knows x := by
    intro x hidden
    rcases Finset.mem_insert.mp hidden with rfl | ephemeral
    · exact noServer
    · rwa [Finset.mem_singleton.mp ephemeral]
  have low := (parts _ member).degree_le_one unknown fun exponent held =>
    absurd held (lacks.noElement exponent)
  rw [degree_add, degree_scalar, degree_scalar, if_pos (Finset.mem_insert_self _ _),
    if_pos (Finset.mem_insert_of_mem (Finset.mem_singleton_self _))] at low
  exact absurd low (by decide)

/-- On every path, the attacker builds the secret that the client's ratchet starts from only if it knows the client's
ephemeral key or the private key of the loaded bundle's X25519 identity key. -/
theorem secret_needs_ephemeral_or_identity_key (reading : Reading Name) (ed : Ed25519) (path : ClientPath)
    (attempt : Attempt reading.primitives) (serverKey : Name)
    (loaded : attempt.serverBundle.identityX25519Key = reading.publicKey serverKey)
    {ratchet : DoubleRatchet reading.primitives}
    (established : path.performHandshake ed attempt = .ok ratchet) :
    ∃ secret, ratchet = .initAlice attempt.drawn secret (Vector.replicate 32 0) ∧
      ∀ attacker : Attacker Name Derivation, Lacks attacker secret → Derivable attacker secret →
        attacker.knows attempt.initiator.ephemeralKey.privateKey ∨ attacker.knows serverKey := by
  obtain ⟨wording, bundle, accepted, started⟩ := ClientPath.performHandshake_ok established
  obtain ⟨_, _, identity, _⟩ := receiveBundle_ok accepted
  refine ⟨attempt.initiator.agree bundle, started, fun attacker lacks built => ?_⟩
  exact knows_of_derivable_agree attempt.initiator (identity.trans loaded) lacks built

namespace Sample

def reading : Reading UInt8 where
  publicKey := Symbolic.keyOf
  point key := some (scalar key.head)
  point_publicKey name := by simp [Symbolic.keyOf, Vector.head]
  encrypt _ _ _ _ := none
  decrypt _ _ _ _ := none

/-- The client's keys are 2 and 3, the server's is 6, and the attacker signs its own 8. -/
def attackedAttempt : Attempt reading.primitives where
  around := ⟨fun _ => Symbolic.keyOf 0, "now", .saved⟩
  initiator := ⟨2, .generate _ 3⟩
  drawn := 4
  serverBundle := ⟨Symbolic.keyOf 5, Symbolic.keyOf 6, Symbolic.keyOf 7, [], none⟩
  host := "vpn.example"
  port := 443
  config := .default
  file := .missing
  received := .message (.serverHello [] (List.replicate 32 8) (List.replicate 64 9) (List.replicate 32 0xBB))

end Sample

open Sample in
theorem attacker_prekey_is_not_enough :
    ∃ secret, ClientPath.performHandshake trusting .ios attackedAttempt =
        .ok (.initAlice 4 secret (Vector.replicate 32 0)) ∧
      ¬ Derivable ⟨(· = 8), fun _ => False⟩ secret := by
  obtain ⟨secret, started, needs⟩ := secret_needs_ephemeral_or_identity_key reading trusting .ios
    attackedAttempt 6 rfl rfl
  refine ⟨secret, congrArg Except.ok started, fun built => ?_⟩
  have known := needs ⟨(· = 8), fun _ => False⟩ ⟨fun _ => id, id⟩ built
  revert known
  decide

end Rvpn.Client
