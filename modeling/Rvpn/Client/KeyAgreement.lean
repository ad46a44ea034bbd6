import Rvpn.Client.Handshake
import Rvpn.Crypto.Symbolic

/-! The two ends of a handshake agree on one secret, from the published bundle and from
the bundle that the client rebuilds. -/

namespace Rvpn.Client

open Crypto Session

variable {Secret : Type} {P : Primitives Secret Seed} {ed : Ed25519}

/-- The Hello that every path sends: its identity key is `x25519_public_key()`. -/
def hello (identity : IdentityKey ed) (ephemeralKey : EphemeralKey P) : Hello where
  version := .current
  authMethod := .x3dh
  ephemeralKey := some ephemeralKey.publicKey.toList
  identityKey := some (identity.x25519PublicKey P).toList
  sessionToken := none
  connectionNonce := none

theorem performHandshake_hello (responder : X3dhPrivateBundle Seed) (drawn : Seed)
    (identity : IdentityKey ed) (ephemeralKey : EphemeralKey P) :
    performHandshake (some responder) drawn (.hello (hello identity ephemeralKey)) =
      (some (.serverHello [] (responder.getPublicBundle P).signedPrekey.toList
          (responder.getPublicBundle P).prekeySignature (responder.getPublicBundle P).identityKey.toList),
        some (⟨identity.x25519PublicKey P, ephemeralKey.publicKey,
          .initBob drawn (responder.agree P (identity.x25519PublicKey P) ephemeralKey.publicKey false)⟩ :
            Session.ServerSession P)) := by
  simp [performHandshake, hello, ProtocolVersion.isCompatibleWith, keyOfBytes_toList]

theorem agree_congr (initiator : X3dhInitiator P)
    (identity : first.identityX25519Key = second.identityX25519Key)
    (prekey : first.signedPrekey = second.signedPrekey) (oneTime : first.oneTimePrekey = second.oneTimePrekey) :
    initiator.agree first = initiator.agree second := by
  unfold X3dhInitiator.agree
  rw [identity, prekey, oneTime]

structure Parties (P : Primitives Secret Seed) (ed : Ed25519) where
  client : IdentityKey ed
  ephemeralKey : EphemeralKey P
  server : IdentityKey ed
  signedPrekey : Seed
  oneTimePrekey : Option Seed

namespace Parties

def initiator (parties : Parties P ed) : X3dhInitiator P := .fromIdentityKey P parties.client parties.ephemeralKey

def responder (parties : Parties P ed) : X3dhPrivateBundle Seed :=
  .fromIdentity P parties.server parties.signedPrekey parties.oneTimePrekey

abbrev published (parties : Parties P ed) : X3dhPublicBundle := parties.responder.getPublicBundle P

def responderSecret (parties : Parties P ed) (usedOneTimePrekey : Bool) : Secret :=
  parties.responder.agree P (parties.client.x25519PublicKey P) parties.ephemeralKey.publicKey usedOneTimePrekey

variable {parties : Parties P ed}

theorem responderSecret_eq (commutes : ∀ mine theirs, P.diffieHellman mine (P.publicKey theirs) =
    P.diffieHellman theirs (P.publicKey mine)) (clamps : ClampsScalars P) (parties : Parties P ed) :
    parties.responderSecret parties.published.oneTimePrekey.isSome =
      parties.initiator.agree parties.published := by
  have counted : parties.published.oneTimePrekey.isSome = parties.responder.oneTimePrekey.isSome :=
    Option.isSome_map
  rw [counted, responderSecret, clamps.x25519PublicKey_eq parties.client parties.ephemeralKey]
  exact parties.responder.agree_initiator commutes parties.initiator

/-- A bundle with the server's keys and no one-time prekey is that of a server that has none, and the responder then
does not look at its own. -/
theorem responderSecret_rebuilt (commutes : ∀ mine theirs, P.diffieHellman mine (P.publicKey theirs) =
    P.diffieHellman theirs (P.publicKey mine)) (clamps : ClampsScalars P) (parties : Parties P ed)
    (prekey : rebuilt.signedPrekey = parties.published.signedPrekey)
    (identity : rebuilt.identityX25519Key = parties.published.identityX25519Key)
    (oneTime : rebuilt.oneTimePrekey = none) :
    parties.responderSecret false = parties.initiator.agree rebuilt := by
  have plain := responderSecret_eq commutes clamps { parties with oneTimePrekey := none }
  have same : parties.initiator.agree rebuilt = parties.initiator.agree
      { parties with oneTimePrekey := none : Parties P ed }.published :=
    agree_congr parties.initiator identity prekey oneTime
  rw [same]
  exact plain

theorem rebuilt_eq {wording : Wording} {loaded rebuilt : X3dhPublicBundle} {reply : HandshakeMessage}
    {drawn : Seed} {session : Session.ServerSession P}
    (answered : performHandshake (some parties.responder) drawn
      (.hello (hello parties.client parties.ephemeralKey)) = (some reply, some session))
    (received : receiveBundle ed wording loaded (.message reply) = .ok rebuilt) :
    rebuilt.signedPrekey = parties.published.signedPrekey ∧
      rebuilt.identityX25519Key = loaded.identityX25519Key ∧ rebuilt.oneTimePrekey = none := by
  rw [performHandshake_hello] at answered
  obtain ⟨ephemeralKey, sent, identity, oneTime⟩ := receiveBundle_ok received
  cases answered
  simp only [Received.message.injEq, HandshakeMessage.serverHello.injEq] at sent
  exact ⟨Vector.toList_inj.mp sent.2.1.symm, identity, oneTime⟩

end Parties

/-- Both ends derive one secret, with and without a one-time prekey, from the published bundle; and so they do when
the client rebuilds the bundle from the ServerHello and the X25519 identity key it has loaded, where the server's
session starts from that secret. -/
theorem both_ends_derive_one_secret
    (commutes : ∀ mine theirs, P.diffieHellman mine (P.publicKey theirs) =
      P.diffieHellman theirs (P.publicKey mine))
    (clamps : ClampsScalars P) (parties : Parties P ed) :
    parties.responderSecret parties.published.oneTimePrekey.isSome =
      parties.initiator.agree parties.published ∧
    ∀ (drawn : Seed) (wording : Wording) (loaded rebuilt : X3dhPublicBundle) (reply : HandshakeMessage)
      (session : Session.ServerSession P),
      loaded.identityX25519Key = parties.published.identityX25519Key →
      performHandshake (some parties.responder) drawn (.hello (hello parties.client parties.ephemeralKey)) =
        (some reply, some session) →
      receiveBundle ed wording loaded (.message reply) = .ok rebuilt →
        parties.responderSecret rebuilt.oneTimePrekey.isSome = parties.initiator.agree rebuilt ∧
          session.ratchet = .initBob drawn (parties.initiator.agree rebuilt) := by
  refine ⟨parties.responderSecret_eq commutes clamps, ?_⟩
  intro drawn wording loaded rebuilt reply session own answered received
  obtain ⟨prekey, identity, oneTime⟩ := Parties.rebuilt_eq answered received
  have agreed := parties.responderSecret_rebuilt commutes clamps prekey (identity.trans own) oneTime
  refine ⟨by rw [oneTime]; exact agreed, ?_⟩
  rw [performHandshake_hello] at answered
  cases answered
  rw [← agreed]
  rfl

theorem receiveBundle_published (correct : ed.Correct) (parties : Parties P ed) (wording : Wording)
    (loaded : X3dhPublicBundle) (ephemeralKey : Bytes) :
    receiveBundle ed wording loaded (.message (.serverHello ephemeralKey parties.published.signedPrekey.toList
        parties.published.prekeySignature parties.published.identityKey.toList)) =
      .ok { parties.published with identityX25519Key := loaded.identityX25519Key, oneTimePrekey := none } := by
  have point : ed.fromBytes parties.server.verifyingKey = .ok () := by
    rw [parties.server.derived]
    exact correct.fromBytes _
  have verified : ed.verify parties.server.verifyingKey (P.publicKey parties.signedPrekey).toList
      (ed.sign parties.server.signingKey (P.publicKey parties.signedPrekey).toList) = .ok () := by
    rw [parties.server.derived]
    exact correct.verify _ _
  simp only [receiveBundle, takeServerHello, bundleFromHello, Parties.published, Parties.responder,
    X3dhPrivateBundle.getPublicBundle, X3dhPrivateBundle.fromIdentity, arrayOf_toList, bind, Except.bind,
    point, verified, Except.mapError, pure, Except.pure]

namespace Sample

open Symbolic (keyOf)

def clampedPrimitives : Primitives Bytes Seed :=
  { Symbolic.primitives with
    publicKey := clamp
    diffieHellman := fun mine theirs => Symbolic.primitives.diffieHellman (clamp mine) theirs }

theorem clampsScalars : ClampsScalars clampedPrimitives :=
  ⟨⟨id, fun _ => rfl⟩, ⟨Symbolic.primitives.diffieHellman, fun _ _ => rfl⟩⟩

def signing : Ed25519 where
  verifyingKey := clamp
  sign _ _ := Vector.replicate 64 0
  fromBytes _ := .ok ()
  verify _ _ _ := .ok ()

theorem signing_correct : signing.Correct := ⟨fun _ => rfl, fun _ _ => rfl⟩

def parties : Parties clampedPrimitives signing where
  client := ⟨keyOf 1, _, rfl⟩
  ephemeralKey := .generate _ (keyOf 2)
  server := ⟨keyOf 3, _, rfl⟩
  signedPrekey := keyOf 4
  oneTimePrekey := some (keyOf 5)

end Sample

open Sample in
theorem sample_parties_derive_one_secret :
    parties.responderSecret true = parties.initiator.agree parties.published ∧
      ∃ (reply : HandshakeMessage) (session : Session.ServerSession clampedPrimitives)
        (rebuilt : X3dhPublicBundle),
        performHandshake (some parties.responder) (Symbolic.keyOf 6)
          (.hello (hello parties.client parties.ephemeralKey)) = (some reply, some session) ∧
        receiveBundle signing (wording "") parties.published (.message reply) = .ok rebuilt ∧
        session.ratchet = .initBob (Symbolic.keyOf 6) (parties.initiator.agree rebuilt) := by
  have derived := both_ends_derive_one_secret
    (fun mine theirs => Symbolic.dhSymbolic.commutes (clamp mine) (clamp theirs)) clampsScalars parties
  have answered := performHandshake_hello parties.responder (Symbolic.keyOf 6) parties.client
    parties.ephemeralKey
  have received := receiveBundle_published signing_correct parties (wording "") parties.published []
  exact ⟨derived.1, _, _, _, answered, received, (derived.2 _ _ _ _ _ _ rfl answered received).2⟩

end Rvpn.Client
