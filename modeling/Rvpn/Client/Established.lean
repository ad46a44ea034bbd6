import Rvpn.Client.KeyAgreement
import Rvpn.Client.Secrecy
import Rvpn.Crypto.InOrder

/-! From the handshake to the messages: the ratchets that both ends start with are in step. -/

namespace Rvpn.Client

open Crypto Session Transition

variable {Secret : Type} {P : Primitives Secret Seed} {ed : Ed25519}

/-- Messages read in their order decrypt to their plaintexts, in both directions and for every interleaving. -/
def Delivers (start : Conversation P) : Prop :=
  Always Conversation.step start fun final => (∀ message ∈ final.sent, message.ciphertext.length ≤ maxMessageSize) →
    ∀ delivery ∈ final.delivered, delivery.result = .ok delivery.plaintext

/-- A client, on any of its paths, that has accepted the ServerHello of the server whose bundle it has loaded starts
its ratchet from the secret of the server's session, and the two deliver every message. -/
theorem established_session_delivers (correct : AeadCorrect P)
    (commutes : ∀ mine theirs, P.diffieHellman mine (P.publicKey theirs) = P.diffieHellman theirs (P.publicKey mine))
    (clamps : ClampsScalars P) (parties : Parties P ed) (path : ClientPath) (attempt : Attempt P) {drawn : Seed}
    {reply : HandshakeMessage} {session : Session.ServerSession P} {ratchet : DoubleRatchet P}
    (loaded : attempt.serverBundle.identityX25519Key = parties.published.identityX25519Key)
    (answered : performHandshake (some parties.responder) drawn (.hello (hello parties.client parties.ephemeralKey)) =
      (some reply, some session))
    (established : path.performHandshake ed
      { attempt with initiator := parties.initiator, received := .message reply } = .ok ratchet) :
    ∃ secret key, ratchet = .initAlice attempt.drawn secret key ∧ session.ratchet = .initBob drawn secret ∧
      ∀ draws, Delivers (.start secret draws key : Conversation P) := by
  obtain ⟨wording, bundle, accepted, rfl⟩ := ClientPath.performHandshake_ok established
  obtain ⟨prekey, identity, oneTime⟩ := Parties.rebuilt_eq answered accepted
  have agreed := parties.responderSecret_rebuilt commutes clamps prekey (identity.trans loaded) oneTime
  rw [performHandshake_hello] at answered
  cases answered
  refine ⟨_, _, rfl, congrArg (DoubleRatchet.initBob drawn) agreed, fun draws events final reached fits => ?_⟩
  have coupled : (∀ message ∈ final.sent, Conversation.Fits message) → final.Coupled :=
    run_preserves (fun _ _ _ before taken => Conversation.step_coupled correct before taken)
      (fun _ => Conversation.start_coupled _ draws _) reached
  exact (coupled fits).faithful

open Sample in
/-- The iOS client with the sample's server. -/
theorem sample_session_delivers :
    ∃ reply, ∃ session : Session.ServerSession clampedPrimitives, ∃ secret key,
      performHandshake (some parties.responder) (Symbolic.keyOf 6)
        (.hello (hello parties.client parties.ephemeralKey)) = (some reply, some session) ∧
      session.ratchet = .initBob (Symbolic.keyOf 6) secret ∧
      ∀ draws, Delivers (.start secret draws key : Conversation clampedPrimitives) := by
  have answered := performHandshake_hello parties.responder (Symbolic.keyOf 6) parties.client parties.ephemeralKey
  have received := receiveBundle_published signing_correct parties
    (wording "Unexpected handshake message type from server") parties.published []
  let attempt : Attempt clampedPrimitives := ⟨⟨fun _ => Symbolic.keyOf 0, "now", .saved⟩, parties.initiator,
    Symbolic.keyOf 7, parties.published, "vpn.example", 443, .default, .missing, .nothing ""⟩
  have correct : AeadCorrect clampedPrimitives := ⟨Symbolic.aeadCorrect.decrypts, Symbolic.aeadCorrect.tagged⟩
  obtain ⟨secret, key, -, shared, delivers⟩ := established_session_delivers correct
    (fun mine theirs => Symbolic.dhSymbolic.commutes (clamp mine) (clamp theirs)) clampsScalars parties .ios attempt rfl
    answered (congrArg (Except.map (startRatchet parties.initiator attempt.drawn)) received)
  exact ⟨_, _, secret, key, answered, shared, delivers⟩

end Rvpn.Client
