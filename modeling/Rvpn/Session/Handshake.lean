import Rvpn.Crypto.X3dh

/-! The server's side of the handshake, from the parsed first message on. -/

namespace Rvpn.Session

open Crypto

structure ProtocolVersion where
  major : UInt8
  minor : UInt8
  patch : UInt8

def ProtocolVersion.current : ProtocolVersion := ⟨1, 0, 0⟩

def ProtocolVersion.isCompatibleWith (version other : ProtocolVersion) : Bool :=
  version.major == other.major

inductive AuthMethod where
  | x3dh
  | noise
  | token
deriving DecidableEq

structure Hello where
  version : ProtocolVersion
  authMethod : AuthMethod
  ephemeralKey : Option Bytes
  identityKey : Option Bytes
  sessionToken : Option Bytes
  connectionNonce : Option Bytes

inductive HandshakeMessage where
  | hello (hello : Hello)
  | serverHello (ephemeralKey signedPrekey prekeySignature identityKey : Bytes)
  | clientAuth (encryptedData : Bytes) (identity : Option Bytes)
  | serverAccept (sessionId sessionToken : Bytes) (serverTime : UInt64)
  | error (code : UInt16) (message : String)

/-- `Some(key) if key.len() == 32`. -/
def keyOfBytes (bytes : Option Bytes) : Option PublicKey :=
  bytes.bind fun key => if sized : key.length = 32 then some ⟨key.toArray, sized⟩ else none

variable {Secret Private : Type} (P : Primitives Secret Private)

/-- A session the server has opened: the Hello's keys and its ratchet. -/
structure ServerSession where
  clientIdentity : PublicKey
  clientEphemeral : PublicKey
  ratchet : DoubleRatchet P

variable {P}

/-- The message the server sends back, if any, and the session it opens. The
Hello's `session_token` and `connection_nonce` are not read. -/
def performHandshake (responder : Option (X3dhPrivateBundle Private)) (drawn : Private) :
    HandshakeMessage → Option HandshakeMessage × Option (ServerSession P)
  | .hello hello =>
    if !hello.version.isCompatibleWith .current then
      (some (.error 1 "Protocol version mismatch"), none)
    else if hello.authMethod ≠ .x3dh then
      (some (.error 2 "Unsupported authentication method"), none)
    else
      match responder with
      | none => (some (.error 3 "X3DH not available"), none)
      | some bundle =>
        match keyOfBytes hello.ephemeralKey with
        | none => (none, none)
        | some clientEphemeral =>
          match keyOfBytes hello.identityKey with
          | none => (none, none)
          | some clientIdentity =>
            let sharedSecret := bundle.agree P clientIdentity clientEphemeral false
            let publicBundle := bundle.getPublicBundle P
            (some (.serverHello [] publicBundle.signedPrekey.toList publicBundle.prekeySignature
                publicBundle.identityKey.toList),
              some ⟨clientIdentity, clientEphemeral, .initBob drawn sharedSecret⟩)
  | _ => (none, none)

def clientHello (initiator : X3dhInitiator P) : Hello where
  version := .current
  authMethod := .x3dh
  ephemeralKey := some initiator.ephemeralKey.publicKey.toList
  identityKey := some initiator.identityX25519Public.toList
  sessionToken := none
  connectionNonce := none

theorem performHandshake_session {bundle : X3dhPrivateBundle Private} {session : ServerSession P}
    (opened : (performHandshake (some bundle) drawn message).2 = some session) :
    ∃ hello, message = .hello hello ∧ keyOfBytes hello.ephemeralKey = some session.clientEphemeral ∧
      keyOfBytes hello.identityKey = some session.clientIdentity ∧
      session.ratchet =
        .initBob drawn (bundle.agree P session.clientIdentity session.clientEphemeral false) := by
  cases message with
  | hello hello =>
    refine ⟨hello, rfl, ?_⟩
    by_cases compatible : hello.version.isCompatibleWith .current = true
    · by_cases method : hello.authMethod = .x3dh
      · cases ephemeral : keyOfBytes hello.ephemeralKey with
        | none => simp [performHandshake, compatible, method, ephemeral] at opened
        | some clientEphemeral =>
          cases identity : keyOfBytes hello.identityKey with
          | none => simp [performHandshake, compatible, method, ephemeral, identity] at opened
          | some clientIdentity =>
            simp only [performHandshake, compatible, method, ephemeral, identity, Bool.not_true,
              Bool.false_eq_true, ne_eq, not_true_eq_false, if_false, Option.some.injEq] at opened
            subst opened
            exact ⟨rfl, rfl, rfl⟩
      · simp [performHandshake, compatible, method] at opened
    · simp [performHandshake, compatible] at opened
  | serverHello => cases opened
  | clientAuth => cases opened
  | serverAccept => cases opened
  | error => cases opened

theorem keyOfBytes_toList (key : PublicKey) : keyOfBytes (some key.toList) = some key := by
  have sized : key.toList.length = 32 := by simp
  simp only [keyOfBytes, Option.bind_some, sized, dif_pos, Option.some.injEq]
  exact Vector.toList_inj.mp (by simp)

end Rvpn.Session
