import Rvpn.Crypto.IdentityKey
import Rvpn.Identity.KnownHosts
import Rvpn.Session.Handshake

/-! The client's side of the handshake, which the source writes once for each kind of tunnel. -/

namespace Rvpn.Client

open Crypto Identity Session

structure ServerIdentityConfig where
  fingerprint : Option String
  trustOnFirstUse : Bool
  strict : Bool
  strictMode : Bool

def ServerIdentityConfig.default : ServerIdentityConfig where
  fingerprint := none
  trustOnFirstUse := true
  strict := true
  strictMode := false

/-- The `known_hosts.json` file. -/
inductive HostsFile where
  | missing
  | unreadable
  | holds (hosts : KnownHosts)

/-- How `save` ends: the file is opened with truncation before it is written. -/
inductive SaveOutcome where
  | saved | notOpened | cutShort
  deriving DecidableEq

/-- `KnownHosts::load(..).unwrap_or_default()`. -/
def HostsFile.load : HostsFile → KnownHosts
  | .missing | .unreadable => .empty
  | .holds hosts => hosts

def HostsFile.save (file : HostsFile) (hosts : KnownHosts) : SaveOutcome → HostsFile
  | .saved => .holds hosts
  | .notOpened => file
  | .cutShort => .unreadable

/-- What a handshake finds around it: SHA-256, the clock's text, and how writing the file
ends. -/
structure Surroundings where
  sha256 : Bytes → Digest
  now : String
  outcome : SaveOutcome

/-- The peer's answer to the Hello, or the path's error when none can be read: the socket is closed, the wait is over,
or it is no binary `HandshakeMessage`. -/
inductive Received where
  | nothing (failure : String)
  | message (message : HandshakeMessage)

structure Wording where
  unexpected : HandshakeMessage → String
  identityLength : String
  prekeyLength : String
  signatureLength : String

def wording (unexpected : String) : Wording where
  unexpected _ := unexpected
  identityLength := "Server identity key has invalid length"
  prekeyLength := "Server signed prekey has invalid length"
  signatureLength := "Prekey signature has invalid length"

structure ServerHello where
  identityKey : Bytes
  signedPrekey : Bytes
  prekeySignature : Bytes

def takeServerHello (unexpected : HandshakeMessage → String) : Received → Except String ServerHello
  | .nothing failure => .error failure
  | .message (.serverHello _ signedPrekey prekeySignature identityKey) =>
    .ok { identityKey, signedPrekey, prekeySignature }
  | .message other => .error (unexpected other)

/-- `as_slice().try_into()`. -/
def arrayOf (n : Nat) (bytes : Bytes) (failure : String) : Except String (Vector UInt8 n) :=
  if sized : bytes.length = n then .ok ⟨bytes.toArray, by simpa using sized⟩ else .error failure

variable {Secret Private : Type} {P : Primitives Secret Private} (ed : Ed25519)

/-- The keys of a ServerHello after the checks on their sizes and on the signature, and
the X25519 identity key of the bundle loaded beforehand. -/
def bundleFromHello (wording : Wording) (serverBundle : X3dhPublicBundle) (hello : ServerHello) :
    Except String X3dhPublicBundle := do
  let identityKey ← arrayOf 32 hello.identityKey wording.identityLength
  let signedPrekey ← arrayOf 32 hello.signedPrekey wording.prekeyLength
  let prekeySignature ← arrayOf 64 hello.prekeySignature wording.signatureLength
  (ed.fromBytes identityKey).mapError ("Invalid server identity key: " ++ ·)
  (ed.verify identityKey signedPrekey.toList prekeySignature).mapError ("Invalid prekey signature: " ++ ·)
  return { identityKey
           identityX25519Key := serverBundle.identityX25519Key
           signedPrekey
           prekeySignature := prekeySignature.toList
           oneTimePrekey := none }

def receiveBundle (wording : Wording) (serverBundle : X3dhPublicBundle) (received : Received) :
    Except String X3dhPublicBundle := do
  let hello ← takeServerHello wording.unexpected received
  bundleFromHello ed wording serverBundle hello

/-- `init_alice` on the agreed secret, with zeros for the key it does not read. -/
def startRatchet (initiator : X3dhInitiator P) (drawn : Private) (bundle : X3dhPublicBundle) :
    DoubleRatchet P :=
  .initAlice drawn (initiator.agree bundle) (Vector.replicate 32 0)

def checkIdentity (around : Surroundings) (config : ServerIdentityConfig) (address : String)
    (bundle : X3dhPublicBundle) (file : HostsFile) : (VerificationResult × Bool) × HostsFile :=
  let (result, proceed, hosts) := verifyServerIdentity around.sha256 around.now address bundle file.load
    config.fingerprint config.trustOnFirstUse config.strictMode
  ((result, proceed), file.save hosts around.outcome)

/-- What `StreamRelay` and `VpnTunnel` make of the verdict. -/
def enforce (strict : Bool) : VerificationResult × Bool → Except String Unit
  | (.mismatch expected got, proceed) =>
    if strict then .error s!"Server identity mismatch! Expected {expected}, got {got}. Connection rejected."
    else if !proceed && strict then .error "Server identity verification failed"
    else .ok ()
  | (_, proceed) => if !proceed && strict then .error "Server identity verification failed" else .ok ()

/-- What `Socks5Tunnel` makes of it: the flag is `strict_mode`. -/
def Socks5Tunnel.enforce (strictMode : Bool) (verdict : VerificationResult × Bool) : Except String Unit :=
  if !verdict.2 && strictMode then .error "Server identity verification failed" else .ok ()

/-- A handshake that checks the server's identity when it is given a configuration. -/
def checkedHandshake (wording : Wording)
    (judge : ServerIdentityConfig → VerificationResult × Bool → Except String Unit)
    (around : Surroundings) (initiator : X3dhInitiator P) (drawn : Private) (serverBundle : X3dhPublicBundle)
    (address : String) (config : Option ServerIdentityConfig) (file : HostsFile) (received : Received) :
    Except String (DoubleRatchet P) × HostsFile :=
  match receiveBundle ed wording serverBundle received with
  | .error failure => (.error failure, file)
  | .ok bundle =>
    match config with
    | none => (.ok (startRatchet initiator drawn bundle), file)
    | some config =>
      let (verdict, file) := checkIdentity around config address bundle file
      match judge config verdict with
      | .error failure => (.error failure, file)
      | .ok () => (.ok (startRatchet initiator drawn bundle), file)

def uncheckedHandshake (wording : Wording) (initiator : X3dhInitiator P) (drawn : Private)
    (serverBundle : X3dhPublicBundle) (received : Received) : Except String (DoubleRatchet P) :=
  (receiveBundle ed wording serverBundle received).map (startRatchet initiator drawn)

def StreamRelay.performHandshake (around : Surroundings) (initiator : X3dhInitiator P) (drawn : Private)
    (serverBundle : X3dhPublicBundle) (host : String) (port : UInt16)
    (config : Option ServerIdentityConfig) (file : HostsFile) (received : Received) :
    Except String (DoubleRatchet P) × HostsFile :=
  checkedHandshake ed (wording "Unexpected handshake message type from server")
    (fun config => enforce config.strict) around initiator drawn serverBundle s!"{host}:{port}" config file
    received

def VpnTunnel.performHandshake (around : Surroundings) (initiator : X3dhInitiator P) (drawn : Private)
    (serverBundle : X3dhPublicBundle) (host : String) (port : UInt16) (config : ServerIdentityConfig)
    (file : HostsFile) (received : Received) : Except String (DoubleRatchet P) × HostsFile :=
  checkedHandshake ed (wording "Unexpected handshake message type from server")
    (fun config => enforce config.strict) around initiator drawn serverBundle s!"{host}:{port}" (some config)
    file received

def Socks5Tunnel.wording : Wording where
  unexpected
    | .error code message => s!"Server rejected handshake: {message} (code {code})"
    | _ => "Unexpected server response"
  identityLength := "Server identity key wrong length"
  prekeyLength := "Server signed prekey wrong length"
  signatureLength := "Prekey signature wrong length"

def Socks5Tunnel.performHandshake (around : Surroundings) (initiator : X3dhInitiator P) (drawn : Private)
    (serverBundle : X3dhPublicBundle) (host : String) (port : UInt16)
    (config : Option ServerIdentityConfig) (file : HostsFile) (received : Received) :
    Except String (DoubleRatchet P) × HostsFile :=
  checkedHandshake ed Socks5Tunnel.wording (fun config => Socks5Tunnel.enforce config.strictMode) around
    initiator drawn serverBundle s!"{host}:{port}" config file received

def dnsHandshake (initiator : X3dhInitiator P) (drawn : Private) (serverBundle : X3dhPublicBundle)
    (received : Received) : Except String (DoubleRatchet P) :=
  uncheckedHandshake ed (wording "Unexpected handshake message from server") initiator drawn serverBundle
    received

/-- `ServerSession::perform_handshake` of the iOS client. -/
def ServerSession.performHandshake (initiator : X3dhInitiator P) (drawn : Private)
    (serverBundle : X3dhPublicBundle) (received : Received) : Except String (DoubleRatchet P) :=
  uncheckedHandshake ed (wording "Unexpected handshake message type from server") initiator drawn
    serverBundle received

def AndroidServerSession.performHandshake (initiator : X3dhInitiator P) (drawn : Private)
    (serverBundle : X3dhPublicBundle) (received : Received) : Except String (DoubleRatchet P) :=
  uncheckedHandshake ed (wording "Unexpected handshake message type from server") initiator drawn
    serverBundle received

variable {ed : Ed25519} {serverBundle bundle : X3dhPublicBundle} {received : Received}

theorem arrayOf_ok {n : Nat} {bytes : Bytes} {failure : String} {array : Vector UInt8 n}
    (sized : arrayOf n bytes failure = .ok array) : array.toList = bytes := by
  unfold arrayOf at sized
  split at sized
  · cases sized
    rfl
  · cases sized

theorem arrayOf_toList (array : Vector UInt8 n) (failure : String) :
    arrayOf n array.toList failure = .ok array := by
  have sized : array.toList.length = n := by simp
  rw [arrayOf, dif_pos sized]
  congr 1

private theorem bind_ok {α β : Type} {first : Except String α} {next : α → Except String β} {result : β}
    (passed : (first >>= next) = .ok result) : ∃ value, first = .ok value ∧ next value = .ok result := by
  cases first with
  | error failure => cases passed
  | ok value => exact ⟨value, rfl, passed⟩

private theorem takeServerHello_ok (taken : takeServerHello unexpected received = .ok hello) :
    ∃ ephemeralKey, received = .message (.serverHello ephemeralKey hello.signedPrekey
      hello.prekeySignature hello.identityKey) := by
  unfold takeServerHello at taken
  split at taken
  · cases taken
  · cases taken
    exact ⟨_, rfl⟩
  · cases taken

theorem receiveBundle_ok {wording : Wording}
    (accepted : receiveBundle ed wording serverBundle received = .ok bundle) :
    ∃ ephemeralKey, received = .message (.serverHello ephemeralKey bundle.signedPrekey.toList
        bundle.prekeySignature bundle.identityKey.toList) ∧
      bundle.identityX25519Key = serverBundle.identityX25519Key ∧ bundle.oneTimePrekey = none := by
  obtain ⟨hello, taken, rebuilt⟩ := bind_ok accepted
  obtain ⟨ephemeralKey, rfl⟩ := takeServerHello_ok taken
  obtain ⟨identityKey, identitySized, rebuilt⟩ := bind_ok rebuilt
  obtain ⟨signedPrekey, prekeySized, rebuilt⟩ := bind_ok rebuilt
  obtain ⟨prekeySignature, signatureSized, rebuilt⟩ := bind_ok rebuilt
  obtain ⟨-, -, rebuilt⟩ := bind_ok rebuilt
  obtain ⟨-, -, rebuilt⟩ := bind_ok rebuilt
  cases rebuilt
  rw [← arrayOf_ok identitySized, ← arrayOf_ok prekeySized, ← arrayOf_ok signatureSized]
  exact ⟨ephemeralKey, rfl, rfl, rfl⟩

end Rvpn.Client
