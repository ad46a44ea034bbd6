import Rvpn.Crypto.Primitives
import Rvpn.Lib.LruCache

/-! `DoubleRatchet`. A method returns its result and the state it leaves, also after an error. Randomness is an
argument; message numbers wrap as in a release build. -/

namespace Rvpn.Crypto

def maxSkip : Nat := 1000

structure MessageHeader where
  dhPublic : Option PublicKey
  messageNumber : UInt32
  previousChainLength : UInt32
  payloadType : UInt8
deriving DecidableEq

/-- `u32::to_be_bytes`. -/
def toBeBytes (n : UInt32) : Bytes :=
  [(n >>> 24).toUInt8, (n >>> 16).toUInt8, (n >>> 8).toUInt8, n.toUInt8]

def MessageHeader.toBytes (header : MessageHeader) : Bytes :=
  (if header.dhPublic.isSome then 1 else 0) ::
    ((match header.dhPublic with
      | some dh => dh.toList
      | none => []) ++
      toBeBytes header.messageNumber ++ toBeBytes header.previousChainLength ++ [header.payloadType])

/-- `RatchetMessage`, and `RatchetMessageRef` with the ciphertext it borrows. -/
structure RatchetMessage where
  header : MessageHeader
  nonce : Nonce
  ciphertext : Bytes
deriving DecidableEq

def RatchetMessage.lookupKey (message : RatchetMessage) : Bytes × UInt32 :=
  (message.header.toBytes, message.header.messageNumber)

variable {Secret Private : Type}

/-- Both constructors establish `paired` and every method keeps it, so the `expect("Need DH pair for ratchet")` of the
source cannot fail. -/
structure DoubleRatchet (P : Primitives Secret Private) where
  dhPair : Option (EphemeralKey P)
  remoteDhKey : Option PublicKey
  previousRemoteDhKey : Option PublicKey
  rootKey : Secret
  sendingChainKey : Option Secret
  receivingChainKey : Option Secret
  sendMessageNumber : UInt32
  recvMessageNumber : UInt32
  previousChainLength : UInt32
  skippedKeys : LruCache (Bytes × UInt32) Secret
  paired : dhPair.isSome = true

variable {P : Primitives Secret Private}

namespace DoubleRatchet

def initAlice (drawn : Private) (sharedSecret : Secret) (_serverPublicKey : PublicKey) :
    DoubleRatchet P where
  dhPair := some (.generate P drawn)
  remoteDhKey := none
  previousRemoteDhKey := none
  rootKey := sharedSecret
  sendingChainKey := some (kdfInit P sharedSecret).1
  receivingChainKey := some (kdfInit P sharedSecret).2
  sendMessageNumber := 0
  recvMessageNumber := 0
  previousChainLength := 0
  skippedKeys := .new maxSkip
  paired := rfl

def initBob (drawn : Private) (sharedSecret : Secret) : DoubleRatchet P where
  dhPair := some (.generate P drawn)
  remoteDhKey := none
  previousRemoteDhKey := none
  rootKey := sharedSecret
  sendingChainKey := some (kdfInit P sharedSecret).2
  receivingChainKey := some (kdfInit P sharedSecret).1
  sendMessageNumber := 0
  recvMessageNumber := 0
  previousChainLength := 0
  skippedKeys := .new maxSkip
  paired := rfl

def getDhPublicKey (ratchet : DoubleRatchet P) : Option PublicKey :=
  ratchet.dhPair.map (·.publicKey)

def nextHeader (ratchet : DoubleRatchet P) (payloadType : UInt8) : MessageHeader where
  dhPublic := ratchet.getDhPublicKey
  messageNumber := ratchet.sendMessageNumber
  previousChainLength := ratchet.previousChainLength
  payloadType := payloadType

def payloadTypeOf (associatedData : Bytes) : UInt8 := associatedData.head?.getD 0

def encrypt (ratchet : DoubleRatchet P) (nonce : Nonce) (plaintext associatedData : Bytes) :
    Except Error RatchetMessage × DoubleRatchet P :=
  match ratchet.sendingChainKey with
  | none => (.error (.encryptionFailed "No sending chain"), ratchet)
  | some chainKey =>
    let (messageKey, nextChainKey) := kdfCk P chainKey
    let payloadType := payloadTypeOf associatedData
    match cipherEncrypt P messageKey nonce [payloadType] plaintext with
    | .error failure => (.error (.encryptionFailed failure.toText), ratchet)
    | .ok ciphertext =>
      (.ok { header := ratchet.nextHeader payloadType, nonce, ciphertext },
        { ratchet with
          sendingChainKey := some nextChainKey
          sendMessageNumber := ratchet.sendMessageNumber + 1 })

/-- `encrypt_to` works in the caller's buffer, which is the middle component. -/
def encryptTo (ratchet : DoubleRatchet P) (nonce : Nonce)
    (plaintext associatedData ciphertextOut : Bytes) :
    Except Error (Nonce × MessageHeader) × Bytes × DoubleRatchet P :=
  match ratchet.encrypt nonce plaintext associatedData with
  | (.ok message, next) => (.ok (message.nonce, message.header), message.ciphertext, next)
  | (.error failure, next) =>
    -- The buffer is only overwritten once a sending chain has been found.
    (.error failure, if ratchet.sendingChainKey.isSome then plaintext else ciphertextOut, next)

/-- One iteration of the loop of `skip_message_keys`. -/
def storeSkipped (ratchet : DoubleRatchet P) (messageKey : Secret) : DoubleRatchet P :=
  { ratchet with
    skippedKeys := ratchet.skippedKeys.put
      ((ratchet.remoteDhKey.map Vector.toList).getD [], ratchet.recvMessageNumber) messageKey
    recvMessageNumber := ratchet.recvMessageNumber + 1 }

/-- The loop of `skip_message_keys`, with the iterations still to run: the
source counts `recv_message_number` up to `until`. -/
def skipLoop : Nat → DoubleRatchet P → Secret → DoubleRatchet P × Secret
  | 0, ratchet, currentCk => (ratchet, currentCk)
  | left + 1, ratchet, currentCk =>
    let (messageKey, nextCk) := kdfCk P currentCk
    skipLoop left (ratchet.storeSkipped messageKey) nextCk

def skipMessageKeys (ratchet : DoubleRatchet P) (target : UInt32) :
    Except Error Unit × DoubleRatchet P :=
  if ratchet.recvMessageNumber + UInt32.ofNat maxSkip < target then
    (.error (.decryptionFailed "Too many skipped messages"), ratchet)
  else
    match ratchet.receivingChainKey with
    | none => (.error (.decryptionFailed "No receiving chain"), ratchet)
    | some chainKey =>
      let (skipped, currentCk) :=
        skipLoop (target.toNat - ratchet.recvMessageNumber.toNat) ratchet chainKey
      (.ok (), { skipped with receivingChainKey := some currentCk })

def dhRatchetStep (ratchet : DoubleRatchet P) (drawn : Private) (remoteDh : PublicKey) :
    DoubleRatchet P :=
  let oldRemoteKey := (ratchet.previousRemoteDhKey.or ratchet.remoteDhKey).getD remoteDh
  let currentDhPair := ratchet.dhPair.get ratchet.paired
  let (rootKey, recvChainKey) := kdfRk2 P ratchet.rootKey (currentDhPair.diffieHellman P oldRemoteKey)
  let newDhPair := EphemeralKey.generate P drawn
  let (rootKey, sendChainKey) := kdfRk2 P rootKey (newDhPair.diffieHellman P remoteDh)
  { ratchet with
    previousChainLength := ratchet.sendMessageNumber
    sendMessageNumber := 0
    recvMessageNumber := 0
    receivingChainKey := some recvChainKey
    rootKey
    sendingChainKey := some sendChainKey
    previousRemoteDhKey := ratchet.remoteDhKey.or ratchet.previousRemoteDhKey
    remoteDhKey := some remoteDh
    dhPair := some newDhPair
    paired := rfl }

def ratchetForNextMessage (ratchet : DoubleRatchet P) (drawn : Private) : DoubleRatchet P :=
  match ratchet.remoteDhKey with
  | some remoteDh => ratchet.dhRatchetStep drawn remoteDh
  | none => ratchet

def followHeader (ratchet : DoubleRatchet P) (drawn : Private) (header : MessageHeader) :
    Except Error Unit × DoubleRatchet P :=
  match header.dhPublic, ratchet.remoteDhKey with
  | some remoteDh, some currentRemote =>
    if currentRemote ≠ remoteDh then
      match ratchet.skipMessageKeys header.previousChainLength with
      | (.error failure, next) => (.error failure, next)
      | (.ok (), next) => (.ok (), next.dhRatchetStep drawn remoteDh)
    else
      (.ok (), ratchet)
  | some remoteDh, none => (.ok (), { ratchet with remoteDhKey := some remoteDh })
  | none, _ => (.ok (), ratchet)

/-- The key a message is opened with: a skipped one, or the head of the
receiving chain together with the chain key that follows it. -/
inductive Selected (Secret : Type) where
  | skipped (messageKey : Secret)
  | chain (messageKey nextChainKey : Secret)

def chainHead (ratchet : DoubleRatchet P) : Except Error (Selected Secret) :=
  match ratchet.receivingChainKey with
  | none => .error (.decryptionFailed "No receiving chain")
  | some chainKey => .ok (.chain (kdfCk P chainKey).1 (kdfCk P chainKey).2)

def advanceTo (ratchet : DoubleRatchet P) (drawn : Private) (header : MessageHeader) :
    Except Error Unit × DoubleRatchet P :=
  match ratchet.followHeader drawn header with
  | (.error failure, next) => (.error failure, next)
  | (.ok (), next) =>
    -- The comparison is with the number read before the header was followed.
    if header.messageNumber > ratchet.recvMessageNumber then
      next.skipMessageKeys header.messageNumber
    else
      (.ok (), next)

/-- Everything the decrypt functions do before they call the cipher. `hit` is
the outcome of the function's own test for a skipped key. -/
def selectKey (ratchet : DoubleRatchet P) (drawn : Private) (hit : Bool) (message : RatchetMessage) :
    Except Error (Selected Secret) × DoubleRatchet P :=
  let size := message.ciphertext.length
  let target := message.header.messageNumber
  let current := ratchet.recvMessageNumber
  if size > maxMessageSize then
    (.error (.decryptionFailed s!"Message too large: {size} bytes (max {maxMessageSize})"), ratchet)
  else
    match hit, ratchet.skippedKeys.pop message.lookupKey with
    | true, (some messageKey, skippedKeys) =>
      (.ok (.skipped messageKey), { ratchet with skippedKeys })
    | _, _ =>
      if target < current then
        (.error (.decryptionFailed s!"Message too old: target={target}, current={current}"), ratchet)
      else
        match ratchet.advanceTo drawn message.header with
        | (.error failure, next) => (.error failure, next)
        | (.ok (), next) => (next.chainHead, next)

def openWith (ratchet : DoubleRatchet P) (message : RatchetMessage) :
    Selected Secret → Except Error Bytes × DoubleRatchet P
  | .skipped messageKey =>
    (cipherDecrypt P messageKey message.nonce [message.header.payloadType] message.ciphertext, ratchet)
  | .chain messageKey nextChainKey =>
    match cipherDecrypt P messageKey message.nonce [message.header.payloadType] message.ciphertext with
    | .ok plaintext =>
      (.ok plaintext,
        { ratchet with
          receivingChainKey := some nextChainKey
          recvMessageNumber := message.header.messageNumber + 1 })
    | .error failure => (.error (.decryptionFailed failure.toText), ratchet)

/-- The common body of `decrypt`, `decrypt_to` and `decrypt_to_ref`. -/
def decryptWith (ratchet : DoubleRatchet P) (drawn : Private) (hit : Bool) (message : RatchetMessage) :
    Except Error Bytes × DoubleRatchet P :=
  match ratchet.selectKey drawn hit message with
  | (.error failure, next) => (.error failure, next)
  | (.ok selected, next) => next.openWith message selected

def decrypt (ratchet : DoubleRatchet P) (drawn : Private) (message : RatchetMessage)
    (_associatedData : Bytes) : Except Error Bytes × DoubleRatchet P :=
  ratchet.decryptWith drawn (ratchet.skippedKeys.contains message.lookupKey) message

/-- `decrypt_to` leaves the caller's buffer alone unless it succeeds. -/
def decryptTo (ratchet : DoubleRatchet P) (drawn : Private) (message : RatchetMessage)
    (_associatedData plaintextOut : Bytes) : Except Error Nat × Bytes × DoubleRatchet P :=
  match ratchet.decryptWith drawn (ratchet.skippedKeys.contains message.lookupKey) message with
  | (.ok plaintext, next) => (.ok plaintext.length, plaintext, next)
  | (.error failure, next) => (.error failure, plaintextOut, next)

/-- The test of `decrypt_to_ref` skips the lookup when nothing is stored. -/
def refHit (ratchet : DoubleRatchet P) (message : RatchetMessage) : Bool :=
  !ratchet.skippedKeys.isEmpty && ratchet.skippedKeys.contains message.lookupKey

/-- `decrypt_to_ref` decrypts in place: once a key is selected the buffer holds
the ciphertext, and it still does when the tag does not verify. -/
def decryptToRef (ratchet : DoubleRatchet P) (drawn : Private) (message : RatchetMessage)
    (_associatedData plaintextOut : Bytes) : Except Error Nat × Bytes × DoubleRatchet P :=
  match ratchet.selectKey drawn (ratchet.refHit message) message with
  | (.error failure, next) => (.error failure, plaintextOut, next)
  | (.ok selected, next) =>
    match next.openWith message selected with
    | (.ok plaintext, final) => (.ok plaintext.length, plaintext, final)
    | (.error failure, final) => (.error failure, message.ciphertext, final)

end DoubleRatchet

end Rvpn.Crypto
