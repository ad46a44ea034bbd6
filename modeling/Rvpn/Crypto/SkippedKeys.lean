import Rvpn.Crypto.RatchetSpec

/-! Keys are stored under the remote DH key and looked up under the serialized header: the cache is written and
never read. -/

namespace Rvpn.Crypto.DoubleRatchet

variable {Secret Private : Type} {P : Primitives Secret Private}
variable {ratchet : DoubleRatchet P} {drawn : Private} {message : RatchetMessage}

def Filing (key : Bytes × UInt32) : Prop := key.1.length = 0 ∨ key.1.length = 32

def Orphaned (ratchet : DoubleRatchet P) : Prop :=
  ∀ entry ∈ ratchet.skippedKeys.entries, Filing entry.1

theorem initAlice_orphaned (drawn : Private) (secret : Secret) (key : PublicKey) :
    (initAlice drawn secret key : DoubleRatchet P).Orphaned := by
  simp [Orphaned, initAlice, LruCache.new]

theorem initBob_orphaned (drawn : Private) (secret : Secret) :
    (initBob drawn secret : DoubleRatchet P).Orphaned := by
  simp [Orphaned, initBob, LruCache.new]

section

variable (orphaned : ratchet.Orphaned)
include orphaned

theorem Orphaned.contains_eq_false (message : RatchetMessage) :
    ratchet.skippedKeys.contains message.lookupKey = false := by
  refine LruCache.contains_eq_false orphaned ?_
  have length := message.header.toBytes_length
  simp only [Filing, RatchetMessage.lookupKey]
  omega

theorem Orphaned.decrypt_eq (associatedData : Bytes) :
    ratchet.decrypt drawn message associatedData = ratchet.decryptWith drawn false message := by
  rw [decrypt, orphaned.contains_eq_false]

theorem Orphaned.storeSkipped (messageKey : Secret) :
    (ratchet.storeSkipped messageKey).Orphaned := by
  refine LruCache.forall_key_put orphaned ?_
  cases ratchet.remoteDhKey <;> simp [Filing]

theorem Orphaned.skipLoop (left : Nat) (chainKey : Secret) :
    (skipLoop left ratchet chainKey).1.Orphaned := by
  induction left generalizing ratchet chainKey with
  | zero => exact orphaned
  | succ left ih =>
    rw [skipLoop_succ]
    exact ih (orphaned.storeSkipped _) _

theorem Orphaned.skippedTo (target : UInt32) (chainKey : Secret) :
    (ratchet.skippedTo target chainKey).Orphaned :=
  orphaned.skipLoop _ chainKey

theorem Orphaned.decrypt_expected (drawn : Private) (associatedData : Bytes)
    (size : message.ciphertext.length ≤ maxMessageSize) (carried : message.header.dhPublic = some remoteDh)
    (known : ratchet.remoteDhKey = none ∨ ratchet.remoteDhKey = some remoteDh)
    (expected : message.header.messageNumber = ratchet.recvMessageNumber)
    (found : ratchet.receivingChainKey = some chainKey)
    (opened : cipherDecrypt P (kdfCk P chainKey).1 message.nonce [message.header.payloadType]
      message.ciphertext = .ok plaintext) :
    ratchet.decrypt drawn message associatedData =
      (.ok plaintext,
        { ratchet with
          remoteDhKey := some remoteDh
          receivingChainKey := some (kdfCk P chainKey).2
          recvMessageNumber := ratchet.recvMessageNumber + 1 }) := by
  have recent : ¬ message.header.messageNumber < ratchet.recvMessageNumber := by simp [expected]
  have reached : ratchet.advanceTo drawn message.header =
      (.ok (), { ratchet with remoteDhKey := some remoteDh }) := by
    simp [advanceTo_known carried known, expected]
  rw [orphaned.decrypt_eq, decryptWith_of_advanceTo size recent reached found]
  simp [openWith, opened, expected]

end

end Rvpn.Crypto.DoubleRatchet
