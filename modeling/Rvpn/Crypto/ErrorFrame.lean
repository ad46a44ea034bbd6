import Rvpn.Crypto.Symbolic

/-! Which rejected messages leave the ratchet as it was. -/

namespace Rvpn.Crypto.DoubleRatchet

variable {Secret Private : Type} {P : Primitives Secret Private}
variable {ratchet : DoubleRatchet P} {message : RatchetMessage}

def steppedChain (ratchet : DoubleRatchet P) (remoteDh : PublicKey) : Secret :=
  (kdfRk2 P ratchet.rootKey ((ratchet.dhPair.get ratchet.paired).diffieHellman P
    ((ratchet.previousRemoteDhKey.or ratchet.remoteDhKey).getD remoteDh))).2

def KeyChanged (ratchet : DoubleRatchet P) (header : MessageHeader) : Prop :=
  header.dhPublic.isSome ∧ ratchet.remoteDhKey.isSome ∧ header.dhPublic ≠ ratchet.remoteDhKey

def KeyFirst (ratchet : DoubleRatchet P) (header : MessageHeader) : Prop :=
  header.dhPublic.isSome ∧ ratchet.remoteDhKey = none

instance (header : MessageHeader) : Decidable (ratchet.KeyChanged header) :=
  inferInstanceAs (Decidable (_ ∧ _ ∧ _))

instance (header : MessageHeader) : Decidable (ratchet.KeyFirst header) :=
  inferInstanceAs (Decidable (_ ∧ _))

/-- The chain and the number on it that the sender's key leads to, if the walk
to the end of the previous chain is allowed. -/
def headerChain (ratchet : DoubleRatchet P) (header : MessageHeader) : Option (Option Secret × UInt32) :=
  if ratchet.KeyChanged header then
    if ratchet.MaySkip header.previousChainLength then
      some (header.dhPublic.map ratchet.steppedChain, 0)
    else
      none
  else
    some (ratchet.receivingChainKey, ratchet.recvMessageNumber)

def chainMessageKey (ratchet : DoubleRatchet P) (header : MessageHeader) : Option Secret :=
  (ratchet.headerChain header).bind fun (chain, number) =>
    if header.messageNumber > ratchet.recvMessageNumber then
      if number + UInt32.ofNat maxSkip < header.messageNumber then none
      else chain.map fun chainKey =>
        (kdfCk P (chainAfter P chainKey (header.messageNumber.toNat - number.toNat))).1
    else
      chain.map fun chainKey => (kdfCk P chainKey).1

/-- The message key `decrypt` tries for a message: the stored one if there is
one, and otherwise the one on the receiving chain. -/
def messageKey (ratchet : DoubleRatchet P) (message : RatchetMessage) : Option Secret :=
  if ratchet.skippedKeys.contains message.lookupKey then
    (ratchet.skippedKeys.pop message.lookupKey).1
  else if message.header.messageNumber < ratchet.recvMessageNumber then
    none
  else
    ratchet.chainMessageKey message.header

def Authentic (ratchet : DoubleRatchet P) (message : RatchetMessage) : Prop :=
  ∃ key plaintext, ratchet.messageKey message = some key ∧
    cipherDecrypt P key message.nonce [message.header.payloadType] message.ciphertext = .ok plaintext

def HeaderMoves (ratchet : DoubleRatchet P) (header : MessageHeader) : Prop :=
  ratchet.KeyFirst header ∨
    (ratchet.KeyChanged header ∧ ratchet.MaySkip header.previousChainLength) ∨
    (¬ ratchet.KeyChanged header ∧ header.messageNumber > ratchet.recvMessageNumber ∧
      ratchet.MaySkip header.messageNumber)

/-- `decrypt` writes to the state before it has checked the message. -/
def Premature (ratchet : DoubleRatchet P) (message : RatchetMessage) : Prop :=
  message.ciphertext.length ≤ maxMessageSize ∧
    (ratchet.skippedKeys.contains message.lookupKey = true ∨
      (¬ message.header.messageNumber < ratchet.recvMessageNumber ∧ ratchet.HeaderMoves message.header))

theorem followHeader_cases (ratchet : DoubleRatchet P) (drawn : Private) (header : MessageHeader) :
    (ratchet.KeyChanged header ∧ ¬ ratchet.MaySkip header.previousChainLength ∧
        ∃ failure, ratchet.followHeader drawn header = (.error failure, ratchet)) ∨
      (ratchet.KeyChanged header ∧ ratchet.MaySkip header.previousChainLength ∧
        ∃ remoteDh chainKey, header.dhPublic = some remoteDh ∧
          ratchet.receivingChainKey = some chainKey ∧
          ratchet.followHeader drawn header = (.ok (),
            (ratchet.skippedTo header.previousChainLength chainKey).dhRatchetStep drawn remoteDh)) ∨
      (ratchet.KeyFirst header ∧ ratchet.followHeader drawn header =
        (.ok (), { ratchet with remoteDhKey := header.dhPublic })) ∨
      (¬ ratchet.KeyChanged header ∧ ¬ ratchet.KeyFirst header ∧
        ratchet.followHeader drawn header = (.ok (), ratchet)) := by
  cases carried : header.dhPublic with
  | none =>
    refine .inr (.inr (.inr ⟨?_, ?_, ?_⟩)) <;> simp [KeyChanged, KeyFirst, followHeader, carried]
  | some remoteDh =>
    cases known : ratchet.remoteDhKey with
    | none => exact .inr (.inr (.inl ⟨by simp [KeyFirst, carried, known],
        by simp [followHeader, carried, known]⟩))
    | some currentRemote =>
      by_cases same : currentRemote = remoteDh
      · refine .inr (.inr (.inr ⟨?_, ?_, ?_⟩)) <;>
          simp [KeyChanged, KeyFirst, followHeader, carried, known, same]
      · have changed : ratchet.KeyChanged header := by
          simp [KeyChanged, carried, known, Ne.symm same]
        rcases ratchet.skipMessageKeys_cases header.previousChainLength with
          ⟨refused, failure, outcome⟩ | ⟨chainKey, allowed, found, outcome⟩
        · exact .inl ⟨changed, refused, failure, by simp [followHeader, carried, known, same, outcome]⟩
        · exact .inr (.inl ⟨changed, allowed, remoteDh, chainKey, rfl, found,
            by simp [followHeader, carried, known, same, outcome]⟩)

theorem headerChain_eq (ratchet : DoubleRatchet P) (drawn : Private) (header : MessageHeader) :
    ratchet.headerChain header =
      match ratchet.followHeader drawn header with
      | (.ok (), next) => some (next.receivingChainKey, next.recvMessageNumber)
      | (.error _, _) => none := by
  rcases ratchet.followHeader_cases drawn header with ⟨changed, refused, failure, outcome⟩ |
    ⟨changed, allowed, remoteDh, chainKey, carried, found, outcome⟩ | ⟨first, outcome⟩ |
    ⟨unchanged, -, outcome⟩
  · simp [headerChain, changed, refused, outcome]
  · simp only [headerChain, changed, allowed, carried, outcome]
    rfl
  · have unchanged : ¬ ratchet.KeyChanged header := fun changed => by
      simpa [first.2] using changed.2.1
    simp [headerChain, unchanged, outcome]
  · simp [headerChain, unchanged, outcome]

/-- The key the specification names is the head of the chain `decrypt` reaches. -/
theorem chainMessageKey_eq (ratchet : DoubleRatchet P) (drawn : Private) (header : MessageHeader) :
    ratchet.chainMessageKey header =
      match ratchet.advanceTo drawn header with
      | (.ok (), next) => next.receivingChainKey.map fun chainKey => (kdfCk P chainKey).1
      | (.error _, _) => none := by
  rw [chainMessageKey, ratchet.headerChain_eq drawn, advanceTo]
  rcases ratchet.followHeader drawn header with ⟨_ | _, next⟩
  · rfl
  · by_cases ahead : header.messageNumber > ratchet.recvMessageNumber
    · simp only [ahead]
      rcases next.skipMessageKeys_cases header.messageNumber with
        ⟨refused, failure, outcome⟩ | ⟨chainKey, allowed, found, outcome⟩
      · by_cases far : next.recvMessageNumber + UInt32.ofNat maxSkip < header.messageNumber
        · simp [far, outcome]
        · have missing : next.receivingChainKey = none := by simpa [MaySkip, far] using refused
          simp [outcome, missing]
      · simp [allowed.1, outcome, found, skippedTo]
    · simp [ahead]

private theorem skipMessageKeys_remoteDhKey (ratchet : DoubleRatchet P) (target : UInt32) :
    (ratchet.skipMessageKeys target).2.remoteDhKey = ratchet.remoteDhKey := by
  rcases ratchet.skipMessageKeys_cases target with ⟨-, failure, outcome⟩ | ⟨chainKey, -, -, outcome⟩
  · rw [outcome]
  · rw [outcome]
    rfl

private theorem advanceTo_remoteDhKey (followed : ratchet.followHeader drawn header = (.ok (), next)) :
    (ratchet.advanceTo drawn header).2.remoteDhKey = next.remoteDhKey := by
  simp only [advanceTo, followed]
  split
  · exact skipMessageKeys_remoteDhKey next header.messageNumber
  · rfl

theorem advanceTo_unchanged_iff (ratchet : DoubleRatchet P) (drawn : Private) (header : MessageHeader) :
    (ratchet.advanceTo drawn header).2 = ratchet ↔ ¬ ratchet.HeaderMoves header := by
  rcases ratchet.followHeader_cases drawn header with ⟨changed, refused, failure, outcome⟩ |
    ⟨changed, allowed, remoteDh, chainKey, carried, found, outcome⟩ | ⟨first, outcome⟩ |
    ⟨unchanged, notFirst, outcome⟩
  · have notFirst : ¬ ratchet.KeyFirst header := fun first => by simpa [first.2] using changed.2.1
    simp [advanceTo, outcome, HeaderMoves, notFirst, changed, refused]
  · refine iff_of_false (fun same => ?_) (fun still => still (.inr (.inl ⟨changed, allowed⟩)))
    have remote := advanceTo_remoteDhKey outcome
    rw [same] at remote
    exact changed.2.2 (carried.trans remote.symm)
  · refine iff_of_false (fun same => ?_) (fun still => still (.inl first))
    have remote := advanceTo_remoteDhKey outcome
    rw [same, first.2] at remote
    have missing : header.dhPublic = none := remote.symm
    simpa [missing] using first.1
  · by_cases ahead : header.messageNumber > ratchet.recvMessageNumber
    · rcases ratchet.skipMessageKeys_cases header.messageNumber with
        ⟨refused, failure, walk⟩ | ⟨chainKey, allowed, found, walk⟩
      · simp [advanceTo, outcome, ahead, walk, HeaderMoves, notFirst, unchanged, refused]
      · refine iff_of_false (fun same => ?_) fun still =>
          still (.inr (.inr ⟨unchanged, ahead, allowed⟩))
        have number := ratchet.skippedTo_recvMessageNumber chainKey (UInt32.le_of_lt ahead)
        simp only [advanceTo, outcome, ahead, if_true, walk] at same
        rw [same] at number
        exact absurd ahead (by simp [number])
    · simp [advanceTo, outcome, ahead, HeaderMoves, notFirst, unchanged]

private theorem decrypt_hit (drawn : Private) (size : message.ciphertext.length ≤ maxMessageSize)
    (hit : ratchet.skippedKeys.contains message.lookupKey = true) (associatedData : Bytes) :
    ∃ key, (ratchet.skippedKeys.pop message.lookupKey).1 = some key ∧
      ratchet.decrypt drawn message associatedData =
        (cipherDecrypt P key message.nonce [message.header.payloadType] message.ciphertext,
          { ratchet with skippedKeys := (ratchet.skippedKeys.pop message.lookupKey).2 }) := by
  obtain ⟨⟨key, found⟩, -⟩ := LruCache.pop_of_contains hit
  have fits : ¬ message.ciphertext.length > maxMessageSize := Nat.not_lt.mpr size
  have popped : ratchet.skippedKeys.pop message.lookupKey =
      (some key, (ratchet.skippedKeys.pop message.lookupKey).2) := Prod.ext found rfl
  refine ⟨key, found, ?_⟩
  simp only [decrypt, decryptWith, selectKey, fits, hit]
  rw [popped]
  rfl

private theorem decrypt_large (ratchet : DoubleRatchet P) (drawn : Private)
    (large : ¬ message.ciphertext.length ≤ maxMessageSize) (associatedData : Bytes) :
    ∃ failure, ratchet.decrypt drawn message associatedData = (.error failure, ratchet) := by
  have exceeds : message.ciphertext.length > maxMessageSize := Nat.not_le.mp large
  simp [decrypt, decryptWith, selectKey, exceeds]

private theorem decrypt_old (drawn : Private) (size : message.ciphertext.length ≤ maxMessageSize)
    (miss : ratchet.skippedKeys.contains message.lookupKey = false)
    (old : message.header.messageNumber < ratchet.recvMessageNumber) (associatedData : Bytes) :
    ∃ failure, ratchet.decrypt drawn message associatedData = (.error failure, ratchet) := by
  have fits : ¬ message.ciphertext.length > maxMessageSize := Nat.not_lt.mpr size
  simp [decrypt, decryptWith, selectKey, fits, miss, old]

/-- With no stored key and a recent number, the outcome is that of the key on
the receiving chain, and an error leaves the state the header led to. -/
private theorem decrypt_recent (drawn : Private) (size : message.ciphertext.length ≤ maxMessageSize)
    (miss : ratchet.skippedKeys.contains message.lookupKey = false)
    (recent : ¬ message.header.messageNumber < ratchet.recvMessageNumber) (associatedData : Bytes) :
    ((∃ plaintext, (ratchet.decrypt drawn message associatedData).1 = .ok plaintext) ↔
      ∃ key plaintext, ratchet.chainMessageKey message.header = some key ∧ cipherDecrypt P key
        message.nonce [message.header.payloadType] message.ciphertext = .ok plaintext) ∧
    ∀ failure, (ratchet.decrypt drawn message associatedData).1 = .error failure →
      (ratchet.decrypt drawn message associatedData).2 = (ratchet.advanceTo drawn message.header).2 := by
  rw [decrypt, miss, decryptWith_false size recent, ratchet.chainMessageKey_eq drawn]
  rcases ratchet.advanceTo drawn message.header with ⟨_ | _, next⟩
  · simp
  · cases found : next.receivingChainKey with
    | none => simp [chainHead, found]
    | some chainKey =>
      cases opened : cipherDecrypt P (kdfCk P chainKey).1 message.nonce
        [message.header.payloadType] message.ciphertext <;> simp [chainHead, found, openWith, opened]

/-- `decrypt` succeeds exactly on the authentic messages that are not too large. -/
theorem decrypt_ok_iff (ratchet : DoubleRatchet P) (drawn : Private) (message : RatchetMessage)
    (associatedData : Bytes) :
    (∃ plaintext, (ratchet.decrypt drawn message associatedData).1 = .ok plaintext) ↔
      message.ciphertext.length ≤ maxMessageSize ∧ ratchet.Authentic message := by
  by_cases size : message.ciphertext.length ≤ maxMessageSize
  · cases hit : ratchet.skippedKeys.contains message.lookupKey with
    | true =>
      obtain ⟨key, found, outcome⟩ := decrypt_hit drawn size hit associatedData
      simp [outcome, size, Authentic, messageKey, hit, found]
    | false =>
      by_cases old : message.header.messageNumber < ratchet.recvMessageNumber
      · obtain ⟨failure, outcome⟩ := decrypt_old drawn size hit old associatedData
        simp [outcome, Authentic, messageKey, hit, old]
      · rw [(decrypt_recent drawn size hit old associatedData).1]
        simp [size, Authentic, messageKey, hit, old]
  · obtain ⟨failure, outcome⟩ := decrypt_large ratchet drawn size associatedData
    simp [outcome, size]

theorem decrypt_error_unchanged_iff {drawn : Private} {failure : Error} (associatedData : Bytes)
    (rejected : (ratchet.decrypt drawn message associatedData).1 = .error failure) :
    (ratchet.decrypt drawn message associatedData).2 = ratchet ↔ ¬ ratchet.Premature message := by
  by_cases size : message.ciphertext.length ≤ maxMessageSize
  · cases hit : ratchet.skippedKeys.contains message.lookupKey with
    | true =>
      obtain ⟨key, found, outcome⟩ := decrypt_hit drawn size hit associatedData
      refine iff_of_false (fun same => ?_) (fun still => still ⟨size, .inl hit⟩)
      rw [outcome] at same
      exact (LruCache.pop_of_contains hit).2 (congrArg skippedKeys same)
    | false =>
      by_cases old : message.header.messageNumber < ratchet.recvMessageNumber
      · obtain ⟨_, outcome⟩ := decrypt_old drawn size hit old associatedData
        simp [outcome, Premature, hit, old]
      · rw [(decrypt_recent drawn size hit old associatedData).2 failure rejected, advanceTo_unchanged_iff]
        simp [Premature, size, hit, old]
  · obtain ⟨_, outcome⟩ := decrypt_large ratchet drawn size associatedData
    simp [outcome, Premature, size]

/-- Every error of `decrypt` leaves the state unchanged if and only if a
message that makes it write early is authentic. -/
theorem decrypt_error_frame_iff (ratchet : DoubleRatchet P) (drawn : Private)
    (message : RatchetMessage) (associatedData : Bytes) :
    (∀ failure, (ratchet.decrypt drawn message associatedData).1 = .error failure →
        (ratchet.decrypt drawn message associatedData).2 = ratchet) ↔
      (ratchet.Premature message → ratchet.Authentic message) := by
  have success := ratchet.decrypt_ok_iff drawn message associatedData
  cases result : (ratchet.decrypt drawn message associatedData).1 with
  | ok plaintext =>
    have authentic := (success.mp ⟨plaintext, result⟩).2
    simp [authentic]
  | error failure =>
    have unchanged := decrypt_error_unchanged_iff associatedData result
    simp only [Except.error.injEq, forall_eq', unchanged]
    constructor
    · exact fun still premature => absurd premature still
    · intro authentic premature
      obtain ⟨plaintext, opened⟩ := success.mpr ⟨premature.1, authentic premature⟩
      cases result.symm.trans opened

section Forged

open Symbolic

def receiver : DoubleRatchet primitives := initBob (keyOf 7) [9]

def forged : RatchetMessage where
  header := { dhPublic := some (keyOf 2), messageNumber := 5, previousChainLength := 0, payloadType := 5 }
  nonce := nonceOf 0
  ciphertext := List.replicate 20 0

/-- The forged message is rejected, and the honest message that would have
decrypted before it no longer does. -/
theorem forged_message_desynchronizes :
    ∃ honest next, (initAlice (keyOf 1) [9] (keyOf 2) : DoubleRatchet primitives).encrypt (nonceOf 3)
        [104, 105] [5] = (.ok honest, next) ∧
      (receiver.decrypt (keyOf 4) forged [5]).1 =
        .error (.decryptionFailed "decryption failed: aead::Error") ∧
      (receiver.decrypt (keyOf 4) forged [5]).2 ≠ receiver ∧
      (receiver.decrypt (keyOf 4) honest [5]).1 = .ok [104, 105] ∧
      ((receiver.decrypt (keyOf 4) forged [5]).2.decrypt (keyOf 4) honest [5]).1 =
        .error (.decryptionFailed "Message too old: target=0, current=5") := by
  refine ⟨_, _, rfl, by decide +kernel, fun same => ?_, by decide +kernel, by decide +kernel⟩
  have number := congrArg recvMessageNumber same
  revert number
  decide +kernel

end Forged

end Rvpn.Crypto.DoubleRatchet
