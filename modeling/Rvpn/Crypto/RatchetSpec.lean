import Rvpn.Crypto.Ratchet

/-! What each ratchet method can do to the state. Later modules reason from
these statements and do not unfold the methods again. -/

namespace Rvpn.Crypto

theorem MessageHeader.toBytes_length (header : MessageHeader) :
    header.toBytes.length = 10 ∨ header.toBytes.length = 42 := by
  unfold MessageHeader.toBytes
  cases header.dhPublic with
  | none => exact .inl rfl
  | some dh => exact .inr (by simp [toBeBytes])

namespace DoubleRatchet

variable {Secret Private : Type} {P : Primitives Secret Private}
variable {ratchet next : DoubleRatchet P} {drawn : Private} {message : RatchetMessage}

theorem encrypt_cases (ratchet : DoubleRatchet P) (nonce : Nonce) (plaintext associatedData : Bytes) :
    (∃ failure, ratchet.encrypt nonce plaintext associatedData = (.error failure, ratchet)) ∨
      ∃ chainKey ciphertext, ratchet.sendingChainKey = some chainKey ∧
        cipherEncrypt P (kdfCk P chainKey).1 nonce [payloadTypeOf associatedData] plaintext =
          .ok ciphertext ∧
        ratchet.encrypt nonce plaintext associatedData =
          (.ok ⟨ratchet.nextHeader (payloadTypeOf associatedData), nonce, ciphertext⟩,
            { ratchet with
              sendingChainKey := some (kdfCk P chainKey).2
              sendMessageNumber := ratchet.sendMessageNumber + 1 }) := by
  cases found : ratchet.sendingChainKey with
  | none => exact .inl ⟨.encryptionFailed "No sending chain", by simp [encrypt, found]⟩
  | some chainKey =>
    cases outcome : cipherEncrypt P (kdfCk P chainKey).1 nonce [payloadTypeOf associatedData]
        plaintext with
    | error failure => exact .inl ⟨.encryptionFailed failure.toText, by simp [encrypt, found, outcome]⟩
    | ok ciphertext => exact .inr ⟨chainKey, ciphertext, rfl, outcome, by simp [encrypt, found, outcome]⟩

theorem skipLoop_succ (left : Nat) (ratchet : DoubleRatchet P) (currentCk : Secret) :
    skipLoop (left + 1) ratchet currentCk =
      skipLoop left (ratchet.storeSkipped (kdfCk P currentCk).1) (kdfCk P currentCk).2 := rfl

theorem skipLoop_eq (left : Nat) (ratchet : DoubleRatchet P) (currentCk : Secret) :
    skipLoop left ratchet currentCk =
      ({ ratchet with
          skippedKeys := (skipLoop left ratchet currentCk).1.skippedKeys
          recvMessageNumber := ratchet.recvMessageNumber + UInt32.ofNat left },
        chainAfter P currentCk left) := by
  induction left generalizing ratchet currentCk with
  | zero => simp [skipLoop]
  | succ left ih =>
    have one : chainAfter P (kdfCk P currentCk).2 left = chainAfter P currentCk (left + 1) := rfl
    have count : ratchet.recvMessageNumber + 1 + UInt32.ofNat left =
        ratchet.recvMessageNumber + UInt32.ofNat (left + 1) := by
      rw [UInt32.ofNat_add, UInt32.add_assoc, UInt32.add_comm 1]
      rfl
    rw [skipLoop_succ, ih, one]
    simp [storeSkipped, count]

/-- The state after `skip_message_keys` has walked the chain. -/
def skippedTo (ratchet : DoubleRatchet P) (target : UInt32) (chainKey : Secret) : DoubleRatchet P :=
  let left := target.toNat - ratchet.recvMessageNumber.toNat
  { ratchet with
    skippedKeys := (skipLoop left ratchet chainKey).1.skippedKeys
    recvMessageNumber := ratchet.recvMessageNumber + UInt32.ofNat left
    receivingChainKey := some (chainAfter P chainKey left) }

/-- `skip_message_keys` may walk to this number. -/
def MaySkip (ratchet : DoubleRatchet P) (target : UInt32) : Prop :=
  ¬ ratchet.recvMessageNumber + UInt32.ofNat maxSkip < target ∧ ratchet.receivingChainKey.isSome

instance (target : UInt32) : Decidable (ratchet.MaySkip target) := inferInstanceAs (Decidable (_ ∧ _))

theorem skipMessageKeys_of_some (near : ¬ ratchet.recvMessageNumber + UInt32.ofNat maxSkip < target)
    (found : ratchet.receivingChainKey = some chainKey) :
    ratchet.skipMessageKeys target = (.ok (), ratchet.skippedTo target chainKey) := by
  simp only [skipMessageKeys, near, found]
  rw [skipLoop_eq]
  rfl

theorem skipMessageKeys_cases (ratchet : DoubleRatchet P) (target : UInt32) :
    (¬ ratchet.MaySkip target ∧ ∃ failure, ratchet.skipMessageKeys target = (.error failure, ratchet)) ∨
      ∃ chainKey, ratchet.MaySkip target ∧ ratchet.receivingChainKey = some chainKey ∧
        ratchet.skipMessageKeys target = (.ok (), ratchet.skippedTo target chainKey) := by
  by_cases far : ratchet.recvMessageNumber + UInt32.ofNat maxSkip < target
  · exact .inl ⟨fun may => may.1 far, .decryptionFailed "Too many skipped messages",
      by simp [skipMessageKeys, far]⟩
  · cases found : ratchet.receivingChainKey with
    | none =>
      refine .inl ⟨fun may => ?_, .decryptionFailed "No receiving chain", ?_⟩
      · simp [MaySkip, found] at may
      · simp [skipMessageKeys, far, found]
    | some chainKey =>
      exact .inr ⟨chainKey, ⟨far, by simp [found]⟩, rfl, skipMessageKeys_of_some far found⟩

theorem skippedTo_recvMessageNumber (chainKey : Secret) (ahead : ratchet.recvMessageNumber ≤ target) :
    (ratchet.skippedTo target chainKey).recvMessageNumber = target := by
  have order : ratchet.recvMessageNumber.toNat ≤ target.toNat := UInt32.le_iff_toNat_le.mp ahead
  have bound := target.toNat_lt
  apply UInt32.toNat_inj.mp
  simp only [skippedTo, UInt32.toNat_add, UInt32.toNat_ofNat']
  omega

theorem advanceTo_preserves (invariant : DoubleRatchet P → Prop)
    (adopted : ∀ {state : DoubleRatchet P} (remoteDh : PublicKey), invariant state →
      state.remoteDhKey = none → invariant { state with remoteDhKey := some remoteDh })
    (walked : ∀ {state : DoubleRatchet P} {chainKey : Secret} (target : UInt32), invariant state →
      state.receivingChainKey = some chainKey → invariant (state.skippedTo target chainKey))
    (stepped : ∀ {state : DoubleRatchet P} (remoteDh : PublicKey), invariant state →
      invariant (state.dhRatchetStep drawn remoteDh)) (initially : invariant ratchet) :
    invariant (ratchet.advanceTo drawn header).2 := by
  have skipped : ∀ {state : DoubleRatchet P} (target : UInt32), invariant state →
      invariant (state.skipMessageKeys target).2 := by
    intro state target holds
    rcases state.skipMessageKeys_cases target with ⟨-, failure, refused⟩ | ⟨chainKey, -, found, done⟩
    · rwa [refused]
    · rw [done]
      exact walked target holds found
  have followed : invariant (ratchet.followHeader drawn header).2 := by
    unfold followHeader
    split
    · split
      · have holds := skipped header.previousChainLength initially
        split <;> rename_i outcome
        · rwa [outcome] at holds
        · rw [outcome] at holds
          exact stepped _ holds
      · exact initially
    · exact adopted _ initially ‹_›
    · exact initially
  unfold advanceTo
  split <;> rename_i outcome <;> rw [outcome] at followed
  · exact followed
  · split
    · exact skipped _ followed
    · exact followed

theorem followHeader_known (carried : header.dhPublic = some remoteDh)
    (known : ratchet.remoteDhKey = none ∨ ratchet.remoteDhKey = some remoteDh) :
    ratchet.followHeader drawn header = (.ok (), { ratchet with remoteDhKey := some remoteDh }) := by
  rcases known with missing | present
  · simp [followHeader, carried, missing]
  · rw [followHeader, carried, present]
    simp [← present]

theorem advanceTo_known (carried : header.dhPublic = some remoteDh)
    (known : ratchet.remoteDhKey = none ∨ ratchet.remoteDhKey = some remoteDh) :
    ratchet.advanceTo drawn header =
      let adopted : DoubleRatchet P := { ratchet with remoteDhKey := some remoteDh }
      if header.messageNumber > ratchet.recvMessageNumber then
        adopted.skipMessageKeys header.messageNumber
      else (.ok (), adopted) := by
  simp [advanceTo, followHeader_known carried known]

def KnowsKey (ratchet : DoubleRatchet P) (header : MessageHeader) : Prop :=
  header.dhPublic = none ∨ ratchet.remoteDhKey = none ∨ ratchet.remoteDhKey = header.dhPublic

instance (header : MessageHeader) : Decidable (ratchet.KnowsKey header) :=
  inferInstanceAs (Decidable (_ ∨ _ ∨ _))

theorem KnowsKey.followHeader (knows : ratchet.KnowsKey header) (drawn : Private) :
    ∃ remoteDhKey, ratchet.followHeader drawn header = (.ok (), { ratchet with remoteDhKey }) := by
  cases carried : header.dhPublic with
  | none => exact ⟨ratchet.remoteDhKey, by simp [DoubleRatchet.followHeader, carried]⟩
  | some remoteDh =>
    have known : ratchet.remoteDhKey = none ∨ ratchet.remoteDhKey = some remoteDh := by
      simpa [KnowsKey, carried] using knows
    exact ⟨some remoteDh, followHeader_known carried known⟩

/-- What `encrypt` works with, the number of the last chain aside. -/
def sendingSide (ratchet : DoubleRatchet P) : Option (EphemeralKey P) × Option Secret × UInt32 :=
  (ratchet.dhPair, ratchet.sendingChainKey, ratchet.sendMessageNumber)

theorem KnowsKey.sendingSide_decryptWith (knows : ratchet.KnowsKey message.header) (drawn : Private) (hit : Bool) :
    (ratchet.decryptWith drawn hit message).2.sendingSide = ratchet.sendingSide := by
  have opened : ∀ (state : DoubleRatchet P) (selected : Selected Secret),
      (state.openWith message selected).2.sendingSide = state.sendingSide := by
    intro state selected
    unfold openWith
    repeat' split
    all_goals rfl
  have advanced : (ratchet.advanceTo drawn message.header).2.sendingSide = ratchet.sendingSide := by
    obtain ⟨remoteDhKey, followed⟩ := knows.followHeader drawn
    simp only [advanceTo, followed]
    split
    · rcases DoubleRatchet.skipMessageKeys_cases { ratchet with remoteDhKey } message.header.messageNumber with
        ⟨-, failure, refused⟩ | ⟨chainKey, -, -, done⟩
      · rw [refused]
        rfl
      · rw [done]
        rfl
    · rfl
  have selected : (ratchet.selectKey drawn hit message).2.sendingSide = ratchet.sendingSide := by
    unfold selectKey
    dsimp only
    split
    · rfl
    · split
      · rfl
      · split
        · rfl
        · split <;> rename_i outcome <;> rw [outcome] at advanced <;> exact advanced
  unfold decryptWith
  split <;> rename_i outcome <;> rw [outcome] at selected
  · exact selected
  · exact (opened _ _).trans selected

theorem decryptWith_false (size : message.ciphertext.length ≤ maxMessageSize)
    (recent : ¬ message.header.messageNumber < ratchet.recvMessageNumber) :
    ratchet.decryptWith drawn false message =
      match ratchet.advanceTo drawn message.header with
      | (.error failure, next) => (.error failure, next)
      | (.ok (), next) =>
        match next.chainHead with
        | .error failure => (.error failure, next)
        | .ok selected => next.openWith message selected := by
  have fits : ¬ message.ciphertext.length > maxMessageSize := by omega
  unfold decryptWith selectKey
  simp only [fits, recent]
  generalize ratchet.advanceTo drawn message.header = outcome
  obtain ⟨result, next⟩ := outcome
  cases result with
  | error failure => rfl
  | ok _ => cases found : next.chainHead <;> simp [found]

theorem decryptWith_of_advanceTo (size : message.ciphertext.length ≤ maxMessageSize)
    (recent : ¬ message.header.messageNumber < ratchet.recvMessageNumber)
    (reached : ratchet.advanceTo drawn message.header = (.ok (), next))
    (found : next.receivingChainKey = some chainKey) :
    ratchet.decryptWith drawn false message =
      next.openWith message (.chain (kdfCk P chainKey).1 (kdfCk P chainKey).2) := by
  simp [decryptWith_false size recent, reached, chainHead, found]

theorem decryptWith_ok_size (accepted : ratchet.decryptWith drawn hit message = (.ok plaintext, final)) :
    message.ciphertext.length ≤ maxMessageSize := by
  by_contra large
  simp [decryptWith, selectKey, Nat.not_le.mp large] at accepted

/-- Without a skipped key a message is accepted only under the head of the
receiving chain its header leads to, and the chain moves past that head. -/
theorem decryptWith_false_ok (accepted : ratchet.decryptWith drawn false message = (.ok plaintext, final)) :
    ∃ next chainKey, ratchet.advanceTo drawn message.header = (.ok (), next) ∧
      next.receivingChainKey = some chainKey ∧
      cipherDecrypt P (kdfCk P chainKey).1 message.nonce [message.header.payloadType]
        message.ciphertext = .ok plaintext ∧
      final = { next with
        receivingChainKey := some (kdfCk P chainKey).2
        recvMessageNumber := message.header.messageNumber + 1 } := by
  have size := decryptWith_ok_size accepted
  by_cases recent : message.header.messageNumber < ratchet.recvMessageNumber
  · have large : ¬ message.ciphertext.length > maxMessageSize := by omega
    simp [decryptWith, selectKey, large, recent] at accepted
  · rw [decryptWith_false size recent] at accepted
    rcases outcome : ratchet.advanceTo drawn message.header with ⟨result, next⟩
    cases result with
    | error failure => simp [outcome] at accepted
    | ok _ =>
      cases found : next.receivingChainKey with
      | none => simp [outcome, chainHead, found] at accepted
      | some chainKey =>
        simp only [outcome, chainHead, found, openWith] at accepted
        split at accepted
        · rename_i opened
          obtain ⟨rfl, rfl⟩ : _ = plaintext ∧ _ = final := by simpa using accepted
          exact ⟨next, chainKey, rfl, found, opened, rfl⟩
        · simp at accepted

theorem decryptWith_false_error {failure : Error} {final : DoubleRatchet P}
    (rejected : ratchet.decryptWith drawn false message = (.error failure, final)) :
    final = ratchet ∨ final = (ratchet.advanceTo drawn message.header).2 := by
  by_cases size : message.ciphertext.length ≤ maxMessageSize
  · by_cases recent : message.header.messageNumber < ratchet.recvMessageNumber
    · have large : ¬ message.ciphertext.length > maxMessageSize := by omega
      simp [decryptWith, selectKey, large, recent] at rejected
      exact .inl rejected.2.symm
    · rw [decryptWith_false size recent] at rejected
      rcases outcome : ratchet.advanceTo drawn message.header with ⟨result, next⟩
      cases result with
      | error _ =>
        simp only [outcome, Prod.mk.injEq] at rejected
        exact .inr rejected.2.symm
      | ok _ =>
        cases found : next.receivingChainKey with
        | none =>
          simp only [outcome, chainHead, found, Prod.mk.injEq] at rejected
          exact .inr rejected.2.symm
        | some chainKey =>
          simp only [outcome, chainHead, found, openWith] at rejected
          split at rejected
          · simp at rejected
          · simp only [Prod.mk.injEq] at rejected
            exact .inr rejected.2.symm
  · have large : message.ciphertext.length > maxMessageSize := by omega
    simp [decryptWith, selectKey, large] at rejected
    exact .inl rejected.2.symm

/-- `decrypt_to_ref` tests for a skipped key as the other two do. -/
theorem refHit_eq (ratchet : DoubleRatchet P) (message : RatchetMessage) :
    ratchet.refHit message = ratchet.skippedKeys.contains message.lookupKey := by
  unfold refHit LruCache.isEmpty LruCache.contains
  cases ratchet.skippedKeys.entries <;> rfl

theorem decryptTo_eq (ratchet : DoubleRatchet P) (drawn : Private) (message : RatchetMessage)
    (associatedData plaintextOut : Bytes) :
    ratchet.decryptTo drawn message associatedData plaintextOut =
      match ratchet.decrypt drawn message associatedData with
      | (.ok plaintext, next) => (.ok plaintext.length, plaintext, next)
      | (.error failure, next) => (.error failure, plaintextOut, next) := rfl

/-- `decrypt_to_ref` has the result and the state of `decrypt`; only what a
failure leaves in the buffer differs. -/
theorem decryptToRef_eq (ratchet : DoubleRatchet P) (drawn : Private) (message : RatchetMessage)
    (associatedData plaintextOut : Bytes) :
    ∃ leftover, ratchet.decryptToRef drawn message associatedData plaintextOut =
      match ratchet.decrypt drawn message associatedData with
      | (.ok plaintext, next) => (.ok plaintext.length, plaintext, next)
      | (.error failure, next) => (.error failure, leftover, next) := by
  unfold decryptToRef decrypt decryptWith
  rw [refHit_eq]
  split
  · exact ⟨plaintextOut, rfl⟩
  · refine ⟨message.ciphertext, ?_⟩
    split <;> simp_all

end DoubleRatchet

end Rvpn.Crypto
