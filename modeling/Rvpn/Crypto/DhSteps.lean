import Rvpn.Crypto.KeySchedule

/-! How deep in the key schedule the chains of a ratchet lie after its DH steps. -/

namespace Rvpn.Crypto.DoubleRatchet

variable {Secret Private : Type} {P : Primitives Secret Private}
variable {ratchet next : DoubleRatchet P} {message : RatchetMessage} {secret : Secret} {steps : Nat}

/-- `decrypt` takes a DH step on this message: it is neither too large nor too old, its key
is new, and the chain can be walked to the end the header gives. -/
def TakesDhStep (ratchet : DoubleRatchet P) (message : RatchetMessage) : Prop :=
  (message.ciphertext.length ≤ maxMessageSize ∧ ¬ message.header.messageNumber < ratchet.recvMessageNumber) ∧
    ¬ ratchet.KnowsKey message.header ∧ ratchet.MaySkip message.header.previousChainLength

instance : Decidable (ratchet.TakesDhStep message) := inferInstanceAs (Decidable (_ ∧ _ ∧ _))

structure AfterSteps (secret : Secret) (steps : Nat) (ratchet : DoubleRatchet P) : Prop where
  orphaned : ratchet.Orphaned
  root : RootAt P secret ratchet.rootKey (2 * steps)
  receiving : ∃ chainKey place, ratchet.receivingChainKey = some chainKey ∧
    ChainAt P secret chainKey (toLex (2 * steps - 1, place))
  sending : ∃ chainKey place, ratchet.sendingChainKey = some chainKey ∧
    ChainAt P secret chainKey (toLex (2 * steps, place))

theorem initAlice_afterSteps (drawn : Private) (secret : Secret) (key : PublicKey) :
    (initAlice drawn secret key : DoubleRatchet P).AfterSteps secret 0 where
  orphaned := initAlice_orphaned drawn secret key
  root := .start
  receiving := ⟨_, 0, rfl, .receiving⟩
  sending := ⟨_, 0, rfl, .sending⟩

theorem initBob_afterSteps (drawn : Private) (secret : Secret) :
    (initBob drawn secret : DoubleRatchet P).AfterSteps secret 0 where
  orphaned := initBob_orphaned drawn secret
  root := .start
  receiving := ⟨_, 0, rfl, .sending⟩
  sending := ⟨_, 0, rfl, .receiving⟩

theorem followHeader_new (new : ¬ ratchet.KnowsKey header) (drawn : Private) :
    (¬ ratchet.MaySkip header.previousChainLength ∧
      ∃ failure, ratchet.followHeader drawn header = (.error failure, ratchet)) ∨
    ∃ chainKey remoteDh, ratchet.MaySkip header.previousChainLength ∧ ratchet.receivingChainKey = some chainKey ∧
      ratchet.followHeader drawn header =
        (.ok (), (ratchet.skippedTo header.previousChainLength chainKey).dhRatchetStep drawn remoteDh) := by
  cases carried : header.dhPublic with
  | none => exact absurd (.inl carried) new
  | some remoteDh =>
    cases known : ratchet.remoteDhKey with
    | none => exact absurd (.inr (.inl known)) new
    | some currentRemote =>
      have differs : currentRemote ≠ remoteDh := by
        rintro rfl
        exact new (.inr (.inr (known.trans carried.symm)))
      rcases ratchet.skipMessageKeys_cases header.previousChainLength with
        ⟨far, failure, refused⟩ | ⟨chainKey, near, found, done⟩
      · exact .inl ⟨far, failure, by simp [followHeader, carried, known, differs, refused]⟩
      · exact .inr ⟨chainKey, remoteDh, near, found, by simp [followHeader, carried, known, differs, done]⟩

theorem decryptWith_refused (drawn : Private)
    (refused : ¬(message.ciphertext.length ≤ maxMessageSize ∧
      ¬ message.header.messageNumber < ratchet.recvMessageNumber)) :
    ∃ failure, ratchet.decryptWith drawn false message = (.error failure, ratchet) := by
  by_cases large : message.ciphertext.length > maxMessageSize
  · simp [decryptWith, selectKey, large]
  · have old : message.header.messageNumber < ratchet.recvMessageNumber := by
      by_contra recent
      exact refused ⟨by omega, recent⟩
    simp [decryptWith, selectKey, large, old]

namespace AfterSteps

section

variable (after : ratchet.AfterSteps secret steps)
include after

theorem encrypt (outcome : ratchet.encrypt nonce plaintext associatedData = (.ok message, next)) :
    next.AfterSteps secret steps ∧ ∃ place, OpenedAt P secret (toLex (2 * steps, place)) message.ciphertext := by
  obtain ⟨lastKey, place, sending, chain⟩ := after.sending
  rcases ratchet.encrypt_cases nonce plaintext associatedData with
    ⟨failure, refused⟩ | ⟨chainKey, ciphertext, found, closed, accepted⟩
  · cases outcome.symm.trans refused
  · cases outcome.symm.trans accepted
    obtain rfl : chainKey = lastKey := Option.some.inj (found.symm.trans sending)
    refine ⟨⟨after.orphaned, after.root, after.receiving, _, place + 1, rfl, chain.advanced⟩, place, ?_⟩
    exact ⟨chainKey, _, _, _, chain, cipherEncrypt_ok closed⟩

theorem skippedTo (target : UInt32)
    (found : ratchet.receivingChainKey = some chainKey) :
    (ratchet.skippedTo target chainKey).AfterSteps secret steps := by
  obtain ⟨current, place, held, chain⟩ := after.receiving
  cases found.symm.trans held
  exact ⟨after.orphaned.skippedTo target _, after.root, ⟨_, _, rfl, chain.chainAfter _⟩, after.sending⟩

theorem skipMessageKeys (target : UInt32) :
    (ratchet.skipMessageKeys target).2.AfterSteps secret steps := by
  rcases ratchet.skipMessageKeys_cases target with ⟨-, failure, refused⟩ | ⟨chainKey, -, found, done⟩
  · rwa [refused]
  · rw [done]
    exact after.skippedTo target found

theorem dhRatchetStep (drawn : Private) (remoteDh : PublicKey) :
    (ratchet.dhRatchetStep drawn remoteDh).AfterSteps secret (steps + 1) where
  orphaned := after.orphaned
  root := (after.root.derived _).derived _
  receiving := ⟨_, 0, rfl, .ratcheted _ after.root⟩
  sending := ⟨_, 0, rfl, .ratcheted _ (after.root.derived _)⟩

theorem ratchetForNextMessage (drawn : Private) :
    (ratchet.ratchetForNextMessage drawn).AfterSteps secret
      (if ratchet.remoteDhKey.isSome then steps + 1 else steps) := by
  cases known : ratchet.remoteDhKey with
  | none => simpa [DoubleRatchet.ratchetForNextMessage, known] using after
  | some remoteDh => simpa [DoubleRatchet.ratchetForNextMessage, known] using after.dhRatchetStep drawn remoteDh

theorem followHeader (drawn : Private) (header : MessageHeader) :
    (ratchet.followHeader drawn header).2.AfterSteps secret
      (if ¬ ratchet.KnowsKey header ∧ ratchet.MaySkip header.previousChainLength then steps + 1 else steps) := by
  by_cases knows : ratchet.KnowsKey header
  · obtain ⟨remoteDhKey, followed⟩ := knows.followHeader drawn
    rw [followed, if_neg fun both => both.1 knows]
    exact { after with }
  · rcases followHeader_new knows drawn with ⟨far, failure, refused⟩ | ⟨chainKey, remoteDh, near, found, done⟩
    · simpa [refused, far] using after
    · simpa [done, knows, near] using
        (after.skippedTo header.previousChainLength found).dhRatchetStep drawn remoteDh

theorem advanceTo (drawn : Private) (header : MessageHeader) :
    ∃ later, later = (if ¬ ratchet.KnowsKey header ∧ ratchet.MaySkip header.previousChainLength
        then steps + 1 else steps) ∧
      (ratchet.advanceTo drawn header).2.AfterSteps secret later := by
  obtain ⟨later, followed, count⟩ : ∃ later, (ratchet.followHeader drawn header).2.AfterSteps secret later ∧ _ :=
    ⟨_, after.followHeader drawn header, rfl⟩
  refine ⟨later, count.symm, ?_⟩
  unfold DoubleRatchet.advanceTo
  split <;> rename_i outcome <;> rw [outcome] at followed
  · exact followed
  · split
    · exact followed.skipMessageKeys _
    · exact followed

end

end AfterSteps

theorem AfterSteps.decrypt (ideal : AeadIdeal P) (after : ratchet.AfterSteps secret steps) (drawn : Private)
    (message : RatchetMessage) (associatedData : Bytes) :
    ∃ later, later = (if ratchet.TakesDhStep message then steps + 1 else steps) ∧
      (ratchet.decrypt drawn message associatedData).2.AfterSteps secret later ∧
      ∀ plaintext, (ratchet.decrypt drawn message associatedData).1 = .ok plaintext →
        ∃ place, OpenedAt P secret (toLex (2 * later - 1, place)) message.ciphertext := by
  rw [after.orphaned.decrypt_eq]
  by_cases looked : message.ciphertext.length ≤ maxMessageSize ∧
      ¬ message.header.messageNumber < ratchet.recvMessageNumber
  · obtain ⟨later, count, advanced⟩ := after.advanceTo drawn message.header
    refine ⟨later, by simp [count, TakesDhStep, looked], ?_⟩
    rw [decryptWith_false looked.1 looked.2]
    rcases outcome : ratchet.advanceTo drawn message.header with ⟨result, state⟩
    rw [outcome] at advanced
    cases result with
    | error failure =>
      refine ⟨advanced, fun plaintext accepted => ?_⟩
      cases accepted
    | ok _ =>
      obtain ⟨chainKey, place, found, chain⟩ := advanced.receiving
      simp only at found
      simp only [chainHead, found, openWith]
      split <;> rename_i opened
      · refine ⟨⟨advanced.orphaned, advanced.root, ⟨_, place + 1, rfl, chain.advanced⟩, advanced.sending⟩, ?_⟩
        intro _ _
        exact ⟨place, chainKey, _, _, _, chain, ideal.produced (cipherDecrypt_ok opened)⟩
      · refine ⟨advanced, fun plaintext accepted => ?_⟩
        cases accepted
  · obtain ⟨failure, refused⟩ := decryptWith_refused drawn looked
    have stays : ¬ ratchet.TakesDhStep message := fun takes => looked takes.1
    refine ⟨steps, by rw [if_neg stays], ?_⟩
    rw [refused]
    refine ⟨after, fun plaintext accepted => ?_⟩
    cases accepted

theorem Orphaned.sendingSide_decrypt (orphaned : ratchet.Orphaned) (stays : ¬ ratchet.TakesDhStep message)
    (drawn : Private) (associatedData : Bytes) :
    (ratchet.decrypt drawn message associatedData).2.sendingSide = ratchet.sendingSide := by
  rw [orphaned.decrypt_eq]
  by_cases looked : message.ciphertext.length ≤ maxMessageSize ∧
      ¬ message.header.messageNumber < ratchet.recvMessageNumber
  · by_cases knows : ratchet.KnowsKey message.header
    · exact knows.sendingSide_decryptWith drawn false
    · have far : ¬ ratchet.MaySkip message.header.previousChainLength :=
        fun near => stays ⟨looked, knows, near⟩
      rcases followHeader_new knows drawn with ⟨-, failure, refused⟩ | ⟨_, _, near, -, -⟩
      · rw [decryptWith_false looked.1 looked.2, DoubleRatchet.advanceTo, refused]
      · exact absurd near far
  · obtain ⟨failure, refused⟩ := decryptWith_refused drawn looked
    rw [refused]

end Rvpn.Crypto.DoubleRatchet
