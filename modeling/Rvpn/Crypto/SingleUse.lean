import Rvpn.Crypto.Symbolic

/-! Whatever calls are made on a session's ratchet, on honest, forged, replayed
or altered messages, no ciphertext is accepted twice. -/

namespace Rvpn.Crypto

variable {Secret Private : Type} {P : Primitives Secret Private}

/-- A method call on a ratchet, with its arguments and the randomness it draws. -/
inductive Call (Private : Type) where
  | encrypt (nonce : Nonce) (plaintext associatedData : Bytes)
  | encryptTo (nonce : Nonce) (plaintext associatedData ciphertextOut : Bytes)
  | decrypt (drawn : Private) (message : RatchetMessage) (associatedData : Bytes)
  | decryptTo (drawn : Private) (message : RatchetMessage) (associatedData plaintextOut : Bytes)
  | decryptToRef (drawn : Private) (message : RatchetMessage) (associatedData plaintextOut : Bytes)
  | ratchetForNextMessage (drawn : Private)

inductive Fresh (secret : Secret) : DoubleRatchet P → Prop
  | alice (drawn : Private) (serverPublicKey : PublicKey) :
      Fresh secret (.initAlice drawn secret serverPublicKey)
  | bob (drawn : Private) : Fresh secret (.initBob drawn secret)

namespace DoubleRatchet

def perform (ratchet : DoubleRatchet P) : Call Private → Option Bytes × DoubleRatchet P
  | .encrypt nonce plaintext associatedData =>
    (none, (ratchet.encrypt nonce plaintext associatedData).2)
  | .encryptTo nonce plaintext associatedData ciphertextOut =>
    (none, (ratchet.encryptTo nonce plaintext associatedData ciphertextOut).2.2)
  | .decrypt drawn message associatedData =>
    match ratchet.decrypt drawn message associatedData with
    | (.ok _, next) => (some message.ciphertext, next)
    | (.error _, next) => (none, next)
  | .decryptTo drawn message associatedData plaintextOut =>
    match ratchet.decryptTo drawn message associatedData plaintextOut with
    | (.ok _, _, next) => (some message.ciphertext, next)
    | (.error _, _, next) => (none, next)
  | .decryptToRef drawn message associatedData plaintextOut =>
    match ratchet.decryptToRef drawn message associatedData plaintextOut with
    | (.ok _, _, next) => (some message.ciphertext, next)
    | (.error _, _, next) => (none, next)
  | .ratchetForNextMessage drawn => (none, ratchet.ratchetForNextMessage drawn)

def accepted : DoubleRatchet P → List (Call Private) → List Bytes
  | _, [] => []
  | ratchet, call :: rest =>
    (ratchet.perform call).1.toList ++ accepted (ratchet.perform call).2 rest

variable {ratchet : DoubleRatchet P} {secret : Secret} {position : Position}

private theorem perform_decryptTo (drawn : Private) (message : RatchetMessage)
    (associatedData plaintextOut : Bytes) :
    ratchet.perform (.decryptTo drawn message associatedData plaintextOut) =
      ratchet.perform (.decrypt drawn message associatedData) := by
  simp only [perform, decryptTo_eq]
  rcases ratchet.decrypt drawn message associatedData with ⟨_ | _, next⟩ <;> rfl

private theorem perform_decryptToRef (drawn : Private) (message : RatchetMessage)
    (associatedData plaintextOut : Bytes) :
    ratchet.perform (.decryptToRef drawn message associatedData plaintextOut) =
      ratchet.perform (.decrypt drawn message associatedData) := by
  obtain ⟨leftover, same⟩ := ratchet.decryptToRef_eq drawn message associatedData plaintextOut
  simp only [perform, same]
  rcases ratchet.decrypt drawn message associatedData with ⟨_ | _, next⟩ <;> rfl

theorem StandsAt.encrypt (stands : ratchet.StandsAt secret position) (nonce : Nonce)
    (plaintext associatedData : Bytes) :
    (ratchet.encrypt nonce plaintext associatedData).2.StandsAt secret position := by
  rcases ratchet.encrypt_cases nonce plaintext associatedData with
    ⟨failure, outcome⟩ | ⟨chainKey, ciphertext, -, -, outcome⟩
  · rwa [outcome]
  · rw [outcome]
    exact { stands with }

private theorem encryptTo_state (nonce : Nonce) (plaintext associatedData ciphertextOut : Bytes) :
    (ratchet.encryptTo nonce plaintext associatedData ciphertextOut).2.2 =
      (ratchet.encrypt nonce plaintext associatedData).2 := by
  unfold encryptTo
  split <;> rename_i outcome <;> rw [outcome]

theorem StandsAt.perform (ideal : AeadIdeal P) (stands : ratchet.StandsAt secret position)
    (call : Call Private) :
    ∃ later, position ≤ later ∧ (ratchet.perform call).2.StandsAt secret later ∧
      ∀ ciphertext, (ratchet.perform call).1 = some ciphertext →
        ∃ used, position ≤ used ∧ used < later ∧ OpenedAt P secret used ciphertext := by
  have decrypted : ∀ drawn message associatedData,
      ∃ later, position ≤ later ∧
        (ratchet.perform (.decrypt drawn message associatedData)).2.StandsAt secret later ∧
        ∀ ciphertext, (ratchet.perform (.decrypt drawn message associatedData)).1 = some ciphertext →
          ∃ used, position ≤ used ∧ used < later ∧ OpenedAt P secret used ciphertext := by
    intro drawn message associatedData
    obtain ⟨later, after, holds, opened⟩ := stands.decrypt ideal drawn message associatedData
    rcases outcome : ratchet.decrypt drawn message associatedData with ⟨_ | plaintext, next⟩
    · rw [outcome] at holds
      exact ⟨later, after, by simpa [DoubleRatchet.perform, outcome] using holds,
        by simp [DoubleRatchet.perform, outcome]⟩
    · rw [outcome] at holds opened
      refine ⟨later, after, by simpa [DoubleRatchet.perform, outcome] using holds, ?_⟩
      intro ciphertext same
      obtain rfl : message.ciphertext = ciphertext := by
        simpa [DoubleRatchet.perform, outcome] using same
      exact opened plaintext rfl
  cases call with
  | encrypt nonce plaintext associatedData =>
    exact ⟨position, le_rfl, stands.encrypt nonce plaintext associatedData, nofun⟩
  | encryptTo nonce plaintext associatedData ciphertextOut =>
    refine ⟨position, le_rfl, ?_, nofun⟩
    simp only [DoubleRatchet.perform, encryptTo_state]
    exact stands.encrypt nonce plaintext associatedData
  | decrypt drawn message associatedData => exact decrypted drawn message associatedData
  | decryptTo drawn message associatedData plaintextOut =>
    rw [perform_decryptTo]
    exact decrypted drawn message associatedData
  | decryptToRef drawn message associatedData plaintextOut =>
    rw [perform_decryptToRef]
    exact decrypted drawn message associatedData
  | ratchetForNextMessage drawn =>
    cases known : ratchet.remoteDhKey with
    | none =>
      exact ⟨position, le_rfl, by simpa [DoubleRatchet.perform, ratchetForNextMessage, known], nofun⟩
    | some remoteDh =>
      obtain ⟨later, after, holds⟩ := stands.dhRatchetStep drawn remoteDh
      exact ⟨later, after, by simpa [DoubleRatchet.perform, ratchetForNextMessage, known], nofun⟩

theorem StandsAt.accepted_openedAt (ideal : AeadIdeal P) (stands : ratchet.StandsAt secret position)
    (calls : List (Call Private)) :
    ∀ ciphertext ∈ ratchet.accepted calls,
      ∃ used, position ≤ used ∧ OpenedAt P secret used ciphertext := by
  induction calls generalizing ratchet position with
  | nil => simp [accepted]
  | cons call rest ih =>
    intro ciphertext member
    obtain ⟨later, after, holds, opened⟩ := stands.perform ideal call
    rcases List.mem_append.mp member with now | onward
    · obtain ⟨used, beyond, -, made⟩ := opened ciphertext (Option.mem_toList.mp now)
      exact ⟨used, beyond, made⟩
    · obtain ⟨used, beyond, made⟩ := ih holds ciphertext onward
      exact ⟨used, after.trans beyond, made⟩

theorem StandsAt.accepted_nodup (ideal : AeadIdeal P) (free : KdfCollisionFree P)
    (original : Original P secret) (stands : ratchet.StandsAt secret position)
    (calls : List (Call Private)) : (ratchet.accepted calls).Nodup := by
  induction calls generalizing ratchet position with
  | nil => exact List.nodup_nil
  | cons call rest ih =>
    obtain ⟨later, -, holds, opened⟩ := stands.perform ideal call
    refine List.nodup_append.mpr ⟨?_, ih holds, ?_⟩
    · cases (ratchet.perform call).1 <;> simp
    · intro ciphertext now again onward same
      obtain ⟨used, -, before, made⟩ := opened ciphertext (Option.mem_toList.mp now)
      obtain ⟨reused, beyond, remade⟩ := holds.accepted_openedAt ideal rest again onward
      have position_eq := (made.unique ideal free original original (same ▸ remade)).2
      exact absurd (position_eq ▸ beyond) (not_le_of_gt before)

/-- Within one session each ciphertext is accepted at most once. -/
theorem accepted_at_most_once (ideal : AeadIdeal P) (free : KdfCollisionFree P)
    (original : Original P secret) (fresh : Fresh secret ratchet) (calls : List (Call Private))
    (ciphertext : Bytes) : (ratchet.accepted calls).count ciphertext ≤ 1 := by
  have stands : ratchet.StandsAt secret (toLex (0, 0)) := by
    cases fresh with
    | alice drawn serverPublicKey => exact initAlice_standsAt drawn secret serverPublicKey
    | bob drawn => exact initBob_standsAt drawn secret
  exact List.nodup_iff_count_le_one.mp (stands.accepted_nodup ideal free original calls) ciphertext

open Symbolic in
/-- A message and its two replays through the other decrypt functions. -/
theorem replay_accepted_once :
    ∃ message next, (initAlice (keyOf 1) [9] (keyOf 2) : DoubleRatchet primitives).encrypt (nonceOf 3)
        [104, 105] [5] = (.ok message, next) ∧
      let calls := [.decrypt (keyOf 4) message [5], .decryptTo (keyOf 5) message [5] [],
        .decryptToRef (keyOf 6) message [5] []]
      (initBob (keyOf 7) [9] : DoubleRatchet primitives).accepted calls = [message.ciphertext] ∧
        ((initBob (keyOf 7) [9] : DoubleRatchet primitives).accepted calls).count
          message.ciphertext ≤ 1 := by
  refine ⟨_, _, rfl, by decide +kernel, ?_⟩
  exact accepted_at_most_once aeadIdeal kdfCollisionFree (original (by decide)) (.bob (keyOf 7)) _ _

end DoubleRatchet

end Rvpn.Crypto
