import Mathlib.Data.Prod.Lex
import Rvpn.Crypto.SkippedKeys

/-! Every root and chain key of a session has one position in the key schedule of one shared secret. -/

namespace Rvpn.Crypto

variable {Secret Private : Type} (P : Primitives Secret Private)

/-- The shared secret is not itself an output of the root derivation, so no
derivation leads back to it. -/
def Original (secret : Secret) : Prop := ∀ rootKey dhOut, secret ≠ (kdfRk2 P rootKey dhOut).1

/-- The root keys of a session, with the number of derivations behind each. -/
inductive RootAt (secret : Secret) : Secret → Nat → Prop
  | start : RootAt secret secret 0
  | derived {rootKey : Secret} {depth : Nat} (dhOut : Secret) (root : RootAt secret rootKey depth) :
      RootAt secret (kdfRk2 P rootKey dhOut).1 (depth + 1)

/-- The position of a chain key: the depth of the root derivation it came from,
then its place in the chain. -/
abbrev Position := Nat ×ₗ Nat

inductive ChainAt (secret : Secret) : Secret → Position → Prop
  | sending : ChainAt secret (kdfInit P secret).1 (toLex (0, 0))
  | receiving : ChainAt secret (kdfInit P secret).2 (toLex (0, 0))
  | ratcheted {rootKey : Secret} {depth : Nat} (dhOut : Secret) (root : RootAt P secret rootKey depth) :
      ChainAt secret (kdfRk2 P rootKey dhOut).2 (toLex (depth + 1, 0))
  | advanced {chainKey : Secret} {depth place : Nat}
      (chain : ChainAt secret chainKey (toLex (depth, place))) :
      ChainAt secret (kdfCk P chainKey).2 (toLex (depth, place + 1))

def OpenedAt (secret : Secret) (position : Position) (ciphertext : Bytes) : Prop :=
  ∃ chainKey nonce aad plaintext, ChainAt P secret chainKey position ∧
    P.aeadEncrypt (kdfCk P chainKey).1 nonce aad plaintext = some ciphertext

variable {P} {secret other : Secret}

section

variable (free : KdfCollisionFree P)
include free

theorem RootAt.unique (original : Original P secret) (original' : Original P other)
    (first : RootAt P secret rootKey depth) (second : RootAt P other rootKey depth') :
    secret = other ∧ depth = depth' := by
  induction first generalizing depth' with
  | start =>
    cases second with
    | start => exact ⟨rfl, rfl⟩
    | derived dhOut root => exact absurd rfl (original _ dhOut)
  | @derived rootKey depth dhOut root ih =>
    generalize same : (kdfRk2 P rootKey dhOut).1 = derivedKey at second
    cases second with
    | start => exact absurd same.symm (original' rootKey dhOut)
    | derived dhOut' root' =>
      obtain ⟨sameRoot, -, -⟩ := free.fst_inj same
      cases sameRoot
      obtain ⟨rfl, rfl⟩ := ih root'
      exact ⟨rfl, rfl⟩

private theorem kdfInit_fst_inj (same : (kdfInit P secret).1 = (kdfInit P other).1) : secret = other := by
  simpa using (free.fst_inj same).2.1

private theorem kdfInit_snd_inj (same : (kdfInit P secret).2 = (kdfInit P other).2) : secret = other := by
  simpa using (free.snd_inj same).2.1

private theorem kdfInit_snd_ne_kdfRk2_snd (rootKey dhOut : Secret) :
    (kdfInit P secret).2 ≠ (kdfRk2 P rootKey dhOut).2 := by
  intro same
  cases (free.snd_inj same).1

theorem ChainAt.unique (original : Original P secret) (original' : Original P other)
    (first : ChainAt P secret chainKey position) (second : ChainAt P other chainKey position') :
    secret = other ∧ position = position' := by
  induction first generalizing position' with
  | sending =>
    generalize same : (kdfInit P secret).1 = chainKey at second
    cases second with
    | sending => exact ⟨kdfInit_fst_inj free same, rfl⟩
    | receiving | ratcheted => exact absurd same free.fst_ne_snd
    | advanced => exact absurd same.symm free.hmac_ne_fst
  | receiving =>
    generalize same : (kdfInit P secret).2 = chainKey at second
    cases second with
    | sending => exact absurd same.symm free.fst_ne_snd
    | receiving => exact ⟨kdfInit_snd_inj free same, rfl⟩
    | ratcheted => exact absurd same (kdfInit_snd_ne_kdfRk2_snd free _ _)
    | advanced => exact absurd same.symm free.hmac_ne_snd
  | @ratcheted rootKey depth dhOut root =>
    generalize same : (kdfRk2 P rootKey dhOut).2 = chainKey at second
    cases second with
    | sending => exact absurd same.symm free.fst_ne_snd
    | receiving => exact absurd same.symm (kdfInit_snd_ne_kdfRk2_snd free _ _)
    | ratcheted dhOut' root' =>
      obtain ⟨sameRoot, -, -⟩ := free.snd_inj same
      cases sameRoot
      obtain ⟨rfl, rfl⟩ := root.unique free original original' root'
      exact ⟨rfl, rfl⟩
    | advanced => exact absurd same.symm free.hmac_ne_snd
  | @advanced chainKey depth place chain ih =>
    generalize same : (kdfCk P chainKey).2 = nextKey at second
    cases second with
    | sending => exact absurd same free.hmac_ne_fst
    | receiving | ratcheted => exact absurd same free.hmac_ne_snd
    | advanced chain' =>
      cases (free.hmac_inj same).1
      obtain ⟨rfl, samePosition⟩ := ih chain'
      cases samePosition
      exact ⟨rfl, rfl⟩

end

theorem OpenedAt.unique (ideal : AeadIdeal P) (free : KdfCollisionFree P) (original : Original P secret)
    (original' : Original P other) (first : OpenedAt P secret position ciphertext)
    (second : OpenedAt P other position' ciphertext) : secret = other ∧ position = position' := by
  obtain ⟨chainKey, nonce, aad, plaintext, chain, produced⟩ := first
  obtain ⟨chainKey', nonce', aad', plaintext', chain', produced'⟩ := second
  have sameKey := (ideal.binding produced produced').1
  have sameChain : chainKey = chainKey' := (free.hmac_inj sameKey).1
  subst sameChain
  exact chain.unique free original original' chain'

theorem ChainAt.chainAfter (chain : ChainAt P secret chainKey (toLex (depth, place))) (n : Nat) :
    ChainAt P secret (chainAfter P chainKey n) (toLex (depth, place + n)) := by
  induction n with
  | zero => exact chain
  | succ n ih =>
    rw [chainAfter_succ]
    exact ih.advanced

/-- Where a receiver stands: at a chain position of its session, with a root
key derived at least as deep. -/
structure DoubleRatchet.StandsAt (secret : Secret) (ratchet : DoubleRatchet P) (position : Position) :
    Prop where
  orphaned : ratchet.Orphaned
  root : ∃ depth, (ofLex position).1 ≤ depth ∧ RootAt P secret ratchet.rootKey depth
  chain : ∃ chainKey, ratchet.receivingChainKey = some chainKey ∧ ChainAt P secret chainKey position

namespace DoubleRatchet

variable {ratchet : DoubleRatchet P} {position : Position}

theorem initAlice_standsAt (drawn : Private) (secret : Secret) (key : PublicKey) :
    (initAlice drawn secret key : DoubleRatchet P).StandsAt secret (toLex (0, 0)) :=
  ⟨initAlice_orphaned drawn secret key, ⟨0, Nat.le_refl 0, .start⟩, _, rfl, .receiving⟩

theorem initBob_standsAt (drawn : Private) (secret : Secret) :
    (initBob drawn secret : DoubleRatchet P).StandsAt secret (toLex (0, 0)) :=
  ⟨initBob_orphaned drawn secret, ⟨0, Nat.le_refl 0, .start⟩, _, rfl, .sending⟩

section

variable (stands : ratchet.StandsAt secret position)
include stands

theorem StandsAt.skippedTo (target : UInt32)
    (found : ratchet.receivingChainKey = some chainKey) :
    ∃ later, position ≤ later ∧ (ratchet.skippedTo target chainKey).StandsAt secret later := by
  obtain ⟨current, held, chain⟩ := stands.chain
  cases found.symm.trans held
  refine ⟨toLex ((ofLex position).1, (ofLex position).2 +
    (target.toNat - ratchet.recvMessageNumber.toNat)), ?_, ?_⟩
  · exact Prod.Lex.toLex_mono (Prod.mk_le_mk.mpr ⟨Nat.le_refl _, Nat.le_add_right _ _⟩)
  · exact ⟨stands.orphaned.skippedTo target _, stands.root, _, rfl, chain.chainAfter _⟩

theorem StandsAt.dhRatchetStep (drawn : Private)
    (remoteDh : PublicKey) :
    ∃ later, position ≤ later ∧ (ratchet.dhRatchetStep drawn remoteDh).StandsAt secret later := by
  obtain ⟨depth, deep, root⟩ := stands.root
  refine ⟨toLex (depth + 1, 0), ?_, stands.orphaned, ⟨depth + 2, ?_, (root.derived _).derived _⟩,
    _, rfl, .ratcheted _ root⟩
  · exact (Prod.Lex.lt_iff.mpr (.inl (Nat.lt_succ_of_le deep))).le
  · exact Nat.le_succ _

theorem StandsAt.advanceTo (drawn : Private)
    (header : MessageHeader) :
    ∃ later, position ≤ later ∧ (ratchet.advanceTo drawn header).2.StandsAt secret later := by
  apply advanceTo_preserves fun state => ∃ later, position ≤ later ∧ state.StandsAt secret later
  · rintro state remoteDh ⟨later, after, holds⟩ -
    exact ⟨later, after, holds.orphaned, holds.root, holds.chain⟩
  · rintro state chainKey target ⟨later, after, holds⟩ found
    obtain ⟨final, further, holds'⟩ := holds.skippedTo target found
    exact ⟨final, after.trans further, holds'⟩
  · rintro state remoteDh ⟨later, after, holds⟩
    obtain ⟨final, further, holds'⟩ := holds.dhRatchetStep drawn remoteDh
    exact ⟨final, after.trans further, holds'⟩
  · exact ⟨position, le_rfl, stands⟩

end

private theorem position_lt_next (position : Position) :
    position < toLex ((ofLex position).1, (ofLex position).2 + 1) :=
  Prod.Lex.lt_iff.mpr (.inr ⟨rfl, Nat.lt_succ_self _⟩)

theorem StandsAt.decrypt (ideal : AeadIdeal P) (stands : ratchet.StandsAt secret position)
    (drawn : Private) (message : RatchetMessage) (associatedData : Bytes) :
    ∃ later, position ≤ later ∧ (ratchet.decrypt drawn message associatedData).2.StandsAt secret later ∧
      ∀ plaintext, (ratchet.decrypt drawn message associatedData).1 = .ok plaintext →
        ∃ used, position ≤ used ∧ used < later ∧ OpenedAt P secret used message.ciphertext := by
  rw [stands.orphaned.decrypt_eq]
  obtain ⟨later, after, holds⟩ := stands.advanceTo drawn message.header
  rcases outcome : ratchet.decryptWith drawn false message with ⟨result, final⟩
  cases result with
  | error failure =>
    rcases decryptWith_false_error outcome with same | same
    · exact ⟨position, le_rfl, same ▸ stands, nofun⟩
    · exact ⟨later, after, same ▸ holds, nofun⟩
  | ok plaintext =>
    obtain ⟨next, chainKey, reached, found, opened, rfl⟩ := decryptWith_false_ok outcome
    rw [reached] at holds
    obtain ⟨current, held, chain⟩ := holds.chain
    cases found.symm.trans held
    refine ⟨toLex ((ofLex later).1, (ofLex later).2 + 1), ?_, ?_, ?_⟩
    · exact after.trans (position_lt_next later).le
    · exact ⟨holds.orphaned, holds.root, _, rfl, chain.advanced⟩
    · intro _ _
      exact ⟨later, after, position_lt_next later, chainKey, _, _, _, chain,
        ideal.produced (cipherDecrypt_ok opened)⟩

end DoubleRatchet

end Rvpn.Crypto
