import Rvpn.Crypto.SingleUse
import Rvpn.Lib.Slots
import Rvpn.Lib.Transition
import Rvpn.Session.Handshake

/-! A server with fixed keys, its sessions, honest clients, and a network that delivers whatever it likes wherever it
likes. -/

namespace Rvpn.Session

open Crypto

variable {Secret Private : Type} {P : Primitives Secret Private}

/-- `accepted` records, for each message the server decrypted, the number of the
session and the ciphertext. -/
structure Network (P : Primitives Secret Private) where
  clients : List (DoubleRatchet P)
  sessions : List (ServerSession P)
  sent : List RatchetMessage
  accepted : List (Nat × Bytes)

/-- The network chooses every action and every message: the Hello and the bundle may be recorded, altered or made up,
and so may a ratchet message. -/
inductive NetworkAction (Private : Type) where
  | clientConnect (identity ephemeral drawn : Private) (bundle : X3dhPublicBundle)
  | clientEncrypt (client : Nat) (nonce : Nonce) (plaintext associatedData : Bytes)
  | clientDecrypt (client : Nat) (drawn : Private) (message : RatchetMessage) (associatedData : Bytes)
  | serverHello (drawn : Private) (message : HandshakeMessage)
  | serverEncrypt (session : Nat) (nonce : Nonce) (plaintext associatedData : Bytes)
  | serverDecrypt (session : Nat) (drawn : Private) (message : RatchetMessage)

namespace Network

def start : Network P := ⟨[], [], [], []⟩

def callSession (state : Network P) (index : Nat) (call : Call Private) : Option (Network P) :=
  state.sessions[index]?.map fun session =>
    let (opened, next) := session.ratchet.perform call
    { state with
      sessions := state.sessions.set index { session with ratchet := next }
      accepted := state.accepted ++ opened.toList.map (index, ·) }

def step (responder : X3dhPrivateBundle Private) (state : Network P) :
    NetworkAction Private → Option (Network P)
  | .clientConnect identity ephemeral drawn bundle =>
    let initiator : X3dhInitiator P := ⟨identity, .generate P ephemeral⟩
    some { state with
      clients := state.clients ++ [.initAlice drawn (initiator.agree bundle) (Vector.replicate 32 0)] }
  | .clientEncrypt client nonce plaintext associatedData =>
    state.clients[client]?.map fun ratchet =>
      match ratchet.encrypt nonce plaintext associatedData with
      | (.ok message, next) =>
        { state with clients := state.clients.set client next, sent := state.sent ++ [message] }
      | (.error _, next) => { state with clients := state.clients.set client next }
  | .clientDecrypt client drawn message associatedData =>
    state.clients[client]?.map fun ratchet =>
      { state with clients := state.clients.set client (ratchet.decrypt drawn message associatedData).2 }
  | .serverHello drawn message =>
    match (performHandshake (some responder) drawn message).2 with
    | some session => some { state with sessions := state.sessions ++ [session] }
    | none => some state
  | .serverEncrypt index nonce plaintext associatedData =>
    state.callSession index (.encrypt nonce plaintext associatedData)
  | .serverDecrypt index drawn message =>
    -- `decrypt_and_parse_frame` knows the payload types up to 0x0C.
    if message.header.payloadType > 0x0C then
      some state
    else
      state.callSession index (.decrypt drawn message [message.header.payloadType])

def FreshHello (state : Network P) : NetworkAction Private → Prop
  | .serverHello _ (.hello hello) => ∀ session ∈ state.sessions,
      ¬ (keyOfBytes hello.identityKey = some session.clientIdentity ∧
        keyOfBytes hello.ephemeralKey = some session.clientEphemeral)
  | _ => True

end Network

def ServerSession.secret (responder : X3dhPrivateBundle Private) (session : ServerSession P) : Secret :=
  responder.agree P session.clientIdentity session.clientEphemeral false

/-- Every session stands at a position of its secret's key schedule, past what it has accepted; no two sessions have
one secret; and no ciphertext has been accepted twice. -/
structure Isolated (responder : X3dhPrivateBundle Private) (state : Network P) : Prop where
  stands : ∀ {index : Nat} {session : ServerSession P}, state.sessions[index]? = some session →
    ∃ position, session.ratchet.StandsAt (session.secret responder) position ∧
      ∀ ciphertext, (index, ciphertext) ∈ state.accepted →
        ∃ used, used < position ∧ OpenedAt P (session.secret responder) used ciphertext
  located : ∀ entry ∈ state.accepted, entry.1 < state.sessions.length
  distinct : ∀ {index index' : Nat} {session session' : ServerSession P},
    state.sessions[index]? = some session → state.sessions[index']? = some session' →
      session.secret responder = session'.secret responder → index = index'
  unique : (state.accepted.map Prod.snd).Nodup

variable {responder : X3dhPrivateBundle Private} {state next : Network P}

theorem start_isolated : Isolated responder (Network.start : Network P) :=
  ⟨nofun, nofun, nofun, List.nodup_nil⟩

theorem Isolated.callSession (ideal : AeadIdeal P) (free : KdfCollisionFree P)
    (isolated : Isolated responder state) (taken : state.callSession index call = some next) :
    Isolated responder next := by
  obtain ⟨session, found, rfl⟩ := Option.map_eq_some_iff.mp taken
  obtain ⟨position, stands, passed⟩ := isolated.stands found
  obtain ⟨later, after, stands', opened⟩ := stands.perform ideal call
  have inside : index < state.sessions.length := (List.getElem?_eq_some_iff.mp found).1
  refine ⟨?_, ?_, ?_, ?_⟩
  · intro other session' present
    rcases Slots.of_set present with ⟨rfl, rfl⟩ | ⟨different, old⟩
    · refine ⟨later, stands', fun ciphertext member => ?_⟩
      rcases List.mem_append.mp member with past | now
      · obtain ⟨used, before, made⟩ := passed ciphertext past
        exact ⟨used, before.trans_le after, made⟩
      · have accepted : (session.ratchet.perform call).1 = some ciphertext := by simpa using now
        obtain ⟨used, -, before, made⟩ := opened ciphertext accepted
        exact ⟨used, before, made⟩
    · obtain ⟨position', stands'', passed'⟩ := isolated.stands old
      refine ⟨position', stands'', fun ciphertext member => passed' ciphertext ?_⟩
      simpa [Ne.symm different] using member
  · intro entry member
    rw [List.length_set]
    rcases List.mem_append.mp member with past | now
    · exact isolated.located entry past
    · obtain ⟨ciphertext, -, rfl⟩ := List.mem_map.mp now
      exact inside
  · intro first second session₁ session₂ present₁ present₂ same
    rcases Slots.of_set present₁ with ⟨rfl, rfl⟩ | ⟨-, old₁⟩ <;>
      rcases Slots.of_set present₂ with ⟨rfl, rfl⟩ | ⟨-, old₂⟩
    · rfl
    · exact isolated.distinct found old₂ same
    · exact isolated.distinct old₁ found same
    · exact isolated.distinct old₁ old₂ same
  · rw [List.map_append, List.nodup_append]
    refine ⟨isolated.unique, ?_, ?_⟩
    · cases (session.ratchet.perform call).1 <;> simp
    -- A ciphertext accepted before was opened under another position: of this
    -- session, at one it has passed; of another session, under another secret.
    · intro ciphertext past again now same
      obtain ⟨⟨other, _⟩, member, rfl⟩ := List.mem_map.mp past
      have accepted : (session.ratchet.perform call).1 = some again := by simpa using now
      obtain ⟨used, beyond, -, made⟩ := opened again accepted
      obtain ⟨session', found'⟩ : ∃ session', state.sessions[other]? = some session' :=
        ⟨_, List.getElem?_eq_getElem (isolated.located _ member)⟩
      obtain ⟨position', -, passed'⟩ := isolated.stands found'
      obtain ⟨used', before, made'⟩ := passed' _ member
      obtain ⟨sameSecret, samePosition⟩ := made'.unique ideal free (responder.agree_original free _ _ _)
        (responder.agree_original free _ _ _) (same ▸ made)
      obtain rfl := isolated.distinct found' found sameSecret
      obtain ⟨used'', before'', made''⟩ := passed _ member
      have passedAt := (made''.unique ideal free (responder.agree_original free _ _ _)
        (responder.agree_original free _ _ _) (same ▸ made)).2
      exact absurd (passedAt ▸ before'') (not_lt_of_ge beyond)

theorem Isolated.serverHello (dh : DhSymbolic P) (free : KdfCollisionFree P)
    (isolated : Isolated responder state)
    (opened : (performHandshake (some responder) drawn message).2 = some session)
    (fresh : state.FreshHello (.serverHello drawn message)) :
    Isolated responder { state with sessions := state.sessions ++ [session] } := by
  obtain ⟨hello, rfl, ephemeral, identity, ratchet⟩ := performHandshake_session opened
  have other : ∀ {index : Nat} {old : ServerSession P}, state.sessions[index]? = some old →
      old.secret responder ≠ session.secret responder := by
    intro index old found same
    obtain ⟨sameIdentity, sameEphemeral⟩ := responder.agree_inj dh free same
    exact fresh old (List.mem_of_getElem? found)
      ⟨sameIdentity ▸ identity, sameEphemeral ▸ ephemeral⟩
  refine ⟨?_, ?_, ?_, isolated.unique⟩
  · intro index found present
    rcases Slots.of_append present with old | ⟨rfl, rfl⟩
    · exact isolated.stands old
    · refine ⟨toLex (0, 0), ratchet ▸ DoubleRatchet.initBob_standsAt drawn _, ?_⟩
      intro ciphertext member
      exact absurd (isolated.located _ member) (Nat.lt_irrefl _)
  · intro entry member
    have inside := isolated.located entry member
    simp only [List.length_append, List.length_singleton]
    omega
  · intro first second session₁ session₂ present₁ present₂ same
    rcases Slots.of_append present₁ with old₁ | ⟨rfl, rfl⟩ <;> rcases Slots.of_append present₂ with old₂ | ⟨rfl, rfl⟩
    · exact isolated.distinct old₁ old₂ same
    · exact absurd same (other old₁)
    · exact absurd same.symm (other old₂)
    · rfl

theorem step_isolated (dh : DhSymbolic P) (ideal : AeadIdeal P) (free : KdfCollisionFree P)
    (action : NetworkAction Private) (isolated : Isolated responder state)
    (fresh : state.FreshHello action) (taken : state.step responder action = some next) :
    Isolated responder next := by
  cases action with
  | clientConnect identity ephemeral drawn bundle =>
    cases taken
    exact { isolated with }
  | clientEncrypt client nonce plaintext associatedData =>
    obtain ⟨ratchet, -, rfl⟩ := Option.map_eq_some_iff.mp taken
    split <;> exact { isolated with }
  | clientDecrypt client drawn message associatedData =>
    obtain ⟨ratchet, -, rfl⟩ := Option.map_eq_some_iff.mp taken
    exact { isolated with }
  | serverHello drawn message =>
    simp only [Network.step] at taken
    split at taken
    · rename_i session opened
      cases taken
      exact isolated.serverHello dh free opened fresh
    · cases taken
      exact isolated
  | serverEncrypt index nonce plaintext associatedData =>
    simp only [Network.step] at taken
    exact isolated.callSession ideal free taken
  | serverDecrypt index drawn message =>
    simp only [Network.step] at taken
    split at taken
    · cases taken
      exact isolated
    · exact isolated.callSession ideal free taken

/-- If no Hello is processed twice, every message of an honest client is
accepted at most once over all sessions of the server. -/
theorem accepted_once_of_freshHello (dh : DhSymbolic P) (ideal : AeadIdeal P) (free : KdfCollisionFree P)
    (responder : X3dhPrivateBundle Private) (actions : List (NetworkAction Private)) (final : Network P)
    (fresh : Transition.Meets (Network.step responder) Network.FreshHello
      (Network.start : Network P) actions)
    (reached : Transition.run (Network.step responder) Network.start actions = some final) :
    ∀ message ∈ final.sent, (final.accepted.map Prod.snd).count message.ciphertext ≤ 1 := by
  have isolated : Isolated responder final :=
    Transition.run_preserves_of_meets
      (fun _ action _ isolated fresh taken => step_isolated dh ideal free action isolated fresh taken)
      start_isolated fresh reached
  exact fun message _ => List.nodup_iff_count_le_one.mp isolated.unique message.ciphertext

section Replayed

open Symbolic

def serverKeys : X3dhPrivateBundle (Vector UInt8 32) where
  identityKey := keyOf 1
  prekeySignature := []
  identityX25519Key := keyOf 2
  signedPrekey := keyOf 3
  oneTimePrekey := none

def client : X3dhInitiator primitives := ⟨keyOf 4, .generate primitives (keyOf 5)⟩

def greeting : RatchetMessage :=
  let ratchet : DoubleRatchet primitives :=
    .initAlice (keyOf 6) (client.agree (serverKeys.getPublicBundle primitives)) (keyOf 0)
  { header := ratchet.nextHeader 5
    nonce := nonceOf 7
    ciphertext := pack (kdfCk primitives (kdfInit primitives ratchet.rootKey).1).1 (nonceOf 7) [5] [104] }

def firstVisit : List (NetworkAction (Vector UInt8 32)) :=
  [.clientConnect (keyOf 4) (keyOf 5) (keyOf 6) (serverKeys.getPublicBundle primitives),
    .clientEncrypt 0 (nonceOf 7) [104] [5], .serverHello (keyOf 8) (.hello (clientHello client)),
    .serverDecrypt 0 (keyOf 9) greeting]

def secondVisit : List (NetworkAction (Vector UInt8 32)) :=
  [.serverHello (keyOf 10) (.hello (clientHello client)), .serverDecrypt 1 (keyOf 11) greeting]

theorem firstVisit_accepted_once :
    ∃ final : Network primitives,
      Transition.run (Network.step serverKeys) Network.start firstVisit = some final ∧
      final.accepted.length = 1 ∧
      ∀ message ∈ final.sent, (final.accepted.map Prod.snd).count message.ciphertext ≤ 1 := by
  refine Transition.exists_of_evaluated (p := fun final => final.accepted.length = 1) (by decide +kernel) ?_
  intro final reached count
  refine ⟨count, accepted_once_of_freshHello dhSymbolic aeadIdeal kdfCollisionFree serverKeys firstVisit final
    ?_ reached⟩
  refine ⟨trivial, fun first taken => ⟨trivial, fun second taken' => ⟨?_, fun _ _ =>
    ⟨trivial, fun _ _ => trivial⟩⟩⟩⟩
  cases taken
  cases taken'
  exact nofun

/-- The replayed Hello opens a second session on the same secret, and that
session accepts the greeting again. -/
theorem replayed_greeting_accepted_twice :
    (Transition.run (Network.step serverKeys) (Network.start : Network primitives)
        (firstVisit ++ secondVisit)).map (fun final => (final.sent, final.accepted)) =
      some ([greeting], [(0, greeting.ciphertext), (1, greeting.ciphertext)]) ∧
    ¬ ([(0, greeting.ciphertext), (1, greeting.ciphertext)].map Prod.snd).count
        greeting.ciphertext ≤ 1 := by
  refine ⟨by decide +kernel, ?_⟩
  simp

end Replayed

end Rvpn.Session
