import Rvpn.Crypto.InOrder

/-! Delivery in another order than that of encryption: a message that is overtaken is lost. -/

namespace Rvpn.Crypto

variable {Secret Private : Type} {P : Primitives Secret Private}

/-- The arguments of one `encrypt` call. -/
structure Outgoing where
  nonce : Nonce
  plaintext : Bytes
  associatedData : Bytes

/-- The arguments of one `decrypt` call. -/
structure Arrival (Private : Type) where
  drawn : Private
  flight : InFlight
  associatedData : Bytes

namespace DoubleRatchet

/-- Encrypt a list of messages; `none` if the cipher refuses one. -/
def encryptAll : DoubleRatchet P → List Outgoing → Option (List InFlight)
  | _, [] => some []
  | ratchet, outgoing :: rest =>
    match ratchet.encrypt outgoing.nonce outgoing.plaintext outgoing.associatedData with
    | (.ok message, next) => (next.encryptAll rest).map (⟨message, outgoing.plaintext⟩ :: ·)
    | (.error _, _) => none

/-- The results of a sequence of `decrypt` calls. -/
def decryptAll : DoubleRatchet P → List (Arrival Private) → List (Except Error Bytes)
  | _, [] => []
  | ratchet, arrival :: rest =>
    let (result, next) := ratchet.decrypt arrival.drawn arrival.flight.message arrival.associatedData
    result :: next.decryptAll rest

end DoubleRatchet

/-- The flight was closed under the message key at this place of the chain, and
carries the sender's key. -/
structure ClosedAt (P : Primitives Secret Private) (remoteDh : PublicKey) (chainKey : Secret)
    (place : Nat) (flight : InFlight) : Prop where
  carried : flight.message.header.dhPublic = some remoteDh
  closed : cipherEncrypt P (kdfCk P (chainAfter P chainKey place)).1 flight.message.nonce
    [flight.message.header.payloadType] flight.plaintext = .ok flight.message.ciphertext

def Precedes (P : Primitives Secret Private) (remoteDh : PublicKey) (chainKey : Secret)
    (first second : InFlight) : Prop :=
  ∃ place place', place < place' ∧ ClosedAt P remoteDh chainKey place first ∧
    ClosedAt P remoteDh chainKey place' second

theorem chainAfter_inj (free : KdfCollisionFree P) (base : ∀ key, chainKey ≠ (kdfCk P key).2)
    (same : chainAfter P chainKey place = chainAfter P chainKey place') : place = place' := by
  induction place generalizing place' with
  | zero =>
    cases place' with
    | zero => rfl
    | succ place' => exact absurd (same.trans (chainAfter_succ _ _)) (base _)
  | succ place ih =>
    cases place' with
    | zero => exact absurd (same.symm.trans (chainAfter_succ _ _)) (base _)
    | succ place' =>
      rw [chainAfter_succ, chainAfter_succ] at same
      rw [ih (free.hmac_inj same).1]

section Chain

variable {remoteDh : PublicKey} {chainKey : Secret} {flight : InFlight} {place place' : Nat}

theorem ClosedAt.opens_iff (correct : AeadCorrect P) (ideal : AeadIdeal P) (free : KdfCollisionFree P)
    (base : ∀ key, chainKey ≠ (kdfCk P key).2) (closed : ClosedAt P remoteDh chainKey place flight)
    (plaintext : Bytes) :
    cipherDecrypt P (kdfCk P (chainAfter P chainKey place')).1 flight.message.nonce
        [flight.message.header.payloadType] flight.message.ciphertext = .ok plaintext ↔
      place' = place ∧ plaintext = flight.plaintext := by
  constructor
  · intro opened
    have produced := ideal.produced (cipherDecrypt_ok opened)
    obtain ⟨sameKey, -, -, samePlaintext⟩ := ideal.binding produced (cipherEncrypt_ok closed.closed)
    exact ⟨chainAfter_inj free base (free.hmac_inj sameKey).1, samePlaintext⟩
  · rintro ⟨rfl, rfl⟩
    exact correct.cipherDecrypt closed.closed

theorem ClosedAt.place_unique (ideal : AeadIdeal P) (free : KdfCollisionFree P)
    (base : ∀ key, chainKey ≠ (kdfCk P key).2) (first : ClosedAt P remoteDh chainKey place flight)
    (second : ClosedAt P remoteDh chainKey place' flight) : place = place' := by
  have sameKey := (ideal.binding (cipherEncrypt_ok first.closed) (cipherEncrypt_ok second.closed)).1
  exact chainAfter_inj free base (free.hmac_inj sameKey).1

theorem Precedes.asymm (ideal : AeadIdeal P) (free : KdfCollisionFree P)
    (base : ∀ key, chainKey ≠ (kdfCk P key).2) (before : Precedes P remoteDh chainKey first second)
    (after : Precedes P remoteDh chainKey second first) : False := by
  obtain ⟨a, b, less, atA, atB⟩ := before
  obtain ⟨c, d, less', atC, atD⟩ := after
  have sameFirst := atA.place_unique ideal free base atD
  have sameSecond := atB.place_unique ideal free base atC
  omega

theorem Continues.closedAt (continues : Continues P remoteDh start number queue lastKey lastNumber)
    (placed : start = chainAfter P chainKey offset) :
    (∀ flight ∈ queue, ∃ place, offset ≤ place ∧ ClosedAt P remoteDh chainKey place flight) ∧
      queue.Pairwise (Precedes P remoteDh chainKey) := by
  induction continues generalizing offset with
  | done => simp
  | @message current _ _ _ flight rest carried numbered closed onward ih =>
    have placedNext : (kdfCk P current).2 = chainAfter P chainKey (offset + 1) := by
      rw [chainAfter_succ, placed]
    obtain ⟨later, ordered⟩ := ih placedNext
    have here : ClosedAt P remoteDh chainKey offset flight := ⟨carried, placed ▸ closed⟩
    refine ⟨?_, List.pairwise_cons.mpr ⟨?_, ordered⟩⟩
    · intro other member
      rcases List.mem_cons.mp member with rfl | member
      · exact ⟨offset, Nat.le_refl _, here⟩
      · obtain ⟨place, beyond, closedThere⟩ := later other member
        exact ⟨place, Nat.le_of_succ_le beyond, closedThere⟩
    · intro other member
      obtain ⟨place, beyond, closedThere⟩ := later other member
      exact ⟨offset, place, beyond, here, closedThere⟩

/-- A receiver that reads the sender's chain from a place. Its message number
is left open: only the chain key decides what opens. -/
structure ReadsFrom (remoteDh : PublicKey) (chainKey : Secret) (place : Nat)
    (receiver : DoubleRatchet P) : Prop where
  orphaned : receiver.Orphaned
  known : receiver.remoteDhKey = none ∨ receiver.remoteDhKey = some remoteDh
  found : receiver.receivingChainKey = some (chainAfter P chainKey place)

variable {receiver : DoubleRatchet P}

theorem ReadsFrom.advanceTo (reads : ReadsFrom remoteDh chainKey place receiver)
    (carried : header.dhPublic = some remoteDh) (drawn : Private) :
    ∃ later, place ≤ later ∧
      ReadsFrom remoteDh chainKey later (receiver.advanceTo drawn header).2 := by
  rw [DoubleRatchet.advanceTo_known carried reads.known]
  have adopted : ReadsFrom remoteDh chainKey place
      { receiver with remoteDhKey := some remoteDh } := ⟨reads.orphaned, .inr rfl, reads.found⟩
  by_cases ahead : header.messageNumber > receiver.recvMessageNumber
  · simp only [ahead]
    rcases DoubleRatchet.skipMessageKeys_cases { receiver with remoteDhKey := some remoteDh }
      header.messageNumber with ⟨-, failure, refused⟩ | ⟨current, -, found, done⟩
    · exact ⟨place, Nat.le_refl _, by rwa [refused]⟩
    · cases found.symm.trans reads.found
      rw [done]
      exact ⟨_, Nat.le_add_right place _, adopted.orphaned.skippedTo _ _, .inr rfl,
        congrArg some (chainAfter_add chainKey place _)⟩
  · simp only [ahead]
    exact ⟨place, Nat.le_refl _, adopted⟩

theorem ReadsFrom.decrypt (correct : AeadCorrect P) (ideal : AeadIdeal P) (free : KdfCollisionFree P)
    (base : ∀ key, chainKey ≠ (kdfCk P key).2) (reads : ReadsFrom remoteDh chainKey place receiver)
    (closed : ClosedAt P remoteDh chainKey place' flight) (drawn : Private) (associatedData : Bytes) :
    ∃ later, ReadsFrom remoteDh chainKey later
        (receiver.decrypt drawn flight.message associatedData).2 ∧
      ∀ plaintext, (receiver.decrypt drawn flight.message associatedData).1 = .ok plaintext →
        place ≤ place' ∧ later = place' + 1 ∧ flight.message.ciphertext.length ≤ maxMessageSize := by
  rw [reads.orphaned.decrypt_eq]
  obtain ⟨later, beyond, moved⟩ := reads.advanceTo closed.carried drawn
  rcases outcome : receiver.decryptWith drawn false flight.message with ⟨result, final⟩
  cases result with
  | error failure =>
    rcases DoubleRatchet.decryptWith_false_error outcome with same | same
    · exact ⟨place, same ▸ reads, nofun⟩
    · exact ⟨later, same ▸ moved, nofun⟩
  | ok plaintext =>
    have size := DoubleRatchet.decryptWith_ok_size outcome
    obtain ⟨next, current, reached, found, opened, rfl⟩ := DoubleRatchet.decryptWith_false_ok outcome
    rw [reached] at moved
    cases found.symm.trans moved.found
    obtain ⟨rfl, -⟩ := (closed.opens_iff correct ideal free base plaintext).mp opened
    refine ⟨later + 1, ⟨moved.orphaned, moved.known, ?_⟩, fun _ _ => ⟨beyond, rfl, size⟩⟩
    exact congrArg some (chainAfter_succ chainKey later).symm

theorem ReadsFrom.ordered_of_decryptAll (correct : AeadCorrect P) (ideal : AeadIdeal P)
    (free : KdfCollisionFree P) (base : ∀ key, chainKey ≠ (kdfCk P key).2)
    (reads : ReadsFrom remoteDh chainKey place receiver) (arrivals : List (Arrival Private))
    (closed : ∀ arrival ∈ arrivals, ∃ k, ClosedAt P remoteDh chainKey k arrival.flight)
    (succeeded : ∀ result ∈ receiver.decryptAll arrivals, ∃ plaintext, result = .ok plaintext) :
    (∀ arrival ∈ arrivals, arrival.flight.message.ciphertext.length ≤ maxMessageSize ∧
        ∃ k, place ≤ k ∧ ClosedAt P remoteDh chainKey k arrival.flight) ∧
      (arrivals.map Arrival.flight).Pairwise (Precedes P remoteDh chainKey) := by
  induction arrivals generalizing receiver place with
  | nil => simp
  | cons arrival rest ih =>
    obtain ⟨k, closedHere⟩ := closed arrival List.mem_cons_self
    obtain ⟨later, moved, opened⟩ :=
      reads.decrypt correct ideal free base closedHere arrival.drawn arrival.associatedData
    obtain ⟨plaintext, success⟩ := succeeded _ List.mem_cons_self
    obtain ⟨beyond, rfl, size⟩ := opened plaintext success
    obtain ⟨laterClosed, ordered⟩ := ih moved
      (fun other member => closed other (List.mem_cons_of_mem _ member))
      (fun result member => succeeded result (List.mem_cons_of_mem _ member))
    refine ⟨?_, List.pairwise_cons.mpr ⟨?_, ordered⟩⟩
    · intro other member
      rcases List.mem_cons.mp member with rfl | member
      · exact ⟨size, k, beyond, closedHere⟩
      · obtain ⟨fits, k', after, closedThere⟩ := laterClosed other member
        exact ⟨fits, k', by omega, closedThere⟩
    · intro flight member
      obtain ⟨other, present, rfl⟩ := List.mem_map.mp member
      obtain ⟨-, k', after, closedThere⟩ := laterClosed other present
      exact ⟨k, k', after, closedHere, closedThere⟩

end Chain

variable {sender receiver : DoubleRatchet P} {queue flights : List InFlight}

theorem InStep.encryptAll (inStep : InStep sender receiver queue)
    (encrypted : sender.encryptAll outgoing = some flights) :
    ∃ next, InStep next receiver (queue ++ flights) := by
  induction outgoing generalizing sender queue flights with
  | nil =>
    cases encrypted
    exact ⟨sender, by simpa using inStep⟩
  | cons call rest ih =>
    rcases outcome : sender.encrypt call.nonce call.plaintext call.associatedData with ⟨result, next⟩
    cases result with
    | error failure => simp [DoubleRatchet.encryptAll, outcome] at encrypted
    | ok message =>
      simp only [DoubleRatchet.encryptAll, outcome, Option.map_eq_some_iff] at encrypted
      obtain ⟨tail, later, rfl⟩ := encrypted
      obtain ⟨last, inStep'⟩ := ih (inStep.encrypt outcome) later
      exact ⟨last, by simpa using inStep'⟩

theorem InStep.decryptAll (correct : AeadCorrect P) (arrivals : List (Arrival Private))
    (inStep : InStep sender receiver (arrivals.map Arrival.flight))
    (fits : ∀ arrival ∈ arrivals, arrival.flight.message.ciphertext.length ≤ maxMessageSize) :
    receiver.decryptAll arrivals = arrivals.map fun arrival => .ok arrival.flight.plaintext := by
  induction arrivals generalizing receiver with
  | nil => rfl
  | cons arrival rest ih =>
    obtain ⟨next, decrypted, onward, -⟩ := InStep.decrypt correct inStep arrival.drawn
      arrival.associatedData (fits arrival List.mem_cons_self)
    simp [DoubleRatchet.decryptAll, decrypted,
      ih onward fun other member => fits other (List.mem_cons_of_mem _ member)]

theorem kdfInit_ne_kdfCk (free : KdfCollisionFree P) (secret key : Secret) :
    (kdfInit P secret).1 ≠ (kdfCk P key).2 ∧ (kdfInit P secret).2 ≠ (kdfCk P key).2 :=
  ⟨fun same => free.hmac_ne_fst same.symm, fun same => free.hmac_ne_snd same.symm⟩

/-- Delivered in any order, the messages of one party all decrypt if and only
if the order is that of encryption and none is too large. -/
theorem decryptAll_iff_in_order (correct : AeadCorrect P) (ideal : AeadIdeal P)
    (free : KdfCollisionFree P) (secret : Secret) (drawn : Side → Private)
    (serverPublicKey : PublicKey) (side : Side) (outgoing : List Outgoing)
    (encrypted : ((Conversation.start secret drawn serverPublicKey : Conversation P).ratchet
      side).encryptAll outgoing = some flights)
    (arrivals : List (Arrival Private)) (permuted : (arrivals.map Arrival.flight).Perm flights) :
    ((Conversation.start secret drawn serverPublicKey : Conversation P).ratchet side.other).decryptAll
        arrivals = arrivals.map (fun arrival => .ok arrival.flight.plaintext) ↔
      arrivals.map Arrival.flight = flights ∧
        ∀ flight ∈ flights, flight.message.ciphertext.length ≤ maxMessageSize := by
  have initially : InStep _ _ [] :=
    (Conversation.start_coupled (P := P) secret drawn serverPublicKey).inStep side
  obtain ⟨last, inStep⟩ := initially.encryptAll encrypted
  constructor
  · intro decrypted
    obtain ⟨remoteDh, chainKey, lastKey, -, known, found, -, continues⟩ := inStep.chain
    have base : ∀ key, chainKey ≠ (kdfCk P key).2 := by
      intro key
      cases side with
      | alice => exact Option.some.inj found ▸ (kdfInit_ne_kdfCk free secret key).1
      | bob => exact Option.some.inj found ▸ (kdfInit_ne_kdfCk free secret key).2
    obtain ⟨closed, ordered⟩ := continues.closedAt (chainAfter_zero chainKey).symm
    have succeeded : ∀ result ∈ ((Conversation.start secret drawn serverPublicKey :
        Conversation P).ratchet side.other).decryptAll arrivals,
        ∃ plaintext, result = .ok plaintext := by
      intro result member
      rw [decrypted] at member
      obtain ⟨arrival, -, same⟩ := List.mem_map.mp member
      exact ⟨_, same.symm⟩
    have reads : ReadsFrom remoteDh chainKey 0 _ := ⟨inStep.orphaned, known, found⟩
    obtain ⟨fits, arrivedOrdered⟩ := reads.ordered_of_decryptAll correct ideal free base arrivals
      (fun arrival member => by
        obtain ⟨k, -, closedHere⟩ := closed arrival.flight
          (permuted.subset (List.mem_map_of_mem member))
        exact ⟨k, closedHere⟩) succeeded
    refine ⟨permuted.eq_of_pairwise ?_ arrivedOrdered ordered, ?_⟩
    · intro first second _ _ before after
      exact absurd after fun after => before.asymm ideal free base after
    · intro flight member
      obtain ⟨arrival, present, rfl⟩ := List.mem_map.mp (permuted.symm.subset member)
      exact (fits arrival present).1
  · rintro ⟨rfl, fits⟩
    exact InStep.decryptAll correct arrivals inStep
      fun arrival member => fits _ (List.mem_map_of_mem member)

section Swapped

open Symbolic

def twoMessages : List Outgoing := [⟨nonceOf 1, [97], [5]⟩, ⟨nonceOf 2, [98], [5]⟩]

def talk : Conversation primitives := .start [9] (fun _ => keyOf 7) (keyOf 8)

def arrive (flight : InFlight) : Arrival (Vector UInt8 32) := ⟨keyOf 3, flight, [5]⟩

theorem in_order_decrypts :
    ∃ flights, (talk.ratchet .alice).encryptAll twoMessages = some flights ∧ flights.length = 2 ∧
      (talk.ratchet .bob).decryptAll (flights.map arrive) =
        (flights.map arrive).map fun arrival => .ok arrival.flight.plaintext := by
  refine Transition.exists_of_evaluated (p := fun flights => flights.length = 2 ∧
    ∀ flight ∈ flights, flight.message.ciphertext.length ≤ maxMessageSize) (by decide +kernel) fun flights encrypted facts => ?_
  have arrived : (flights.map arrive).map Arrival.flight = flights := by
    rw [List.map_map]
    exact List.map_id flights
  refine ⟨facts.1, ?_⟩
  exact (decryptAll_iff_in_order aeadCorrect aeadIdeal kdfCollisionFree [9] (fun _ => keyOf 7)
    (keyOf 8) .alice twoMessages encrypted (flights.map arrive) (.of_eq arrived)).mpr ⟨arrived, facts.2⟩

/-- Two messages that swap places, well within `MAX_SKIP`: the second is accepted, and the first is then refused
although its key was stored. -/
theorem swapped_does_not_decrypt :
    ∃ first second, (talk.ratchet .alice).encryptAll twoMessages = some [first, second] ∧
      second.message.header.messageNumber.toNat ≤ 0 + maxSkip ∧ [first, second].length ≤ maxSkip ∧
      (talk.ratchet .bob).decryptAll [arrive second, arrive first] =
        [.ok [98], .error (.decryptionFailed "Message too old: target=0, current=2")] ∧
      (talk.ratchet .bob).decryptAll [arrive second, arrive first] ≠
        [.ok second.plaintext, .ok first.plaintext] := by
  refine ⟨_, _, rfl, by decide +kernel, by decide, by decide +kernel, by decide +kernel⟩

end Swapped

end Rvpn.Crypto
