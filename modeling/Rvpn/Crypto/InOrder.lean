import Rvpn.Crypto.Symbolic
import Rvpn.Lib.Transition

/-! Two ratchets joined by two FIFO queues: in each direction one unbroken chain. -/

namespace Rvpn.Crypto

inductive Side where
  | alice
  | bob
deriving DecidableEq

def Side.other : Side → Side
  | alice => bob
  | bob => alice

@[simp] theorem Side.other_other (side : Side) : side.other.other = side := by cases side <;> rfl

@[simp] theorem Side.other_ne (side : Side) : side.other ≠ side := by cases side <;> nofun

@[simp] theorem Side.ne_other (side : Side) : side ≠ side.other := (Side.other_ne side).symm

theorem Side.eq_or_eq_other (side target : Side) : target = side ∨ target = side.other := by
  cases side <;> cases target <;> simp [Side.other]

section Traced

variable {Entry : Type} {message : Entry → RatchetMessage} {inbox : Side → List Entry} {sent : List RatchetMessage}

theorem traced_append (traced : ∀ side, ∀ entry ∈ inbox side, message entry ∈ sent) (side : Side) (new : Entry) :
    ∀ target, ∀ entry ∈ Function.update inbox side (inbox side ++ [new]) target,
      message entry ∈ sent ++ [message new] := by
  intro target entry member
  by_cases same : target = side
  · subst same
    rw [Function.update_self] at member
    rcases List.mem_append.mp member with old | fresh
    · exact List.mem_append_left _ (traced target entry old)
    · rw [List.mem_singleton.mp fresh]
      exact List.mem_append_right _ (List.mem_singleton_self _)
  · rw [Function.update_of_ne same] at member
    exact List.mem_append_left _ (traced target entry member)

theorem traced_rest (traced : ∀ side, ∀ entry ∈ inbox side, message entry ∈ sent)
    (waiting : inbox side = first :: rest) :
    ∀ target, ∀ entry ∈ Function.update inbox side rest target, message entry ∈ sent := by
  intro target entry member
  by_cases same : target = side
  · subst same
    rw [Function.update_self] at member
    exact traced target entry (waiting ▸ List.mem_cons_of_mem _ member)
  · rw [Function.update_of_ne same] at member
    exact traced target entry member

end Traced

structure InFlight where
  message : RatchetMessage
  plaintext : Bytes

/-- What a decrypt call returned for a message, beside what was encrypted. -/
structure Delivery where
  plaintext : Bytes
  result : Except Error Bytes

variable {Secret Private : Type}

structure Conversation (P : Primitives Secret Private) where
  ratchet : Side → DoubleRatchet P
  inbox : Side → List InFlight
  sent : List RatchetMessage
  delivered : List Delivery

inductive Event (Private : Type) where
  | encrypt (side : Side) (nonce : Nonce) (plaintext associatedData : Bytes)
  | decrypt (side : Side) (drawn : Private) (associatedData : Bytes)

variable {P : Primitives Secret Private}

namespace Conversation

def start (secret : Secret) (drawn : Side → Private) (serverPublicKey : PublicKey) : Conversation P where
  ratchet
    | .alice => .initAlice (drawn .alice) secret serverPublicKey
    | .bob => .initBob (drawn .bob) secret
  inbox _ := []
  sent := []
  delivered := []

def step (state : Conversation P) : Event Private → Option (Conversation P)
  | .encrypt side nonce plaintext associatedData =>
    match (state.ratchet side).encrypt nonce plaintext associatedData with
    | (.ok message, next) =>
      some { state with
        ratchet := Function.update state.ratchet side next
        inbox := Function.update state.inbox side.other
          (state.inbox side.other ++ [⟨message, plaintext⟩])
        sent := state.sent ++ [message] }
    | (.error _, next) => some { state with ratchet := Function.update state.ratchet side next }
  | .decrypt side drawn associatedData =>
    match state.inbox side with
    | [] => none
    | flight :: rest =>
      let (result, next) := (state.ratchet side).decrypt drawn flight.message associatedData
      some { state with
        ratchet := Function.update state.ratchet side next
        inbox := Function.update state.inbox side rest
        delivered := state.delivered ++ [⟨flight.plaintext, result⟩] }

end Conversation

/-- The queue continues the chain: each message closes under the next key and
carries the next number, and the sender stands where the queue ends. -/
inductive Continues (P : Primitives Secret Private) (remoteDh : PublicKey) :
    Secret → UInt32 → List InFlight → Secret → UInt32 → Prop
  | done (chainKey : Secret) (number : UInt32) : Continues P remoteDh chainKey number [] chainKey number
  | message {chainKey lastKey : Secret} {number lastNumber : UInt32} {flight : InFlight}
      {rest : List InFlight} (carried : flight.message.header.dhPublic = some remoteDh)
      (numbered : flight.message.header.messageNumber = number)
      (closed : cipherEncrypt P (kdfCk P chainKey).1 flight.message.nonce
        [flight.message.header.payloadType] flight.plaintext = .ok flight.message.ciphertext)
      (onward : Continues P remoteDh (kdfCk P chainKey).2 (number + 1) rest lastKey lastNumber) :
      Continues P remoteDh chainKey number (flight :: rest) lastKey lastNumber

theorem Continues.append (continues : Continues P remoteDh chainKey number queue lastKey lastNumber)
    (carried : flight.message.header.dhPublic = some remoteDh)
    (numbered : flight.message.header.messageNumber = lastNumber)
    (closed : cipherEncrypt P (kdfCk P lastKey).1 flight.message.nonce
      [flight.message.header.payloadType] flight.plaintext = .ok flight.message.ciphertext) :
    Continues P remoteDh chainKey number (queue ++ [flight]) (kdfCk P lastKey).2 (lastNumber + 1) := by
  induction continues with
  | done chainKey number => exact .message carried numbered closed (.done _ _)
  | message carried' numbered' closed' _ ih => exact .message carried' numbered' closed' (ih numbered closed)

structure InStep (sender receiver : DoubleRatchet P) (queue : List InFlight) : Prop where
  orphaned : receiver.Orphaned
  chain : ∃ remoteDh chainKey lastKey, sender.getDhPublicKey = some remoteDh ∧
    (receiver.remoteDhKey = none ∨ receiver.remoteDhKey = some remoteDh) ∧
    receiver.receivingChainKey = some chainKey ∧ sender.sendingChainKey = some lastKey ∧
    Continues P remoteDh chainKey receiver.recvMessageNumber queue lastKey sender.sendMessageNumber

variable {sender receiver : DoubleRatchet P} {queue : List InFlight}

theorem InStep.encrypt (inStep : InStep sender receiver queue)
    (sent : sender.encrypt nonce plaintext associatedData = (.ok message, next)) :
    InStep next receiver (queue ++ [⟨message, plaintext⟩]) := by
  obtain ⟨remoteDh, chainKey, lastKey, own, known, found, sending, continues⟩ := inStep.chain
  rcases sender.encrypt_cases nonce plaintext associatedData with
    ⟨failure, outcome⟩ | ⟨usedKey, ciphertext, used, closed, outcome⟩
  · cases sent.symm.trans outcome
  · cases sent.symm.trans outcome
    cases used.symm.trans sending
    exact ⟨inStep.orphaned, remoteDh, chainKey, _, own, known, found, rfl,
      continues.append own rfl closed⟩

theorem InStep.decrypt (correct : AeadCorrect P) (inStep : InStep sender receiver (flight :: queue))
    (drawn : Private) (associatedData : Bytes) (size : flight.message.ciphertext.length ≤ maxMessageSize) :
    ∃ next, receiver.decrypt drawn flight.message associatedData = (.ok flight.plaintext, next) ∧
      InStep sender next queue ∧ next.getDhPublicKey = receiver.getDhPublicKey ∧
      next.sendingChainKey = receiver.sendingChainKey ∧
      next.sendMessageNumber = receiver.sendMessageNumber := by
  obtain ⟨remoteDh, chainKey, lastKey, own, known, found, sending, continues⟩ := inStep.chain
  cases continues with
  | message carried numbered closed onward =>
    have decrypted := inStep.orphaned.decrypt_expected drawn associatedData size carried
      known numbered found (correct.cipherDecrypt closed)
    exact ⟨_, decrypted, ⟨inStep.orphaned, remoteDh, _, lastKey, own, .inr rfl, rfl, sending, onward⟩,
      rfl, rfl, rfl⟩

theorem InStep.of_sender (inStep : InStep sender receiver queue)
    (sameKey : next.getDhPublicKey = sender.getDhPublicKey)
    (sameChain : next.sendingChainKey = sender.sendingChainKey)
    (sameNumber : next.sendMessageNumber = sender.sendMessageNumber) : InStep next receiver queue := by
  obtain ⟨remoteDh, chainKey, lastKey, own, known, found, sending, continues⟩ := inStep.chain
  exact ⟨inStep.orphaned, remoteDh, chainKey, lastKey, sameKey.trans own, known, found,
    sameChain.trans sending, sameNumber ▸ continues⟩

theorem InStep.ofAlice (alice bob : Private) (secret : Secret) (serverPublicKey : PublicKey) :
    InStep (.initAlice alice secret serverPublicKey : DoubleRatchet P) (.initBob bob secret) [] :=
  ⟨DoubleRatchet.initBob_orphaned _ _, _, _, _, rfl, .inl rfl, rfl, rfl, .done _ _⟩

theorem InStep.ofBob (alice bob : Private) (secret : Secret) (serverPublicKey : PublicKey) :
    InStep (.initBob bob secret : DoubleRatchet P) (.initAlice alice secret serverPublicKey) [] :=
  ⟨DoubleRatchet.initAlice_orphaned _ _ _, _, _, _, rfl, .inl rfl, rfl, rfl, .done _ _⟩

namespace Conversation

/-- The largest ciphertext `decrypt` looks at. -/
def Fits (message : RatchetMessage) : Prop := message.ciphertext.length ≤ maxMessageSize

/-- Both directions are in step, what is on its way was sent, and every
decrypt so far returned what had been encrypted. -/
structure Coupled (state : Conversation P) : Prop where
  inStep : ∀ side, InStep (state.ratchet side) (state.ratchet side.other) (state.inbox side.other)
  traced : ∀ side, ∀ flight ∈ state.inbox side, flight.message ∈ state.sent
  faithful : ∀ delivery ∈ state.delivered, delivery.result = .ok delivery.plaintext

theorem start_coupled (secret : Secret) (drawn : Side → Private) (serverPublicKey : PublicKey) :
    (start secret drawn serverPublicKey : Conversation P).Coupled where
  inStep side := by
    cases side with
    | alice => exact .ofAlice _ _ _ serverPublicKey
    | bob => exact .ofBob _ _ _ serverPublicKey
  traced := nofun
  faithful := nofun

theorem Coupled.encrypt {state : Conversation P} (coupled : state.Coupled) (side : Side)
    (sent : (state.ratchet side).encrypt nonce plaintext associatedData = (.ok message, next)) :
    ({ state with
        ratchet := Function.update state.ratchet side next
        inbox := Function.update state.inbox side.other
          (state.inbox side.other ++ [⟨message, plaintext⟩])
        sent := state.sent ++ [message] } : Conversation P).Coupled where
  inStep sender := by
    rcases side.eq_or_eq_other sender with rfl | rfl
    · simpa using (coupled.inStep sender).encrypt sent
    · have back := coupled.inStep side.other
      rw [Side.other_other] at back
      rcases (state.ratchet side).encrypt_cases nonce plaintext associatedData with
        ⟨failure, outcome⟩ | ⟨chainKey, ciphertext, -, -, outcome⟩
      · cases sent.symm.trans outcome
      · cases sent.symm.trans outcome
        simpa using (⟨back.orphaned, back.chain⟩ : InStep (state.ratchet side.other)
          { state.ratchet side with
            sendingChainKey := some (kdfCk P chainKey).2
            sendMessageNumber := (state.ratchet side).sendMessageNumber + 1 } (state.inbox side))
  traced := traced_append coupled.traced side.other _
  faithful := coupled.faithful

theorem Coupled.decrypt (correct : AeadCorrect P) {state : Conversation P} (coupled : state.Coupled)
    {flight : InFlight} (waiting : state.inbox side = flight :: rest) (size : Fits flight.message)
    (drawn : Private) (associatedData : Bytes) :
    ({ state with
        ratchet := Function.update state.ratchet side
          ((state.ratchet side).decrypt drawn flight.message associatedData).2
        inbox := Function.update state.inbox side rest
        delivered := state.delivered ++ [⟨flight.plaintext,
          ((state.ratchet side).decrypt drawn flight.message associatedData).1⟩] } :
      Conversation P).Coupled := by
  have inStep := coupled.inStep side.other
  rw [Side.other_other, waiting] at inStep
  obtain ⟨next, decrypted, onward, sameKey, sameChain, sameNumber⟩ :=
    inStep.decrypt correct drawn associatedData size
  rw [decrypted]
  refine ⟨fun sender => ?_, traced_rest coupled.traced waiting, fun delivery member => ?_⟩
  · rcases side.eq_or_eq_other sender with rfl | rfl
    · simpa using (coupled.inStep sender).of_sender sameKey sameChain sameNumber
    · simpa using onward
  · rcases List.mem_append.mp member with old | new
    · exact coupled.faithful delivery old
    · rw [List.mem_singleton.mp new]

theorem step_coupled (correct : AeadCorrect P) {state next : Conversation P} {event : Event Private}
    (coupled : (∀ message ∈ state.sent, Fits message) → state.Coupled)
    (taken : state.step event = some next) (fits : ∀ message ∈ next.sent, Fits message) :
    next.Coupled := by
  cases event with
  | encrypt side nonce plaintext associatedData =>
    rcases outcome : (state.ratchet side).encrypt nonce plaintext associatedData with ⟨result, ratchet⟩
    cases result with
    | ok message =>
      obtain rfl : _ = next := by simpa [step, outcome] using taken
      exact (coupled fun message member => fits message (List.mem_append_left _ member)).encrypt side
        outcome
    | error failure =>
      rcases (state.ratchet side).encrypt_cases nonce plaintext associatedData with
        ⟨_, same⟩ | ⟨_, _, _, _, same⟩
      · cases outcome.symm.trans same
        obtain rfl : state = next := by simpa [step, outcome] using taken
        exact coupled fits
      · cases outcome.symm.trans same
  | decrypt side drawn associatedData =>
    cases waiting : state.inbox side with
    | nil => simp [step, waiting] at taken
    | cons flight rest =>
      obtain rfl : _ = next := by simpa [step, waiting] using taken
      have before := coupled fits
      exact before.decrypt correct waiting
        (fits _ (before.traced side flight (by simp [waiting]))) drawn associatedData

/-- Messages delivered in the order they were encrypted decrypt to their
plaintexts, in both directions and for every interleaving. -/
theorem decrypt_returns_plaintext (correct : AeadCorrect P) (secret : Secret) (drawn : Side → Private)
    (serverPublicKey : PublicKey) (events : List (Event Private)) (final : Conversation P)
    (reached : Transition.run step (start secret drawn serverPublicKey) events = some final)
    (fits : ∀ message ∈ final.sent, message.ciphertext.length ≤ maxMessageSize) :
    ∀ delivery ∈ final.delivered, delivery.result = .ok delivery.plaintext := by
  have coupled : (∀ message ∈ final.sent, Fits message) → final.Coupled :=
    Transition.run_preserves
      (fun _ _ _ before taken => step_coupled correct before taken)
      (fun _ => start_coupled secret drawn serverPublicKey) reached
  exact (coupled fits).faithful

open Symbolic in
def exchange : List (Event (Vector UInt8 32)) :=
  [.encrypt .alice (nonceOf 1) [104, 105] [5], .encrypt .bob (nonceOf 2) [111, 107] [5],
    .decrypt .bob (keyOf 3) [5], .encrypt .alice (nonceOf 4) [] [], .decrypt .alice (keyOf 5) [5],
    .decrypt .bob (keyOf 6) []]

open Symbolic in
theorem exchange_returns_plaintext :
    ∃ final, Transition.run step (start [9] (fun _ => keyOf 7) (keyOf 8) : Conversation primitives)
        exchange = some final ∧
      final.delivered.length = 3 ∧
      ∀ delivery ∈ final.delivered, delivery.result = .ok delivery.plaintext := by
  refine Transition.exists_of_evaluated (p := fun final => final.delivered.length = 3 ∧
    ∀ message ∈ final.sent, message.ciphertext.length ≤ maxMessageSize) (by decide +kernel) fun final reached facts => ?_
  exact ⟨facts.1, decrypt_returns_plaintext aeadCorrect [9] (fun _ => keyOf 7) (keyOf 8) exchange final reached facts.2⟩

end Conversation

end Rvpn.Crypto
