import Rvpn.Crypto.InOrder
import Rvpn.Crypto.Wire
import Rvpn.Lib.Batcher
import Rvpn.Mux.Encoding

/-! IP packets in batches through a tunnel: what platforms and directions have in common. -/

namespace Rvpn.Mux

open Crypto

variable {Secret Private Output : Type}

/-- ChaCha20-Poly1305 encrypts every message of the sizes in use and adds a tag of sixteen bytes. -/
structure AeadSized (P : Primitives Secret Private) : Prop where
  encrypts : ∀ key nonce aad plaintext, plaintext.length ≤ maxMessageSize →
    ∃ ciphertext, P.aeadEncrypt key nonce aad plaintext = some ciphertext ∧
      ciphertext.length = plaintext.length + tagSize

/-- The flow id of TUN packets, `TUN_DATA_FLOW_ID`. -/
def tunDataFlowId : FlowId := 1
/-- `PayloadType::Data`. -/
def dataPayloadType : UInt8 := 0x01
/-- `TUN_BATCH_MAX_FRAMES` and `OUTGOING_BATCH_MAX_FRAMES`. -/
def batchMaxFrames : Nat := 16
/-- `TUN_BATCH_MAX_BYTES` and `OUTGOING_BATCH_MAX_BYTES`. -/
def batchMaxBytes : Nat := 14 * 1024
def receiveBufferSize : Nat := 16384

/-- The errors of the `encrypt_data_batch` functions. -/
inductive BatchError where
  | emptyBatch
  | frame (cause : FrameTooLarge)
  | padding (cause : DataTooLarge)
  | encryption (cause : Crypto.Error)
  deriving DecidableEq

def encryptPadded {P : Primitives Secret Private} (ratchet : DoubleRatchet P) (nonce : Nonce) (fill : Nat → UInt8)
    (plaintext : Bytes) : Except BatchError Bytes × DoubleRatchet P :=
  match padPacket fill plaintext with
  | .error cause => (.error (.padding cause), ratchet)
  | .ok padded =>
    match ratchet.encrypt nonce padded [dataPayloadType] with
    | (.error cause, next) => (.error (.encryption cause), next)
    | (.ok message, next) => (.ok message.toBytes, next)

/-- How one end batches and encrypts, and what the other makes of a message. Nonce and padding are
drawn by the sender, and a key by a receiver that steps its ratchet. -/
structure Link (P : Primitives Secret Private) (Output : Type) where
  policy : Batcher.Policy Bytes
  encryptDataBatch : DoubleRatchet P → Nonce → (Nat → UInt8) → List Bytes →
    Except BatchError Bytes × DoubleRatchet P
  receive : DoubleRatchet P → Private → Bytes → List Output × DoubleRatchet P

variable {P : Primitives Secret Private}

structure LinkState (P : Primitives Secret Private) (Output : Type) where
  loop : Batcher.State Bytes
  sender : DoubleRatchet P
  receiver : DoubleRatchet P
  sent : List Bytes
  transit : List Bytes
  delivered : List Output

inductive LinkAction (Private : Type) where
  | loop (action : Batcher.Action Bytes)
  | send (nonce : Nonce) (fill : Nat → UInt8)
  | receive (drawn : Private)

namespace Link

def start (sender receiver : DoubleRatchet P) : LinkState P Output where
  loop := .start
  sender
  receiver
  sent := []
  transit := []
  delivered := []

def step (link : Link P Output) (state : LinkState P Output) : LinkAction Private → Option (LinkState P Output)
  | .loop action => (Batcher.step link.policy state.loop action).map fun loop => { state with loop }
  | .send nonce fill =>
    match Batcher.handOn state.loop with
    | none => none
    | some (batch, loop) =>
      match link.encryptDataBatch state.sender nonce fill batch with
      | (.ok message, sender) =>
        some { state with loop, sender, sent := state.sent ++ [message], transit := state.transit ++ [message] }
      | (.error _, sender) => some { state with loop := Batcher.giveUp state.loop, sender }
  | .receive drawn =>
    match state.transit with
    | [] => none
    | message :: rest =>
      let (outputs, receiver) := link.receive state.receiver drawn message
      some { state with receiver, transit := rest, delivered := state.delivered ++ outputs }

end Link

structure Holds (padded : Bytes) (batch : List Bytes) : Prop where
  unpads : unpadPacket padded = .ok (framesBytes tunDataFlowId batch)
  size : padded.length ≤ maxPaddedSize - paddingBlockSize

/-- What an allowed batch of these packets is sealed into is one message over the padded frames, and such a message is
opened to the packets. -/
structure Link.Correct (link : Link P Output) (valid : Bytes → Prop) (output : Bytes → Output) : Prop where
  sensible : link.policy.Sensible
  encrypts : ∀ {sender nonce fill batch}, Batcher.Allowed link.policy batch →
    (∀ packet ∈ batch, valid packet) →
    ∃ padded, Holds padded batch ∧
      link.encryptDataBatch sender nonce fill batch =
        match sender.encrypt nonce padded [dataPayloadType] with
        | (.ok message, next) => (.ok message.toBytes, next)
        | (.error failure, next) => (.error (.encryption failure), next)
  receives : ∀ {receiver next : DoubleRatchet P} {drawn message padded batch}, batch ≠ [] →
    (∀ packet ∈ batch, valid packet) → Holds padded batch →
    message.header.payloadType = dataPayloadType → message.toBytes.length ≤ receiveBufferSize →
    receiver.decrypt drawn message [dataPayloadType] = (.ok padded, next) →
    link.receive receiver drawn message.toBytes = (batch.map output, next)

theorem AeadSized.encrypt (sized : AeadSized P) {sender : DoubleRatchet P}
    (sending : sender.sendingChainKey = some chainKey) (nonce : Nonce) (payloadType : UInt8) {plaintext : Bytes}
    (small : plaintext.length ≤ maxMessageSize) :
    ∃ message next, sender.encrypt nonce plaintext [payloadType] = (.ok message, next) ∧
      message.header.payloadType = payloadType ∧ message.ciphertext.length = plaintext.length + tagSize := by
  obtain ⟨ciphertext, encrypted, length⟩ := sized.encrypts (kdfCk P chainKey).1 nonce [payloadType] plaintext small
  refine ⟨⟨sender.nextHeader payloadType, nonce, ciphertext⟩,
    { sender with
      sendingChainKey := some (kdfCk P chainKey).2
      sendMessageNumber := sender.sendMessageNumber + 1 }, ?_, rfl, length⟩
  simp [DoubleRatchet.encrypt, sending, cipherEncrypt, DoubleRatchet.payloadTypeOf, List.head?_cons,
    Option.getD_some, encrypted]

theorem encryptPadded_of_padPacket {sender : DoubleRatchet P} (fits : padPacket fill plaintext = .ok padded) :
    encryptPadded sender nonce fill plaintext =
      match sender.encrypt nonce padded [dataPayloadType] with
      | (.ok message, next) => (.ok message.toBytes, next)
      | (.error failure, next) => (.error (.encryption failure), next) := by
  simp only [encryptPadded, fits]
  generalize sender.encrypt nonce padded [dataPayloadType] = outcome
  obtain ⟨result, next⟩ := outcome
  cases result <;> rfl

structure Flight where
  inFlight : InFlight
  batch : List Bytes

/-- The message carries the batch, and the receive buffer takes it. -/
structure Flight.Carries (valid : Bytes → Prop) (flight : Flight) : Prop where
  nonempty : flight.batch ≠ []
  small : ∀ packet ∈ flight.batch, valid packet
  holds : Holds flight.inFlight.plaintext flight.batch
  payloadType : flight.inFlight.message.header.payloadType = dataPayloadType
  size : flight.inFlight.message.toBytes.length ≤ receiveBufferSize

theorem holds_withPadding (fill : Nat → UInt8) (nonempty : batch ≠ [])
    (short : (framesBytes tunDataFlowId batch).length ≤ maxPaddedSize - paddingBlockSize - 2) :
    Holds (withPadding fill (framesBytes tunDataFlowId batch)
      (paddedSize (framesBytes tunDataFlowId batch).length - 2 - (framesBytes tunDataFlowId batch).length)) batch := by
  have positive : (framesBytes tunDataFlowId batch).length ≠ 0 := by
    simpa using framesBytes_ne_nil tunDataFlowId nonempty
  have fits : (framesBytes tunDataFlowId batch).length ≤ maxPaddedSize - 2 := short.trans (by decide)
  have size := paddedSize_eq positive fits
  have cover := paddingBlocks_spec (framesBytes tunDataFlowId batch).length
  refine ⟨unpadPacket_withPadding ?_, ?_⟩
  · unfold paddingBlockSize at *
    omega
  · rw [length_withPadding, size]
    unfold maxPaddedSize paddingBlocks paddingBlockSize at *
    omega

theorem Holds.length_le (holds : Holds padded batch) :
    padded.length ≤ maxMessageSize :=
  holds.size.trans (by decide)

theorem Holds.toBytes_le {padded : Bytes} (holds : Holds padded batch) {message : RatchetMessage}
    (length : message.ciphertext.length = padded.length + tagSize) :
    message.toBytes.length ≤ receiveBufferSize := by
  obtain ⟨front, whole, short⟩ := message.toBytes_eq
  have size : padded.length ≤ 15360 := holds.size
  rw [whole, List.length_append, length]
  unfold tagSize receiveBufferSize
  omega

theorem ciphertext_le_of_toBytes_le {message : RatchetMessage} (size : message.toBytes.length ≤ receiveBufferSize) :
    message.ciphertext.length ≤ receiveBufferSize := by
  obtain ⟨front, whole, -⟩ := message.toBytes_eq
  rw [whole, List.length_append] at size
  exact (Nat.le_add_left _ _).trans size

theorem Flight.Carries.ciphertext_le {flight : Flight} (carries : flight.Carries valid) :
    flight.inFlight.message.ciphertext.length ≤ maxMessageSize :=
  (ciphertext_le_of_toBytes_le carries.size).trans (by decide)

/-- The ratchets are in step over what is on its way, and every packet that arrived is delivered, on
its way or held by the loop, in order. -/
structure LinkState.Coupled (link : Link P Output) (valid : Bytes → Prop) (output : Bytes → Output)
    (state : LinkState P Output) (flights : List Flight) : Prop where
  consistent : Batcher.Consistent link.policy state.loop
  transit : state.transit = flights.map fun flight => flight.inFlight.message.toBytes
  inStep : InStep state.sender state.receiver (flights.map Flight.inFlight)
  carries : ∀ flight ∈ flights, flight.Carries valid
  conserved : ∃ past, state.delivered = past.map output ∧
    past ++ (flights.flatMap Flight.batch ++ state.loop.held) = state.loop.arrived
  sizes : ∀ message ∈ state.sent, message.length ≤ receiveBufferSize
  unstopped : link.policy.waits = false → ∀ batch, state.loop.phase ≠ .aborted batch

namespace LinkState.Coupled

variable {link : Link P Output} {valid : Bytes → Prop} {output : Bytes → Output} {state next : LinkState P Output}
  {flights : List Flight}

section

variable (correct : link.Correct valid output)
include correct

theorem loop (coupled : state.Coupled link valid output flights)
    (taken : link.step state (.loop action) = some next) :
    next.Coupled link valid output flights := by
  obtain ⟨loop, stepped, rfl⟩ := Option.map_eq_some_iff.mp taken
  have moved := Batcher.moves_of_step stepped
  obtain ⟨new, arrived, held⟩ := Batcher.held_step coupled.consistent moved
  refine ⟨coupled.consistent.step correct.sensible moved, coupled.transit, coupled.inStep, coupled.carries, ?_,
    coupled.sizes, fun polls => ?_⟩
  · obtain ⟨past, delivered, conserved⟩ := coupled.conserved
    exact ⟨past, delivered, by simp only [arrived, held, ← conserved, List.append_assoc]⟩
  · exact moved.unstopped polls (coupled.unstopped polls)

theorem handOn (sized : AeadSized P)
    (coupled : state.Coupled link valid output flights)
    (small : ∀ packet ∈ state.loop.arrived, valid packet) {batch : List Bytes} {loop : Batcher.State Bytes}
    (handed : Batcher.handOn state.loop = some (batch, loop)) (nonce : Nonce) (fill : Nat → UInt8) :
    ∃ message sender flight, link.encryptDataBatch state.sender nonce fill batch = (.ok message, sender) ∧
      LinkState.Coupled link valid output
        { state with loop, sender, sent := state.sent ++ [message], transit := state.transit ++ [message] }
        (flights ++ [flight]) := by
  obtain ⟨allowed, consistent, held⟩ := Batcher.handOn_spec coupled.consistent handed
  obtain ⟨past, delivered, conserved⟩ := coupled.conserved
  have listed : ∀ packet ∈ batch, valid packet := by
    intro packet member
    refine small packet ?_
    rw [← conserved, held]
    simp [member]
  obtain ⟨padded, holds, encrypted⟩ :
      ∃ padded, Holds padded batch ∧ link.encryptDataBatch state.sender nonce fill batch = _ :=
    correct.encrypts allowed listed
  obtain ⟨_, _, chainKey, _, _, _, sending, _⟩ := coupled.inStep.chain
  obtain ⟨message, sender, outcome, payloadType, length⟩ :=
    sized.encrypt sending nonce dataPayloadType holds.length_le
  have fits := holds.toBytes_le length
  rw [outcome] at encrypted
  refine ⟨message.toBytes, sender, ⟨⟨message, padded⟩, batch⟩, encrypted, consistent, ?_, ?_, ?_,
    ⟨past, delivered, ?_⟩, ?_, fun polls => ?_⟩
  · simp [coupled.transit]
  · simpa using coupled.inStep.encrypt outcome
  · exact List.forall_mem_append.mpr ⟨coupled.carries,
      List.forall_mem_singleton.mpr ⟨allowed.nonempty, listed, holds, payloadType, fits⟩⟩
  · simp only [Batcher.handOn_arrived handed, ← conserved, held]
    simp
  · exact List.forall_mem_append.mpr ⟨coupled.sizes, List.forall_mem_singleton.mpr fits⟩
  · exact Batcher.handOn_unstopped handed

theorem send (sized : AeadSized P)
    (coupled : state.Coupled link valid output flights)
    (small : ∀ packet ∈ state.loop.arrived, valid packet) {nonce : Nonce} {fill : Nat → UInt8}
    (taken : link.step state (.send nonce fill) = some next) :
    ∃ flight, next.Coupled link valid output (flights ++ [flight]) := by
  cases handed : Batcher.handOn state.loop with
  | none => simp [Link.step, handed] at taken
  | some result =>
    obtain ⟨message, sender, flight, encrypted, onward⟩ := coupled.handOn correct sized small handed nonce fill
    obtain rfl : _ = next := by simpa [Link.step, handed, encrypted] using taken
    exact ⟨flight, onward⟩

theorem receive (aead : AeadCorrect P)
    (coupled : state.Coupled link valid output flights) (taken : link.step state (.receive drawn) = some next) :
    ∃ rest, next.Coupled link valid output rest := by
  cases flights with
  | nil => simp [Link.step, coupled.transit] at taken
  | cons flight rest =>
    have carries := coupled.carries flight List.mem_cons_self
    obtain ⟨past, delivered, conserved⟩ := coupled.conserved
    obtain ⟨receiver, opened, inStep, -⟩ :=
      coupled.inStep.decrypt aead drawn [dataPayloadType] carries.ciphertext_le
    have received := correct.receives carries.nonempty carries.small carries.holds carries.payloadType carries.size
      opened
    obtain rfl : _ = next := by simpa [Link.step, coupled.transit, received] using taken
    refine ⟨rest, ⟨coupled.consistent, rfl, inStep,
      fun other member => coupled.carries other (List.mem_cons_of_mem _ member),
      ⟨past ++ flight.batch, ?_, ?_⟩, coupled.sizes, coupled.unstopped⟩⟩
    · simp [delivered]
    · simp [← conserved, List.flatMap_cons, List.append_assoc]

end

theorem ready (coupled : state.Coupled link valid output flights) (ready : state.loop.phase = .ready batch last) :
    Batcher.Allowed link.policy batch ∧ batch ⊆ state.loop.arrived := by
  have consistent := coupled.consistent
  simp only [Batcher.Consistent, ready] at consistent
  obtain ⟨past, -, conserved⟩ := coupled.conserved
  refine ⟨consistent.1, fun packet member => ?_⟩
  rw [← conserved, Batcher.State.held, ready]
  simp [Batcher.Phase.batch, member]

theorem step (correct : link.Correct valid output) (aead : AeadCorrect P) (sized : AeadSized P)
    (coupled : state.Coupled link valid output flights) (small : ∀ packet ∈ state.loop.arrived, valid packet)
    (taken : link.step state action = some next) :
    ∃ rest, next.Coupled link valid output rest := by
  cases action with
  | loop action => exact ⟨flights, coupled.loop correct taken⟩
  | send nonce fill =>
    obtain ⟨flight, onward⟩ := coupled.send correct sized small taken
    exact ⟨_, onward⟩
  | receive drawn => exact coupled.receive correct aead taken

theorem delivered_eq (coupled : state.Coupled link valid output flights) (drained : state.loop.Drained)
    (landed : state.transit = []) : state.delivered = state.loop.arrived.map output := by
  obtain ⟨past, delivered, conserved⟩ := coupled.conserved
  have none : flights = [] := List.map_eq_nil_iff.mp (coupled.transit.symm.trans landed)
  rw [Batcher.held_of_drained coupled.consistent drained, none] at conserved
  rw [delivered, ← conserved]
  simp

theorem delivered_in_order (coupled : state.Coupled link valid output flights) :
    state.delivered <+: state.loop.arrived.map output := by
  obtain ⟨past, delivered, conserved⟩ := coupled.conserved
  rw [delivered, ← conserved, List.map_append]
  exact List.prefix_append _ _

end LinkState.Coupled

namespace Link

variable {link : Link P Output} {valid : Bytes → Prop} {output : Bytes → Output}

theorem arrived_of_step (taken : link.step state action = some next) : state.loop.arrived <+: next.loop.arrived := by
  cases action with
  | loop action =>
    obtain ⟨loop, stepped, rfl⟩ := Option.map_eq_some_iff.mp taken
    exact (Batcher.moves_of_step stepped).arrived_grows
  | send nonce fill =>
    simp only [step] at taken
    split at taken
    · cases taken
    · rename_i batch loop handed
      split at taken
      · cases taken
        exact (Batcher.handOn_arrived handed) ▸ List.prefix_refl _
      · cases taken
        exact List.prefix_refl _
  | receive drawn =>
    simp only [step] at taken
    split at taken
    · cases taken
    · cases taken
      exact List.prefix_refl _

theorem start_coupled (link : Link P Output) (valid : Bytes → Prop) (output : Bytes → Output)
    (inStep : InStep sender receiver []) :
    (start sender receiver).Coupled link valid output [] where
  consistent := trivial
  transit := rfl
  inStep := inStep
  carries := nofun
  conserved := ⟨[], rfl, rfl⟩
  sizes := nofun
  unstopped _ batch := by simp [start, Batcher.State.start]

def Sound (link : Link P Output) (valid : Bytes → Prop) (output : Bytes → Output) (state : LinkState P Output) : Prop :=
  (∀ packet ∈ state.loop.arrived, valid packet) → ∃ flights, state.Coupled link valid output flights

theorem sound_of_run (correct : link.Correct valid output) (aead : AeadCorrect P) (sized : AeadSized P)
    (inStep : InStep sender receiver [])
    (reached : Transition.run link.step (start sender receiver) actions = some final) :
    Sound link valid output final := by
  refine Transition.run_preserves ?_ (fun _ => ⟨[], start_coupled link valid output inStep⟩) reached
  intro state action next before taken later
  have earlier : ∀ packet ∈ state.loop.arrived, valid packet := fun packet member =>
    later packet ((arrived_of_step taken).subset member)
  obtain ⟨flights, coupled⟩ := before earlier
  exact coupled.step correct aead sized earlier taken

def remaining (state : LinkState P Output) : Nat := 2 * state.loop.work + state.transit.length

theorem progress (correct : link.Correct valid output) (sized : AeadSized P) {state : LinkState P Output}
    {flights : List Flight} (coupled : state.Coupled link valid output flights)
    (small : ∀ packet ∈ state.loop.arrived, valid packet) (live : ∀ batch, state.loop.phase ≠ .aborted batch)
    (busy : ¬ (state.loop.Drained ∧ state.transit = [])) :
    ∃ action next, link.step state action = some next ∧ remaining next < remaining state ∧
      next.loop.arrived = state.loop.arrived ∧ ∀ batch, next.loop.phase ≠ .aborted batch := by
  cases waiting : state.transit with
  | cons message rest =>
    let drawn := (state.receiver.dhPair.get state.receiver.paired).privateKey
    let received := link.receive state.receiver drawn message
    refine ⟨.receive drawn,
      { state with receiver := received.2, transit := rest, delivered := state.delivered ++ received.1 },
      by simp only [step, waiting]; rfl, ?_, rfl, live⟩
    simp [remaining, waiting]
  | nil =>
    have working : ¬ state.loop.Drained := fun drained => busy ⟨drained, waiting⟩
    rcases Batcher.progress link.policy live working with
      ⟨action, loop, -, taken, less, arrived, unstopped⟩ | ⟨batch, loop, handed, less⟩
    · refine ⟨.loop action, { state with loop }, by simp [step, taken], ?_, arrived, unstopped⟩
      simp only [remaining]
      omega
    · obtain ⟨message, sender, flight, encrypted, -⟩ :=
        coupled.handOn correct sized small handed (Vector.replicate nonceSize 0) (fun _ => 0)
      refine ⟨.send (Vector.replicate nonceSize 0) (fun _ => 0),
        { state with loop, sender, sent := state.sent ++ [message], transit := state.transit ++ [message] },
        by simp [step, handed, encrypted], ?_, Batcher.handOn_arrived handed, Batcher.handOn_unstopped handed⟩
      simp only [remaining, List.length_append, List.length_singleton]
      omega

theorem exists_delivered (correct : link.Correct valid output) (aead : AeadCorrect P) (sized : AeadSized P)
    (coupled : state.Coupled link valid output flights) (small : ∀ packet ∈ state.loop.arrived, valid packet)
    (live : ∀ batch, state.loop.phase ≠ .aborted batch) :
    ∃ actions final, Transition.run link.step state actions = some final ∧
      final.delivered = state.loop.arrived.map output := by
  induction left : remaining state using Nat.strongRecOn generalizing state flights with
  | ind left ih =>
    by_cases done : state.loop.Drained ∧ state.transit = []
    · exact ⟨[], state, rfl, coupled.delivered_eq done.1 done.2⟩
    · obtain ⟨action, next, taken, less, arrived, unstopped⟩ := progress correct sized coupled small live done
      obtain ⟨flights, onward⟩ := coupled.step correct aead sized small taken
      obtain ⟨actions, final, reached, delivered⟩ :=
        ih (remaining next) (left ▸ less) onward (arrived ▸ small) unstopped rfl
      exact ⟨action :: actions, final, (Transition.run_cons_some actions taken).trans reached, arrived ▸ delivered⟩

end Link

/-! A cipher that only appends a tag, to evaluate links on. -/

namespace PlainCipher

def primitives : Primitives Bytes (Vector UInt8 32) :=
  { Symbolic.primitives with
    aeadEncrypt := fun _ _ _ plaintext => some (plaintext ++ Symbolic.tag)
    aeadDecrypt := fun _ _ _ ciphertext => some (ciphertext.take (ciphertext.length - tagSize)) }

theorem correct : AeadCorrect primitives where
  decrypts encrypted := by
    cases encrypted
    simp [primitives, Symbolic.tag]
  tagged encrypted := by
    cases encrypted
    simp [Symbolic.tag]

theorem sized : AeadSized primitives where
  encrypts _ _ _ plaintext _ := ⟨plaintext ++ Symbolic.tag, rfl, by simp [Symbolic.tag]⟩

end PlainCipher

end Rvpn.Mux
