import Rvpn.Crypto.DhSteps
import Rvpn.Crypto.InOrder

/-! Two ratchets joined by two FIFO queues, either of which may take DH steps. -/

namespace Rvpn.Crypto

variable {Secret Private : Type} {P : Primitives Secret Private}

structure Party (P : Primitives Secret Private) where
  ratchet : DoubleRatchet P
  stepped : Bool

namespace Party

def encrypt (party : Party P) (nonce : Nonce) (plaintext associatedData : Bytes) :
    Except Error RatchetMessage × Party P :=
  let (result, ratchet) := party.ratchet.encrypt nonce plaintext associatedData
  (result, { party with ratchet })

def decrypt (party : Party P) (drawn : Private) (message : RatchetMessage) (associatedData : Bytes) :
    Except Error Bytes × Party P :=
  let (result, ratchet) := party.ratchet.decrypt drawn message associatedData
  (result, { ratchet, stepped := party.stepped || party.ratchet.TakesDhStep message })

def ratchetForNextMessage (party : Party P) (drawn : Private) : Party P where
  ratchet := party.ratchet.ratchetForNextMessage drawn
  stepped := party.stepped || party.ratchet.remoteDhKey.isSome

/-- The record of a party's steps is right: it has taken none exactly when its chains are still
the ones the shared secret gave. -/
def Stands (secret : Secret) (party : Party P) : Prop :=
  ∃ steps, party.ratchet.AfterSteps secret steps ∧ (party.stepped = false ↔ steps = 0)

variable {secret : Secret} {party : Party P}

theorem Stands.encrypt (stands : party.Stands secret)
    (sent : party.ratchet.encrypt nonce plaintext associatedData = (.ok message, next)) :
    ({ party with ratchet := next } : Party P).Stands secret ∧
      ∃ steps place, OpenedAt P secret (toLex (2 * steps, place)) message.ciphertext ∧
        (party.stepped = false ↔ steps = 0) := by
  obtain ⟨steps, after, count⟩ := stands
  obtain ⟨later, place, opened⟩ := after.encrypt sent
  exact ⟨⟨steps, later, count⟩, steps, place, opened, count⟩

theorem Stands.ratchetForNextMessage (stands : party.Stands secret) (drawn : Private) :
    (party.ratchetForNextMessage drawn).Stands secret := by
  obtain ⟨steps, after, count⟩ := stands
  refine ⟨_, after.ratchetForNextMessage drawn, ?_⟩
  cases known : party.ratchet.remoteDhKey <;> simp [Party.ratchetForNextMessage, known, count]

theorem Stands.decrypt (ideal : AeadIdeal P) (stands : party.Stands secret) (drawn : Private)
    (message : RatchetMessage) (associatedData : Bytes) :
    (party.decrypt drawn message associatedData).2.Stands secret ∧
      ∀ plaintext, (party.decrypt drawn message associatedData).1 = .ok plaintext →
        ∃ steps place, OpenedAt P secret (toLex (2 * steps - 1, place)) message.ciphertext ∧
          ((party.decrypt drawn message associatedData).2.stepped = false ↔ steps = 0) := by
  obtain ⟨steps, after, count⟩ := stands
  obtain ⟨later, counted, afterwards, opens⟩ := after.decrypt ideal drawn message associatedData
  have record : (party.decrypt drawn message associatedData).2.stepped = false ↔ later = 0 := by
    by_cases takes : party.ratchet.TakesDhStep message <;> simp [Party.decrypt, takes, counted, count]
  refine ⟨⟨later, afterwards, record⟩, fun plaintext accepted => ?_⟩
  obtain ⟨place, opened⟩ := opens plaintext accepted
  exact ⟨later, place, opened, record⟩

end Party

/-- A message on its way; it is early when its sender had not yet taken a DH step. -/
structure Carried extends InFlight where
  early : Bool

def earlies (queue : List Carried) : List InFlight := (queue.filter (·.early)).map (·.toInFlight)

/-- One direction of an exchange. The early messages come first, each message was closed at the depth
of its sender's steps, and until the receiver takes a step the early ones continue its chain, up to the
sender's own chain while that has taken none. -/
structure Lane (secret : Secret) (sender receiver : Party P) (queue : List Carried) : Prop where
  closed : ∀ carried ∈ queue, ∃ steps place,
    OpenedAt P secret (toLex (2 * steps, place)) carried.message.ciphertext ∧ (carried.early = true ↔ steps = 0)
  ordered : queue.Pairwise fun first second => second.early = true → first.early = true
  early : sender.stepped = false → ∀ carried ∈ queue, carried.early = true
  inStep : receiver.stepped = false → (sender.stepped = false ∨ ∃ carried ∈ queue, carried.early = true) →
    ∃ last, InStep last receiver.ratchet (earlies queue) ∧ (sender.stepped = false → last = sender.ratchet)

namespace Lane

variable {secret : Secret} {sender receiver next : Party P} {queue : List Carried} {carried : Carried}

section

variable (lane : Lane secret sender receiver queue)
include lane

theorem of_sender (kept : next.stepped = false →
      sender.stepped = false ∧ next.ratchet.sendingSide = sender.ratchet.sendingSide) :
    Lane secret next receiver queue where
  closed := lane.closed
  ordered := lane.ordered
  early unstepped := lane.early (kept unstepped).1
  inStep fresh waiting := by
    obtain ⟨last, inStep, same⟩ := lane.inStep fresh (waiting.imp_left fun unstepped => (kept unstepped).1)
    by_cases unstepped : next.stepped = false
    · obtain ⟨before, side⟩ := kept unstepped
      obtain ⟨pair, chain, number⟩ : next.ratchet.dhPair = sender.ratchet.dhPair ∧
          next.ratchet.sendingChainKey = sender.ratchet.sendingChainKey ∧
          next.ratchet.sendMessageNumber = sender.ratchet.sendMessageNumber := by
        simpa [DoubleRatchet.sendingSide] using side
      rw [same before] at inStep
      have sameKey : next.ratchet.getDhPublicKey = sender.ratchet.getDhPublicKey :=
        congrArg (Option.map EphemeralKey.publicKey) pair
      exact ⟨next.ratchet, inStep.of_sender sameKey chain number, fun _ => rfl⟩
    · exact ⟨last, inStep, fun fresh => absurd fresh unstepped⟩

theorem of_receiver (kept : next.stepped = false → receiver.stepped = false ∧
      ∀ last, InStep last receiver.ratchet (earlies queue) → InStep last next.ratchet (earlies queue)) :
    Lane secret sender next queue where
  closed := lane.closed
  ordered := lane.ordered
  early := lane.early
  inStep fresh waiting := by
    obtain ⟨before, carries⟩ := kept fresh
    obtain ⟨last, inStep, same⟩ := lane.inStep before waiting
    exact ⟨last, carries last inStep, same⟩

theorem encrypt (stands : sender.Stands secret)
    (sent : sender.ratchet.encrypt nonce plaintext associatedData = (.ok message, ratchet)) :
    Lane secret { sender with ratchet } receiver (queue ++ [⟨⟨message, plaintext⟩, !sender.stepped⟩]) where
  closed := by
    intro carried member
    rcases List.mem_append.mp member with old | new
    · exact lane.closed carried old
    · obtain rfl := List.mem_singleton.mp new
      obtain ⟨steps, place, opened, count⟩ := (stands.encrypt sent).2
      exact ⟨steps, place, opened, by simpa using count⟩
  ordered := by
    refine List.pairwise_append.mpr ⟨lane.ordered, List.pairwise_singleton _ _, ?_⟩
    intro first member second new fresh
    obtain rfl := List.mem_singleton.mp new
    exact lane.early (by simpa using fresh) first member
  early := by
    intro unstepped carried member
    rcases List.mem_append.mp member with old | new
    · exact lane.early unstepped carried old
    · obtain rfl := List.mem_singleton.mp new
      simpa using unstepped
  inStep := by
    intro fresh waiting
    by_cases unstepped : sender.stepped = false
    · obtain ⟨last, inStep, same⟩ := lane.inStep fresh (.inl unstepped)
      rw [same unstepped] at inStep
      exact ⟨ratchet, by simpa [earlies, unstepped] using inStep.encrypt sent, fun _ => rfl⟩
    · have present : ∃ carried ∈ queue, carried.early = true := by
        simpa [unstepped] using waiting
      obtain ⟨last, inStep, -⟩ := lane.inStep fresh (.inr present)
      exact ⟨last, by simpa [earlies, unstepped] using inStep, fun fresh => absurd fresh unstepped⟩

end

theorem decrypt_early (correct : AeadCorrect P) (lane : Lane secret sender receiver (carried :: queue))
    (early : carried.early = true) (fresh : receiver.stepped = false) (drawn : Private) (associatedData : Bytes)
    (size : carried.message.ciphertext.length ≤ maxMessageSize) :
    ∃ last ratchet,
      receiver.ratchet.decrypt drawn carried.message associatedData = (.ok carried.plaintext, ratchet) ∧
      InStep last ratchet (earlies queue) ∧ (sender.stepped = false → last = sender.ratchet) := by
  obtain ⟨last, inStep, same⟩ := lane.inStep fresh (.inr ⟨carried, List.mem_cons_self, early⟩)
  have headed : earlies (carried :: queue) = carried.toInFlight :: earlies queue := by simp [earlies, early]
  rw [headed] at inStep
  obtain ⟨ratchet, decrypted, onward, -, -, -⟩ := inStep.decrypt correct drawn associatedData size
  exact ⟨last, ratchet, decrypted, onward, same⟩

/-- A message is accepted only from a sender that had taken no step, by a receiver that has taken none:
the depth it was closed at is even, and the depth it is opened at is 0 or odd. -/
theorem early_of_accepted (ideal : AeadIdeal P) (free : KdfCollisionFree P) (original : Original P secret)
    (lane : Lane secret sender receiver (carried :: queue)) (stands : receiver.Stands secret) (drawn : Private)
    (associatedData : Bytes)
    (accepted : (receiver.decrypt drawn carried.message associatedData).1 = .ok plaintext) :
    carried.early = true ∧ (receiver.decrypt drawn carried.message associatedData).2.stepped = false := by
  obtain ⟨steps, place, closed, early⟩ := lane.closed carried List.mem_cons_self
  obtain ⟨later, place', opened, record⟩ :=
    (stands.decrypt ideal drawn carried.message associatedData).2 plaintext accepted
  have samePosition := (closed.unique ideal free original original opened).2
  have sameDepth : 2 * steps = 2 * later - 1 := congrArg (fun position => (ofLex position).1) samePosition
  exact ⟨early.mpr (by omega), record.mpr (by omega)⟩

theorem decrypt_iff (correct : AeadCorrect P) (ideal : AeadIdeal P) (free : KdfCollisionFree P)
    (original : Original P secret) (lane : Lane secret sender receiver (carried :: queue))
    (stands : receiver.Stands secret) (drawn : Private) (associatedData : Bytes)
    (size : carried.message.ciphertext.length ≤ maxMessageSize) :
    (receiver.decrypt drawn carried.message associatedData).1 = .ok carried.plaintext ↔
      (carried.early && !receiver.stepped) = true := by
  constructor
  · intro accepted
    obtain ⟨early, fresh⟩ := lane.early_of_accepted ideal free original stands drawn associatedData accepted
    have before : receiver.stepped = false := (Bool.or_eq_false_iff.mp fresh).1
    simp [early, before]
  · intro timely
    obtain ⟨early, fresh⟩ : carried.early = true ∧ receiver.stepped = false := by simpa using timely
    obtain ⟨last, ratchet, decrypted, -⟩ := lane.decrypt_early correct early fresh drawn associatedData size
    simp [Party.decrypt, decrypted]

theorem decrypt (correct : AeadCorrect P) (lane : Lane secret sender receiver (carried :: queue))
    (drawn : Private) (associatedData : Bytes) (size : carried.message.ciphertext.length ≤ maxMessageSize) :
    Lane secret sender (receiver.decrypt drawn carried.message associatedData).2 queue where
  closed other member := lane.closed other (List.mem_cons_of_mem _ member)
  ordered := lane.ordered.of_cons
  early unstepped other member := lane.early unstepped other (List.mem_cons_of_mem _ member)
  inStep fresh waiting := by
    have before : receiver.stepped = false := (Bool.or_eq_false_iff.mp fresh).1
    have early : carried.early = true := by
      rcases waiting with unstepped | ⟨later, member, early⟩
      · exact lane.early unstepped carried List.mem_cons_self
      · exact List.rel_of_pairwise_cons lane.ordered member early
    obtain ⟨last, ratchet, decrypted, onward, same⟩ :=
      lane.decrypt_early correct early before drawn associatedData size
    exact ⟨last, by simpa [Party.decrypt, decrypted] using onward, same⟩

end Lane

/-- What a decrypt call returned, and whether the message was early and its receiver had taken no step. -/
structure Outcome extends Delivery where
  early : Bool

structure Exchange (P : Primitives Secret Private) where
  party : Side → Party P
  inbox : Side → List Carried
  sent : List RatchetMessage
  delivered : List Outcome

namespace Exchange

inductive Event (Private : Type) where
  | encrypt (side : Side) (nonce : Nonce) (plaintext associatedData : Bytes)
  | decrypt (side : Side) (drawn : Private) (associatedData : Bytes)
  | ratchetForNextMessage (side : Side) (drawn : Private)

def start (secret : Secret) (drawn : Side → Private) (serverPublicKey : PublicKey) : Exchange P where
  party
    | .alice => { ratchet := .initAlice (drawn .alice) secret serverPublicKey, stepped := false }
    | .bob => { ratchet := .initBob (drawn .bob) secret, stepped := false }
  inbox _ := []
  sent := []
  delivered := []

def step (state : Exchange P) : Event Private → Option (Exchange P)
  | .encrypt side nonce plaintext associatedData =>
    match (state.party side).encrypt nonce plaintext associatedData with
    | (.ok message, next) =>
      some { state with
        party := Function.update state.party side next
        inbox := Function.update state.inbox side.other
          (state.inbox side.other ++ [⟨⟨message, plaintext⟩, !(state.party side).stepped⟩])
        sent := state.sent ++ [message] }
    | (.error _, next) => some { state with party := Function.update state.party side next }
  | .decrypt side drawn associatedData =>
    match state.inbox side with
    | [] => none
    | carried :: rest =>
      let (result, next) := (state.party side).decrypt drawn carried.message associatedData
      some { state with
        party := Function.update state.party side next
        inbox := Function.update state.inbox side rest
        delivered := state.delivered ++
          [⟨⟨carried.plaintext, result⟩, carried.early && !(state.party side).stepped⟩] }
  | .ratchetForNextMessage side drawn =>
    some { state with party := Function.update state.party side ((state.party side).ratchetForNextMessage drawn) }

structure Paired (secret : Secret) (state : Exchange P) : Prop where
  stands : ∀ side, (state.party side).Stands secret
  lane : ∀ side, Lane secret (state.party side) (state.party side.other) (state.inbox side.other)
  traced : ∀ side, ∀ carried ∈ state.inbox side, carried.message ∈ state.sent
  told : ∀ outcome ∈ state.delivered, outcome.result = .ok outcome.plaintext ↔ outcome.early = true

variable {secret : Secret} {state next : Exchange P}

theorem start_paired (secret : Secret) (drawn : Side → Private) (serverPublicKey : PublicKey) :
    (start secret drawn serverPublicKey : Exchange P).Paired secret where
  stands side := by
    cases side with
    | alice => exact ⟨0, DoubleRatchet.initAlice_afterSteps _ _ serverPublicKey, by simp [start]⟩
    | bob => exact ⟨0, DoubleRatchet.initBob_afterSteps _ _, by simp [start]⟩
  lane side := by
    have inStep := (Conversation.start_coupled (P := P) secret drawn serverPublicKey).inStep side
    refine ⟨nofun, .nil, nofun, fun _ _ => ⟨_, ?_, fun _ => rfl⟩⟩
    cases side <;> exact inStep
  traced := nofun
  told := nofun

theorem Paired.encrypt (paired : state.Paired secret) (side : Side)
    (sent : (state.party side).ratchet.encrypt nonce plaintext associatedData = (.ok message, ratchet)) :
    ({ state with
        party := Function.update state.party side { state.party side with ratchet }
        inbox := Function.update state.inbox side.other
          (state.inbox side.other ++ [⟨⟨message, plaintext⟩, !(state.party side).stepped⟩])
        sent := state.sent ++ [message] } : Exchange P).Paired secret where
  stands target := by
    rcases side.eq_or_eq_other target with rfl | rfl
    · simpa using ((paired.stands target).encrypt sent).1
    · simpa using paired.stands side.other
  lane sender := by
    rcases side.eq_or_eq_other sender with rfl | rfl
    · simpa using (paired.lane sender).encrypt (paired.stands sender) sent
    · have back := paired.lane side.other
      rw [Side.other_other] at back
      -- What the sender receives with is not touched.
      have kept : ∀ last, InStep last (state.party side).ratchet (earlies (state.inbox side)) →
          InStep last ratchet (earlies (state.inbox side)) := by
        intro last inStep
        rcases (state.party side).ratchet.encrypt_cases nonce plaintext associatedData with
          ⟨failure, outcome⟩ | ⟨chainKey, ciphertext, -, -, outcome⟩
        · cases sent.symm.trans outcome
        · cases sent.symm.trans outcome
          exact ⟨inStep.orphaned, inStep.chain⟩
      have onward : Lane secret (state.party side.other) { state.party side with ratchet } (state.inbox side) :=
        back.of_receiver fun fresh => ⟨fresh, kept⟩
      simpa using onward
  traced := traced_append paired.traced side.other _
  told := paired.told

theorem Paired.ratchetForNextMessage (paired : state.Paired secret) (side : Side) (drawn : Private) :
    ({ state with
        party := Function.update state.party side ((state.party side).ratchetForNextMessage drawn) } :
      Exchange P).Paired secret where
  stands target := by
    rcases side.eq_or_eq_other target with rfl | rfl
    · simpa using (paired.stands target).ratchetForNextMessage drawn
    · simpa using paired.stands side.other
  lane sender := by
    have unchanged : ((state.party side).ratchetForNextMessage drawn).stepped = false →
        (state.party side).stepped = false ∧
        ((state.party side).ratchetForNextMessage drawn).ratchet = (state.party side).ratchet := by
      intro fresh
      obtain ⟨before, unknown⟩ := Bool.or_eq_false_iff.mp fresh
      have absent : (state.party side).ratchet.remoteDhKey = none := by simpa using unknown
      exact ⟨before, by simp [Party.ratchetForNextMessage, DoubleRatchet.ratchetForNextMessage, absent]⟩
    rcases side.eq_or_eq_other sender with rfl | rfl
    · have onward := (paired.lane sender).of_sender fun fresh =>
        ⟨(unchanged fresh).1, congrArg DoubleRatchet.sendingSide (unchanged fresh).2⟩
      simpa using onward
    · have back := paired.lane side.other
      rw [Side.other_other] at back
      have onward := back.of_receiver fun fresh =>
        ⟨(unchanged fresh).1, fun last inStep => (unchanged fresh).2 ▸ inStep⟩
      simpa using onward
  traced := paired.traced
  told := paired.told

theorem Paired.decrypt (correct : AeadCorrect P) (ideal : AeadIdeal P) (free : KdfCollisionFree P)
    (original : Original P secret) (paired : state.Paired secret) (waiting : state.inbox side = carried :: rest)
    (size : carried.message.ciphertext.length ≤ maxMessageSize) (drawn : Private) (associatedData : Bytes) :
    ({ state with
        party := Function.update state.party side
          ((state.party side).decrypt drawn carried.message associatedData).2
        inbox := Function.update state.inbox side rest
        delivered := state.delivered ++ [⟨⟨carried.plaintext,
          ((state.party side).decrypt drawn carried.message associatedData).1⟩,
          carried.early && !(state.party side).stepped⟩] } : Exchange P).Paired secret := by
  have incoming := paired.lane side.other
  rw [Side.other_other, waiting] at incoming
  have stands := paired.stands side
  refine ⟨fun target => ?_, fun sender => ?_, traced_rest paired.traced waiting, fun outcome member => ?_⟩
  · rcases side.eq_or_eq_other target with rfl | rfl
    · simpa using (stands.decrypt ideal drawn carried.message associatedData).1
    · simpa using paired.stands side.other
  · rcases side.eq_or_eq_other sender with rfl | rfl
    · obtain ⟨steps, after, -⟩ := stands
      have outgoing : Lane secret ((state.party sender).decrypt drawn carried.message associatedData).2
          (state.party sender.other) (state.inbox sender.other) := by
        refine (paired.lane sender).of_sender fun fresh => ?_
        obtain ⟨before, stays⟩ := Bool.or_eq_false_iff.mp fresh
        exact ⟨before, after.orphaned.sendingSide_decrypt (by simpa using stays) drawn associatedData⟩
      simpa using outgoing
    · simpa using incoming.decrypt correct drawn associatedData size
  · rcases List.mem_append.mp member with old | new
    · exact paired.told outcome old
    · rw [List.mem_singleton.mp new]
      exact incoming.decrypt_iff correct ideal free original stands drawn associatedData size

theorem step_paired (correct : AeadCorrect P) (ideal : AeadIdeal P) (free : KdfCollisionFree P)
    (original : Original P secret)
    (paired : (∀ message ∈ state.sent, Conversation.Fits message) → state.Paired secret)
    (taken : state.step event = some next) (fits : ∀ message ∈ next.sent, Conversation.Fits message) :
    next.Paired secret := by
  cases event with
  | encrypt side nonce plaintext associatedData =>
    rcases outcome : (state.party side).ratchet.encrypt nonce plaintext associatedData with ⟨result, ratchet⟩
    cases result with
    | ok message =>
      obtain rfl : _ = next := by simpa [step, Party.encrypt, outcome] using taken
      exact (paired fun message member => fits message (List.mem_append_left _ member)).encrypt side outcome
    | error failure =>
      rcases (state.party side).ratchet.encrypt_cases nonce plaintext associatedData with
        ⟨_, same⟩ | ⟨_, _, _, _, same⟩
      · cases outcome.symm.trans same
        obtain rfl : state = next := by simpa [step, Party.encrypt, outcome] using taken
        exact paired fits
      · cases outcome.symm.trans same
  | decrypt side drawn associatedData =>
    cases waiting : state.inbox side with
    | nil => simp [step, waiting] at taken
    | cons carried rest =>
      obtain rfl : _ = next := by simpa [step, waiting] using taken
      have before := paired fits
      exact before.decrypt correct ideal free original waiting
        (fits _ (before.traced side carried (by simp [waiting]))) drawn associatedData
  | ratchetForNextMessage side drawn =>
    obtain rfl : _ = next := by simpa [step] using taken
    exact (paired fits).ratchetForNextMessage side drawn

/-- Whatever DH steps are taken, a message delivered in order decrypts to its plaintext exactly when it was encrypted
before its sender's first step and is delivered before its receiver's first. -/
theorem decrypts_iff_before_first_steps (correct : AeadCorrect P) (ideal : AeadIdeal P)
    (free : KdfCollisionFree P) (secret : Secret) (original : Original P secret) (drawn : Side → Private)
    (serverPublicKey : PublicKey) (events : List (Event Private)) (final : Exchange P)
    (reached : Transition.run step (start secret drawn serverPublicKey) events = some final)
    (fits : ∀ message ∈ final.sent, message.ciphertext.length ≤ maxMessageSize) :
    ∀ outcome ∈ final.delivered, outcome.result = .ok outcome.plaintext ↔ outcome.early = true := by
  have paired : (∀ message ∈ final.sent, Conversation.Fits message) → final.Paired secret :=
    Transition.run_preserves
      (fun _ _ _ before taken => step_paired correct ideal free original before taken)
      (fun _ => start_paired secret drawn serverPublicKey) reached
  exact (paired fits).told

section Stepped

open Symbolic

def talk : Exchange primitives := start [9] (fun | .alice => keyOf 7 | .bob => keyOf 12) (keyOf 8)

/-- One message each way. Alice takes a step and sends two more, of which the second makes Bob take
one; then Bob answers. -/
def stepped : List (Event (Vector UInt8 32)) :=
  [.encrypt .alice (nonceOf 1) [104, 105] [5], .decrypt .bob (keyOf 2) [5],
    .encrypt .bob (nonceOf 3) [111, 107] [5], .decrypt .alice (keyOf 4) [5],
    .ratchetForNextMessage .alice (keyOf 5),
    .encrypt .alice (nonceOf 6) [1] [5], .decrypt .bob (keyOf 7) [5],
    .encrypt .alice (nonceOf 8) [2] [5], .decrypt .bob (keyOf 9) [5],
    .encrypt .bob (nonceOf 10) [3] [5], .decrypt .alice (keyOf 11) [5]]

theorem stepped_decrypts_iff :
    ∃ final, Transition.run step talk stepped = some final ∧
      final.delivered.map (·.early) = [true, true, false, false, false] ∧
      ∀ outcome ∈ final.delivered, outcome.result = .ok outcome.plaintext ↔ outcome.early = true := by
  refine Transition.exists_of_evaluated (p := fun final => final.delivered.map (·.early) =
    [true, true, false, false, false] ∧ ∀ message ∈ final.sent, message.ciphertext.length ≤ maxMessageSize)
    (by decide +kernel) fun final reached facts => ?_
  exact ⟨facts.1, decrypts_iff_before_first_steps aeadCorrect aeadIdeal kdfCollisionFree [9] (original (by decide)) _
    (keyOf 8) stepped final reached facts.2⟩

/-- After the step the first message is taken for an old one, and the next two are opened with the
wrong keys. -/
theorem stepped_stops_decrypting :
    (Transition.run step talk stepped).map (fun final => final.delivered.map fun outcome =>
        (outcome.plaintext, outcome.result)) =
      some [([104, 105], .ok [104, 105]), ([111, 107], .ok [111, 107]),
        ([1], .error (.decryptionFailed "Message too old: target=0, current=1")),
        ([2], .error (.decryptionFailed "decryption failed: aead::Error")),
        ([3], .error (.decryptionFailed "decryption failed: aead::Error"))] := by
  decide +kernel

end Stepped

end Exchange

end Rvpn.Crypto
