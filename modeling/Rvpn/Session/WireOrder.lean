import Rvpn.Crypto.Symbolic
import Rvpn.Session.SendLock

/-! Wire order is encryption order, by `send_lock`. -/

namespace Rvpn.Session

open Crypto
open Transition

variable {Secret Private : Type} {P : Primitives Secret Private}

def ratchetMessages (messages : List WsMessage) : List RatchetMessage :=
  messages.filterMap WsMessage.ratchetMessage

@[simp] theorem ratchetMessages_nil : ratchetMessages [] = [] := rfl

@[simp] theorem ratchetMessages_append (first second : List WsMessage) :
    ratchetMessages (first ++ second) = ratchetMessages first ++ ratchetMessages second :=
  List.filterMap_append

@[simp] theorem ratchetMessages_binary (message : RatchetMessage) : ratchetMessages [.binary message] = [message] := rfl

@[simp] theorem ratchetMessages_ping : ratchetMessages [.ping] = [] := rfl

def SendPhase.pending : SendPhase P → List RatchetMessage
  | .ready message | .writing message => [message]
  | .idle | .locked | .encrypting _ | .flushing => []

def ReceivePhase.Familiar : ReceivePhase P → Prop
  | .decrypting snapshot message => snapshot.KnowsKey message.header
  | .idle => True

instance : (phase : ReceivePhase P) → Decidable phase.Familiar
  | .decrypting snapshot message => inferInstanceAs (Decidable (snapshot.KnowsKey message.header))
  | .idle => inferInstanceAs (Decidable True)

def Action.isDecrypt : Action Private → Bool
  | .decrypt _ => true
  | _ => false

namespace Tunnel

variable {endpoint : Endpoint} {tunnel next : Tunnel P} {action : Action Private}

theorem phase_setPhase (tunnel : Tunnel P) (task other : Task) (phase : SendPhase P) :
    (tunnel.setPhase task phase).phase other = if other = task then phase else tunnel.phase other :=
  Function.update_apply _ _ _ _

theorem phase_leave (tunnel : Tunnel P) (task other : Task) :
    (tunnel.leave task).phase other = if other = task then .idle else tunnel.phase other :=
  Function.update_apply _ _ _ _

/-- Each lock has one holder: a task inside the guarded section holds `send_lock`, and
whoever works on the ratchet holds its lock and has read its present state. -/
structure Locked (tunnel : Tunnel P) : Prop where
  early : tunnel.spawned = false → tunnel.sendLock = none ∧ tunnel.ratchetLock = none
  sending : ∀ task, tunnel.phase task ≠ .idle → tunnel.sendLock = some task
  encrypting : ∀ task snapshot, tunnel.phase task = .encrypting snapshot →
    tunnel.ratchetLock = some (.sender task) ∧ snapshot = tunnel.ratchet
  decrypting : ∀ snapshot message, tunnel.receiving = .decrypting snapshot message →
    tunnel.ratchetLock = some .receiver ∧ snapshot = tunnel.ratchet

theorem start_locked (ratchet : DoubleRatchet P) : (start ratchet).Locked where
  early := fun _ => ⟨rfl, rfl⟩
  sending := fun _ busy => absurd rfl busy
  encrypting := by simp [start]
  decrypting := by simp [start]

theorem Locked.of_alone {task : Task} {phase : SendPhase P}
    (phases : ∀ other, next.phase other = if other = task then phase else tunnel.phase other)
    (alone : ∀ other, other ≠ task → tunnel.phase other = .idle) (spawned : next.spawned = true)
    (sending : phase ≠ .idle → next.sendLock = some task)
    (encrypting : ∀ snapshot, phase = .encrypting snapshot →
      next.ratchetLock = some (.sender task) ∧ snapshot = next.ratchet)
    (decrypting : ∀ snapshot message, next.receiving = .decrypting snapshot message →
      next.ratchetLock = some .receiver ∧ snapshot = next.ratchet) : next.Locked where
  early := by simp [spawned]
  sending other := by
    by_cases same : other = task
    · simpa [phases, same] using sending
    · simp [phases, same, alone other same]
  encrypting other := by
    by_cases same : other = task
    · simpa [phases, same] using encrypting
    · simp [phases, same, alone other same]
  decrypting := decrypting

theorem Locked.alone (locked : tunnel.Locked) (task : Task) (busy : tunnel.phase task ≠ .idle) :
    tunnel.sendLock = some task ∧ tunnel.spawned = true ∧ ∀ other, other ≠ task → tunnel.phase other = .idle := by
  have held := locked.sending task busy
  refine ⟨held, ?_, ?_⟩
  · by_contra unspawned
    simp [(locked.early (by simpa using unspawned)).1] at held
  · intro other apart
    by_contra inside
    exact apart (Option.some.inj ((locked.sending other inside).symm.trans held))

theorem Locked.apart (locked : tunnel.Locked) {task : Task} {read snapshot : DoubleRatchet P} {message : RatchetMessage}
    (inside : tunnel.phase task = .encrypting read) (receiving : tunnel.receiving = .decrypting snapshot message) :
    False := by
  have held := (locked.decrypting snapshot message receiving).1
  rw [(locked.encrypting task read inside).1] at held
  cases held

theorem Locked.moves (locked : tunnel.Locked) (moves : Moves endpoint tunnel action next) : next.Locked := by
  have ⟨early, sending, encrypting, decrypting⟩ := locked
  cases moves with
  | announce nonce plaintext written server unspawned outcome =>
    have free := (early unspawned).2
    exact ⟨early, sending, by simpa [free] using encrypting, by simpa [free] using decrypting⟩
  | spawn => exact { locked with early := by simp }
  | lockSend task idle spawned free =>
    have outside : ∀ other, other ≠ task → tunnel.phase other = .idle := by
      intro other _
      by_contra inside
      simp [sending other inside] at free
    exact .of_alone (tunnel.phase_setPhase task · _) outside spawned (fun _ => rfl) (by simp) decrypting
  | lockRatchet task inside free =>
    obtain ⟨held, spawned, outside⟩ := locked.alone task (by simp [inside])
    refine .of_alone (tunnel.phase_setPhase task · _) outside spawned (fun _ => held) (by simp [setPhase]) ?_
    intro snapshot message receiving
    simp [(decrypting snapshot message receiving).1] at free
  | encrypt task nonce plaintext associatedData inside outcome =>
    obtain ⟨held, spawned, outside⟩ := locked.alone task (by simp [inside])
    exact .of_alone (tunnel.phase_setPhase task · _) outside spawned (fun _ => held) (by simp)
      fun _ _ receiving => (locked.apart inside receiving).elim
  | encryptFail task nonce plaintext associatedData inside outcome =>
    obtain ⟨held, spawned, outside⟩ := locked.alone task (by simp [inside])
    exact .of_alone (tunnel.phase_leave task ·) outside spawned (by simp) (by simp)
      fun _ _ receiving => (locked.apart inside receiving).elim
  | lockSink task inside | feed task inside =>
    obtain ⟨held, spawned, outside⟩ := locked.alone task (by simp [inside])
    exact .of_alone (tunnel.phase_setPhase task · _) outside spawned (fun _ => held) (by simp) decrypting
  | enqueue task busy | leave task busy =>
    obtain ⟨-, spawned, outside⟩ := locked.alone task (by simp [busy])
    exact .of_alone (tunnel.phase_leave task ·) outside spawned (by simp) (by simp) decrypting
  | receive message spawned free =>
    refine ⟨by simp [spawned], sending, ?_, by simp⟩
    intro task snapshot inside
    simp [(encrypting task snapshot inside).1] at free
  | decrypt drawn inside =>
    have held := (decrypting _ _ inside).1
    refine ⟨fun unspawned => ?_, sending, fun _ _ other => (locked.apart other inside).elim, by simp⟩
    simp [(early unspawned).2] at held
  | _ => exact ⟨early, sending, encrypting, decrypting⟩

/-- The tasks of a tunnel encrypt and decrypt one at a time, each on the ratchet as the one before has left it: no
update is lost. -/
theorem no_ratchet_update_lost (endpoint : Endpoint) (ratchet : DoubleRatchet P) :
    Always (step endpoint) (start ratchet) fun tunnel =>
      (∀ task snapshot, tunnel.phase task = .encrypting snapshot → snapshot = tunnel.ratchet ∧
        (∀ other, other ≠ task → tunnel.phase other = .idle) ∧ ∀ read message, tunnel.receiving ≠ .decrypting read message) ∧
      ∀ snapshot message, tunnel.receiving = .decrypting snapshot message → snapshot = tunnel.ratchet := by
  intro actions final reached
  have locked : final.Locked :=
    run_preserves (fun _ _ _ holds taken => holds.moves (moves_of_step taken)) (start_locked ratchet) reached
  refine ⟨fun task snapshot inside => ?_, fun snapshot message inside => (locked.decrypting snapshot message inside).2⟩
  have alone := (locked.alone task (by simp [inside])).2.2
  exact ⟨(locked.encrypting task snapshot inside).2, alone, fun read message => locked.apart inside⟩

def pending (tunnel : Tunnel P) : List RatchetMessage :=
  match tunnel.sendLock with
  | some task => (tunnel.phase task).pending
  | none => []

theorem pending_of_held {phase : SendPhase P} (held : tunnel.sendLock = some task)
    (inside : tunnel.phase task = phase) : tunnel.pending = phase.pending := by
  simp [pending, held, inside]

theorem pending_of_free (free : tunnel.sendLock = none) : tunnel.pending = [] := by
  simp [pending, free]

/-- What has left the tasks, what waits for the writer and what the task inside carries
follow the order of encryption; some of it may have been lost. -/
structure Ordered (endpoint : Endpoint) (tunnel : Tunnel P) : Prop where
  locked : tunnel.Locked
  direct : endpoint.viaChannel = false → tunnel.channel = []
  sink : ∀ task message, tunnel.phase task = .writing message → endpoint.viaChannel = false
  inOrder : List.Sublist (ratchetMessages tunnel.wire ++ ratchetMessages tunnel.channel ++ tunnel.pending)
    tunnel.encrypted

namespace Ordered

theorem start (endpoint : Endpoint) (ratchet : DoubleRatchet P) : (Tunnel.start ratchet).Ordered endpoint where
  locked := start_locked ratchet
  direct := fun _ => rfl
  sink := by simp [Tunnel.start]
  inOrder := .refl _

theorem carried (ordered : tunnel.Ordered endpoint) {phase : SendPhase P} (held : tunnel.sendLock = some task)
    (inside : tunnel.phase task = phase) :
    List.Sublist (ratchetMessages tunnel.wire ++ ratchetMessages tunnel.channel ++ phase.pending) tunnel.encrypted :=
  pending_of_held held inside ▸ ordered.inOrder

theorem kept (ordered : tunnel.Ordered endpoint) :
    List.Sublist (ratchetMessages tunnel.wire ++ ratchetMessages tunnel.channel ++ []) tunnel.encrypted := by
  rw [List.append_nil]
  exact (List.sublist_append_left _ _).trans ordered.inOrder

theorem of_pending {carried : List RatchetMessage} (locked : tunnel.Locked)
    (direct : endpoint.viaChannel = false → tunnel.channel = [])
    (sink : ∀ task message, tunnel.phase task = .writing message → endpoint.viaChannel = false)
    (carrying : tunnel.pending = carried)
    (inOrder : List.Sublist (ratchetMessages tunnel.wire ++ ratchetMessages tunnel.channel ++ carried)
      tunnel.encrypted) :
    tunnel.Ordered endpoint :=
  ⟨locked, direct, sink, carrying ▸ inOrder⟩

theorem sink_of (ordered : tunnel.Ordered endpoint) {task : Task} {phase : SendPhase P}
    (phases : ∀ other, next.phase other = if other = task then phase else tunnel.phase other)
    (elsewhere : ∀ message, phase ≠ .writing message) (other : Task) (message : RatchetMessage)
    (writing : next.phase other = .writing message) : endpoint.viaChannel = false := by
  rw [phases] at writing
  split at writing
  · exact absurd writing (elsewhere message)
  · exact ordered.sink other message writing

theorem moves (ordered : tunnel.Ordered endpoint) (moves : Moves endpoint tunnel action next) :
    next.Ordered endpoint := by
  have locked := ordered.locked.moves moves
  have ⟨before, direct, sink, inOrder⟩ := ordered
  cases moves with
  | @announce ratchet message nonce plaintext written server unspawned outcome =>
    have unbuffered := direct (by simp [server, Endpoint.viaChannel])
    refine .of_pending locked direct sink (pending_of_free (before.early unspawned).1) ?_
    have order := ordered.kept
    cases written with
    | false => exact order.trans (List.sublist_append_left _ _)
    | true => simpa [unbuffered] using order.append_right [message]
  | lockSend task idle spawned free =>
    exact .of_pending locked direct (ordered.sink_of (tunnel.phase_setPhase task · _) nofun)
      (pending_of_held rfl (Function.update_self _ _ _)) ordered.kept
  | lockRatchet task inside free =>
    have held := (before.alone task (by simp [inside])).1
    exact .of_pending locked direct (ordered.sink_of (tunnel.phase_setPhase task · _) nofun)
      (pending_of_held held (Function.update_self _ _ _)) ordered.kept
  | @encrypt snapshot ratchet message task nonce plaintext associatedData inside outcome =>
    have held := (before.alone task (by simp [inside])).1
    have order := ordered.kept.append_right [message]
    rw [List.append_nil] at order
    exact .of_pending locked direct (ordered.sink_of (tunnel.phase_setPhase task · _) nofun)
      (pending_of_held held (Function.update_self _ _ _)) order
  | encryptFail task | leave task =>
    exact .of_pending locked direct (ordered.sink_of (tunnel.phase_leave task ·) nofun) (pending_of_free rfl)
      ordered.kept
  | enqueue task ready channel =>
    have held := (before.alone task (by simp [ready])).1
    refine .of_pending locked (by simp [channel]) (ordered.sink_of (tunnel.phase_leave task ·) nofun)
      (pending_of_free rfl) ?_
    simpa [SendPhase.pending, leave, setPhase] using ordered.carried held ready
  | lockSink task ready unbuffered =>
    have held := (before.alone task (by simp [ready])).1
    have order := ordered.carried held ready
    exact .of_pending locked direct (fun _ _ _ => unbuffered) (pending_of_held held (Function.update_self _ _ _))
      order
  | feed task writing =>
    have held := (before.alone task (by simp [writing])).1
    have order := ordered.carried held writing
    refine .of_pending locked direct (ordered.sink_of (tunnel.phase_setPhase task · _) nofun)
      (pending_of_held held (Function.update_self _ _ _)) ?_
    simpa [SendPhase.pending, setPhase, direct (sink task _ writing)] using order
  | @drain message rest waiting =>
    refine .of_pending locked (fun unbuffered => by simp [direct unbuffered] at waiting) sink rfl ?_
    have taken : ratchetMessages tunnel.channel = ratchetMessages [message] ++ ratchetMessages rest := by
      rw [waiting, ← ratchetMessages_append, List.singleton_append]
    simpa [pending, taken] using inOrder
  | writerEnd =>
    exact .of_pending locked (fun _ => rfl) sink rfl
      ((((List.nil_sublist _).append_left _).append_right _).trans inOrder)
  | ping channel =>
    refine .of_pending locked (by simp [channel]) sink rfl ?_
    simpa [pending] using inOrder
  | feedPing =>
    refine .of_pending locked direct sink rfl ?_
    simpa [pending] using inOrder
  | _ => exact ⟨locked, direct, sink, inOrder⟩

end Ordered

/-- The receiving task meets no new key: the message that it decrypts causes no DH step. -/
def Familiar (tunnel : Tunnel P) (action : Action Private) : Prop :=
  action.isDecrypt = true → tunnel.receiving.Familiar

instance (tunnel : Tunnel P) (action : Action Private) : Decidable (tunnel.Familiar action) :=
  inferInstanceAs (Decidable (_ → _))

end Tunnel

def numbers (messages : List RatchetMessage) : List UInt32 := messages.map fun message => message.header.messageNumber

/-- The numbers of `n` messages from `base` on. -/
def countUp (base : UInt32) (n : Nat) : List UInt32 := (List.range n).map fun i => base + UInt32.ofNat i

theorem countUp_succ (base : UInt32) (n : Nat) : countUp base (n + 1) = countUp base n ++ [base + UInt32.ofNat n] := by
  simp [countUp, List.range_succ]

theorem countUp_increasing (room : base.toNat + n ≤ UInt32.size) :
    (countUp base n).Pairwise (· < ·) := by
  refine List.pairwise_map.mpr (List.Pairwise.imp_of_mem ?_ List.pairwise_lt_range)
  intro i j first second below
  have larger := List.mem_range.mp second
  rw [UInt32.lt_iff_toNat_lt]
  simp only [UInt32.toNat_add, UInt32.toNat_ofNat', UInt32.size] at room ⊢
  omega

theorem encrypt_number {ratchet next : DoubleRatchet P} {nonce : Nonce} {plaintext associatedData : Bytes}
    {message : RatchetMessage} (outcome : ratchet.encrypt nonce plaintext associatedData = (.ok message, next)) :
    message.header.messageNumber = ratchet.sendMessageNumber ∧
    next.sendMessageNumber = ratchet.sendMessageNumber + 1 := by
  rcases ratchet.encrypt_cases nonce plaintext associatedData with ⟨failure, same⟩ | ⟨_, _, _, _, same⟩
  · cases outcome.symm.trans same
  · cases outcome.symm.trans same
    exact ⟨rfl, rfl⟩

theorem Endpoint.sendMessageNumber_afterDecrypt (endpoint : Endpoint) (knows : ratchet.KnowsKey message.header)
    (drawn : Private) :
    (endpoint.afterDecrypt ratchet drawn message).sendMessageNumber = ratchet.sendMessageNumber := by
  have kept : (ratchet.decryptWith drawn (ratchet.skippedKeys.contains message.lookupKey) message).2.sendMessageNumber =
      ratchet.sendMessageNumber := congrArg (·.2.2) (knows.sendingSide_decryptWith drawn _)
  cases endpoint with
  | ios =>
    obtain ⟨leftover, same⟩ := ratchet.decryptToRef_eq drawn message [0x01] []
    simp only [afterDecrypt, same]
    rcases outcome : ratchet.decrypt drawn message [0x01] with ⟨result, next⟩
    rw [DoubleRatchet.decrypt] at outcome
    rw [outcome] at kept
    cases result <;> exact kept
  | _ => exact kept

namespace Tunnel

variable {endpoint : Endpoint} {tunnel next : Tunnel P} {action : Action Private} {past : List RatchetMessage}
  {base : UInt32}

/-- The messages encrypted since `past` are numbered from `base` on. -/
structure Counting (past : List RatchetMessage) (base : UInt32) (tunnel : Tunnel P) : Prop where
  locked : tunnel.Locked
  counted : ∃ fresh, tunnel.encrypted = past ++ fresh ∧ numbers fresh = countUp base fresh.length ∧
    tunnel.ratchet.sendMessageNumber = base + UInt32.ofNat fresh.length

theorem Locked.counting (locked : tunnel.Locked) : Counting tunnel.encrypted tunnel.ratchet.sendMessageNumber tunnel :=
  ⟨locked, [], by simp [numbers, countUp]⟩

theorem Counting.encrypted (counting : Counting past base tunnel) {ratchet : DoubleRatchet P}
    (outcome : tunnel.ratchet.encrypt nonce plaintext associatedData = (.ok message, ratchet)) :
    ∃ fresh, tunnel.encrypted ++ [message] = past ++ fresh ∧ numbers fresh = countUp base fresh.length ∧
      ratchet.sendMessageNumber = base + UInt32.ofNat fresh.length := by
  obtain ⟨fresh, split, counted, count⟩ := counting.counted
  obtain ⟨number, following⟩ := encrypt_number outcome
  refine ⟨fresh ++ [message], by rw [split, List.append_assoc], ?_, ?_⟩
  · simp [numbers, countUp_succ, number, count, ← counted]
  · rw [following, count, List.length_append, List.length_singleton, UInt32.ofNat_add, UInt32.add_assoc]
    rfl

theorem Counting.moves (counting : Counting past base tunnel) (familiar : tunnel.Familiar action)
    (moves : Moves endpoint tunnel action next) : Counting past base next := by
  refine ⟨counting.locked.moves moves, ?_⟩
  have ⟨locked, counted⟩ := counting
  cases moves with
  | announce nonce plaintext written server unspawned outcome => exact counting.encrypted outcome
  | encrypt task nonce plaintext associatedData inside outcome =>
    obtain ⟨-, rfl⟩ := locked.encrypting task _ inside
    exact counting.encrypted outcome
  | @encryptFail snapshot ratchet failure task nonce plaintext associatedData inside outcome =>
    obtain ⟨-, rfl⟩ := locked.encrypting task _ inside
    rcases tunnel.ratchet.encrypt_cases nonce plaintext associatedData with ⟨_, same⟩ | ⟨_, _, _, _, same⟩
    · cases outcome.symm.trans same
      exact counted
    · cases outcome.symm.trans same
  | @decrypt snapshot message drawn inside =>
    obtain ⟨-, rfl⟩ := locked.decrypting snapshot message inside
    have knows : tunnel.ratchet.KnowsKey message.header := by
      simpa [Familiar, Action.isDecrypt, inside, ReceivePhase.Familiar] using familiar
    obtain ⟨fresh, split, counted, count⟩ := counted
    exact ⟨fresh, split, counted, (endpoint.sendMessageNumber_afterDecrypt knows drawn).trans count⟩
  | _ => exact counted

end Tunnel

open Tunnel in
/-- Messages are written in the order of encryption, at every end and for every interleaving. While no message with a
new key is decrypted, what is encrypted comes after what was encrypted before, and its numbers grow strictly as long
as the counter does not wrap. -/
theorem wire_order_is_encryption_order (endpoint : Endpoint) (ratchet : DoubleRatchet P)
    {first second : List (Action Private)} {middle final : Tunnel P}
    (reached : Transition.run (step endpoint) (start ratchet) first = some middle)
    (onward : Transition.run (step endpoint) middle second = some final) :
    List.Sublist (ratchetMessages final.wire) final.encrypted ∧
    (Transition.Meets (step endpoint) Familiar middle second →
      middle.ratchet.sendMessageNumber.toNat + (final.encrypted.length - middle.encrypted.length) ≤ UInt32.size →
      ∃ earlier later, ratchetMessages final.wire = earlier ++ later ∧
        List.Sublist earlier middle.encrypted ∧
        List.Sublist later (final.encrypted.drop middle.encrypted.length) ∧
        (numbers later).Pairwise (· < ·)) := by
  have halfway : middle.Ordered endpoint :=
    run_preserves (fun _ _ _ holds taken => holds.moves (moves_of_step taken))
      (Ordered.start endpoint ratchet) reached
  have ordered : final.Ordered endpoint :=
    run_preserves (fun _ _ _ holds taken => holds.moves (moves_of_step taken)) halfway onward
  have inOrder : List.Sublist (ratchetMessages final.wire) final.encrypted :=
    (List.sublist_append_left _ _).trans ((List.sublist_append_left _ _).trans ordered.inOrder)
  refine ⟨inOrder, fun familiar room => ?_⟩
  have counting : Counting middle.encrypted middle.ratchet.sendMessageNumber final :=
    run_preserves_of_meets (fun _ _ _ holds familiar taken => holds.moves familiar (moves_of_step taken))
      halfway.locked.counting familiar onward
  obtain ⟨fresh, split, counted, -⟩ := counting.counted
  have size : final.encrypted.length - middle.encrypted.length = fresh.length := by simp [split]
  have since : final.encrypted.drop middle.encrypted.length = fresh := by simp [split]
  rw [split] at inOrder
  obtain ⟨earlier, later, parts, before, after⟩ := List.sublist_append_iff.mp inOrder
  refine ⟨earlier, later, parts, before, since ▸ after, ?_⟩
  have increasing := countUp_increasing (size ▸ room)
  rw [← counted] at increasing
  exact increasing.sublist (after.map _)

section samples

open Tunnel Symbolic

def sampleRatchet : DoubleRatchet primitives := .initBob (keyOf 7) [9]

def strangeMessage (dhPublic : PublicKey) : RatchetMessage where
  header := ⟨some dhPublic, 0, 0, 5⟩
  nonce := nonceOf 0
  ciphertext := List.replicate 20 0

def receiveStrange (dhPublic : PublicKey) : List (Action (Vector UInt8 32)) :=
  [.receive (strangeMessage dhPublic), .decrypt (keyOf 8)]

def sendDirect (task : Task) : List (Action (Vector UInt8 32)) :=
  [.lockSend task, .lockRatchet task, .encrypt task (nonceOf 1) [1] [1], .lockSink task, .feed task, .finish task]

/-- The `VirtualIp`, then both tasks of the server: the second waits for `send_lock` while a
message comes in and the first is at the sink. -/
def serverSchedule : List (Action (Vector UInt8 32)) :=
  ([.announce (nonceOf 1) [1] true, .spawn, .lockSend .runWsSender, .lockRatchet .runWsSender,
    .encrypt .runWsSender (nonceOf 2) [2] [1]] : List (Action (Vector UInt8 32))) ++
  receiveStrange (keyOf 3) ++
  ([.lockSink .runWsSender, .feed .runWsSender, .finish .runWsSender] : List (Action (Vector UInt8 32))) ++
  sendDirect .runTunResponseLoop

theorem serverSchedule_increasing : ∃ final,
    Transition.run (step .server) (start sampleRatchet) serverSchedule = some final ∧
      numbers (ratchetMessages final.wire) = [0, 1, 2] ∧ (numbers (ratchetMessages final.wire)).Pairwise (· < ·) := by
  have familiar : Meets (step .server) Familiar (start sampleRatchet) serverSchedule := by
    decide +kernel
  refine exists_of_evaluated (p := fun final => numbers (ratchetMessages final.wire) = [0, 1, 2] ∧
    final.encrypted.length = 3) (by decide +kernel) fun final reached facts => ⟨facts.1, ?_⟩
  obtain ⟨earlier, later, parts, before, -, increasing⟩ :=
    (wire_order_is_encryption_order .server sampleRatchet (run_nil _) reached).2 familiar
      (by rw [facts.2]; decide)
  rw [List.sublist_nil.mp before, List.nil_append] at parts
  exact parts ▸ increasing

/-- The client's `caller 0` between two messages, `n` of them on the wire. -/
structure Rested (n : Nat) (tunnel : Tunnel primitives) : Prop where
  spawned : tunnel.spawned = true
  sendLock : tunnel.sendLock = none
  ratchetLock : tunnel.ratchetLock = none
  phase : tunnel.phase (.caller 0) = .idle
  channelOpen : tunnel.channelOpen = true
  channel : tunnel.channel = []
  chain : tunnel.ratchet.sendingChainKey.isSome = true
  number : tunnel.ratchet.sendMessageNumber = UInt32.ofNat n
  wire : numbers (ratchetMessages tunnel.wire) = countUp 0 n

def sendOnce : List (Action (Vector UInt8 32)) :=
  [.lockSend (.caller 0), .lockRatchet (.caller 0), .encrypt (.caller 0) (nonceOf 1) [] [1], .enqueue (.caller 0),
    .drain]

theorem encrypts {ratchet : DoubleRatchet primitives} (chain : ratchet.sendingChainKey.isSome = true) (nonce : Nonce)
    (plaintext associatedData : Bytes) :
    ∃ message next, ratchet.encrypt nonce plaintext associatedData = (.ok message, next) ∧
      next.sendingChainKey.isSome = true := by
  obtain ⟨chainKey, found⟩ := Option.isSome_iff_exists.mp chain
  rcases ratchet.encrypt_cases nonce plaintext associatedData with ⟨failure, refused⟩ | ⟨_, _, _, _, outcome⟩
  · have result := congrArg Prod.fst refused
    simp [DoubleRatchet.encrypt, found, cipherEncrypt, primitives] at result
  · exact ⟨_, _, outcome, rfl⟩

theorem sendOnce_leads (n : Nat) : Leads (step .client) (Rested n) sendOnce (Rested (n + 1)) := by
  intro tunnel ⟨spawned, sendLock, ratchetLock, phase, channelOpen, channel, chain, number, wire⟩
  obtain ⟨message, next, outcome, chain⟩ := encrypts chain (nonceOf 1) [] [1]
  obtain ⟨numbered, following⟩ := encrypt_number outcome
  refine ⟨{ tunnel.leave (.caller 0) with
    ratchet := next
    ratchetLock := none
    wire := tunnel.wire ++ [.binary message]
    encrypted := tunnel.encrypted ++ [message] }, ?_, ?_⟩
  · simp [sendOnce, run, step, Endpoint.runs, Endpoint.viaChannel, wsChannelCapacity, spawned, sendLock,
      ratchetLock, phase, channelOpen, channel, setPhase, leave, outcome]
  · refine ⟨spawned, rfl, rfl, by simp [phase_leave], channelOpen, channel, chain, ?_, ?_⟩
    · rw [following, number, UInt32.ofNat_add]
      rfl
    · rw [ratchetMessages_append, ratchetMessages_binary, countUp_succ, ← wire]
      simp [numbers, numbered, number]

def Remaining (total left : Nat) (tunnel : Tunnel primitives) : Prop := ∃ n, n + left = total ∧ Rested n tunnel

theorem sendOnce_repeated (total : Nat) : Leads (step .client) (Remaining total total)
    (List.replicate total sendOnce).flatten (Remaining total 0) := by
  refine Leads.iterate (fun left tunnel ⟨n, sum, rested⟩ => ?_) total
  obtain ⟨final, reached, rested⟩ := sendOnce_leads n tunnel rested
  exact ⟨final, reached, n + 1, by omega, rested⟩

theorem rested_wraps (rested : Rested (UInt32.size + 1) tunnel) :
    ¬(numbers (ratchetMessages tunnel.wire)).Pairwise (· < ·) := by
  rw [rested.wire, countUp_succ, List.pairwise_append]
  intro increasing
  have first : (0 : UInt32) ∈ countUp 0 UInt32.size :=
    List.mem_map.mpr ⟨0, List.mem_range.mpr (by decide), rfl⟩
  exact absurd (increasing.2.2 0 first _ (List.mem_singleton.mpr rfl)) (by decide)

/-- The server's tasks before and after a message with a new key, and one caller of the client with
2^32 + 1 messages. -/
theorem numbers_start_again :
    (∃ final, Transition.run (step .server) (start sampleRatchet)
        ([.spawn] ++ sendDirect .runWsSender ++ receiveStrange (keyOf 3) ++ sendDirect .runTunResponseLoop ++
          receiveStrange (keyOf 4) ++ sendDirect .runWsSender) = some final ∧
      numbers (ratchetMessages final.wire) = [0, 1, 0]) ∧
    ∃ final, Transition.run (step .client) (start sampleRatchet)
        ([.spawn] ++ (List.replicate (UInt32.size + 1) sendOnce).flatten) = some final ∧
      ¬(numbers (ratchetMessages final.wire)).Pairwise (· < ·) := by
  constructor
  · decide +kernel
  · have rested : Remaining (UInt32.size + 1) (UInt32.size + 1) { start sampleRatchet with spawned := true } :=
      ⟨0, Nat.zero_add _, rfl, rfl, rfl, rfl, rfl, rfl, rfl, rfl, rfl⟩
    obtain ⟨final, reached, n, sum, rested⟩ := sendOnce_repeated (UInt32.size + 1) _ rested
    obtain rfl : n = UInt32.size + 1 := sum
    exact ⟨final, run_trans rfl reached, rested_wraps rested⟩

end samples

end Rvpn.Session
