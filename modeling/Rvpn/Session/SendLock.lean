import Mathlib.Logic.Function.Basic
import Rvpn.Crypto.RatchetSpec
import Rvpn.Lib.Transition

/-! The tasks that share one ratchet and one WebSocket, at the four ends of a tunnel. A step ends where another task
may run, inside a critical section too: a task that holds the ratchet's lock works on the state it has read. -/

namespace Rvpn.Session

open Crypto

inductive Endpoint where
  | client | server | ios | android
  deriving DecidableEq, Repr

/-- The tasks that encrypt; `caller` is a call of `send_encrypted`. -/
inductive Task where
  | caller (id : Nat) | runWsSender | runTunResponseLoop | runTx | runKeepalive
  deriving DecidableEq, Repr

namespace Endpoint

def runs : Endpoint → Task → Bool
  | .client, .caller _ => true
  | .server, .runWsSender | .server, .runTunResponseLoop => true
  | .ios, .runTx | .ios, .runKeepalive => true
  | .android, .runTx | .android, .runKeepalive => true
  | _, _ => false

/-- The task takes its locks with `try_lock` and skips its turn when one is taken. -/
def tries : Endpoint → Task → Bool
  | .ios, .runKeepalive => true
  | _, _ => false

/-- Messages go to a writer task over a channel; the other ends write to the sink
themselves, under the lock of `ws_write`. -/
def viaChannel : Endpoint → Bool
  | .client => true
  | .server | .ios | .android => false

end Endpoint

/-- `WS_CHANNEL_CAPACITY`. -/
def wsChannelCapacity : Nat := 256

inductive WsMessage where
  | binary (message : RatchetMessage)
  | ping
  deriving DecidableEq

def WsMessage.ratchetMessage : WsMessage → Option RatchetMessage
  | .binary message => some message
  | .ping => none

variable {Secret Private : Type}

/-- Where a sending task is: outside, holding `send_lock`, holding the ratchet too, past
`encrypt` with the ratchet released, holding `ws_write`, waiting for the sink to flush. -/
inductive SendPhase (P : Primitives Secret Private) where
  | idle | locked | encrypting (snapshot : DoubleRatchet P) | ready (message : RatchetMessage)
  | writing (message : RatchetMessage) | flushing

/-- The receiving task, outside or holding the ratchet with a message to decrypt. -/
inductive ReceivePhase (P : Primitives Secret Private) where
  | idle | decrypting (snapshot : DoubleRatchet P) (message : RatchetMessage)

inductive RatchetHolder where
  | sender (task : Task) | receiver
  deriving DecidableEq, Repr

inductive SinkHolder where
  | sender (task : Task) | pinger
  deriving DecidableEq, Repr

/-- The locks are given by their holders; `spawned` says that the tasks run. `encrypted` is a history: the messages in the
order in which `encrypt` returned them. -/
structure Tunnel (P : Primitives Secret Private) where
  ratchet : DoubleRatchet P
  sendLock : Option Task
  ratchetLock : Option RatchetHolder
  wsLock : Option SinkHolder
  spawned : Bool
  phase : Task → SendPhase P
  receiving : ReceivePhase P
  channel : List WsMessage
  channelOpen : Bool
  wire : List WsMessage
  encrypted : List RatchetMessage

inductive Action (Private : Type) where
  | announce (nonce : Nonce) (plaintext : Bytes) (written : Bool) | spawn
  | lockSend (task : Task) | lockRatchet (task : Task) | giveUp (task : Task)
  | encrypt (task : Task) (nonce : Nonce) (plaintext associatedData : Bytes)
  | enqueue (task : Task) | lockSink (task : Task) | feed (task : Task) | finish (task : Task)
  | abandon (task : Task)
  | receive (message : RatchetMessage) | decrypt (drawn : Private)
  | drain | writerEnd | ping | lockPing | feedPing

variable {P : Primitives Secret Private}

/-- The state the receiving task leaves: `decrypt_to_ref` on iOS, `decrypt` elsewhere. None
of them looks at the associated data it is given. -/
def Endpoint.afterDecrypt (endpoint : Endpoint) (ratchet : DoubleRatchet P) (drawn : Private)
    (message : RatchetMessage) : DoubleRatchet P :=
  match endpoint with
  | .ios => (ratchet.decryptToRef drawn message [0x01] []).2.2
  | .client | .server | .android => (ratchet.decrypt drawn message [0x01]).2

namespace Tunnel

def start (ratchet : DoubleRatchet P) : Tunnel P where
  ratchet := ratchet
  sendLock := none
  ratchetLock := none
  wsLock := none
  spawned := false
  phase := fun _ => .idle
  receiving := .idle
  channel := []
  channelOpen := true
  wire := []
  encrypted := []

/-- The payload type `VirtualIp`. -/
def virtualIpType : UInt8 := 0x0D

def setPhase (tunnel : Tunnel P) (task : Task) (phase : SendPhase P) : Tunnel P :=
  { tunnel with phase := Function.update tunnel.phase task phase }

/-- The task is done with its message, or has lost it: `send_lock` is released, and
`ws_write` if the task holds it. -/
def leave (tunnel : Tunnel P) (task : Task) : Tunnel P :=
  { tunnel.setPhase task .idle with
    sendLock := none
    wsLock := if tunnel.wsLock = some (.sender task) then none else tunnel.wsLock }

def step (endpoint : Endpoint) (tunnel : Tunnel P) : Action Private → Option (Tunnel P)
  -- `run` of the server sends the client its `VirtualIp` before the tasks share the
  -- ratchet, and only logs a failed write.
  | .announce nonce plaintext written =>
    if endpoint = .server ∧ tunnel.spawned = false ∧ tunnel.encrypted = [] then
      match tunnel.ratchet.encrypt nonce plaintext [virtualIpType] with
      | (.ok message, next) =>
        some { tunnel with
          ratchet := next
          wire := if written then tunnel.wire ++ [.binary message] else tunnel.wire
          encrypted := tunnel.encrypted ++ [message] }
      | (.error _, _) => none
    else none
  | .spawn => some { tunnel with spawned := true }
  | .lockSend task =>
    match tunnel.phase task with
    | .idle =>
      if endpoint.runs task ∧ tunnel.spawned ∧ tunnel.sendLock = none then
        some { tunnel.setPhase task .locked with sendLock := some task }
      else none
    | _ => none
  | .lockRatchet task =>
    match tunnel.phase task with
    | .locked =>
      if tunnel.ratchetLock = none then
        some { tunnel.setPhase task (.encrypting tunnel.ratchet) with ratchetLock := some (.sender task) }
      else none
    | _ => none
  | .giveUp task =>
    match tunnel.phase task with
    | .locked => if endpoint.tries task ∧ tunnel.ratchetLock ≠ none then some (tunnel.leave task) else none
    | _ => none
  | .encrypt task nonce plaintext associatedData =>
    match tunnel.phase task with
    | .encrypting snapshot =>
      match snapshot.encrypt nonce plaintext associatedData with
      | (.ok message, next) =>
        some { tunnel.setPhase task (.ready message) with
          ratchet := next
          ratchetLock := none
          encrypted := tunnel.encrypted ++ [message] }
      | (.error _, next) => some { tunnel.leave task with ratchet := next, ratchetLock := none }
    | _ => none
  | .enqueue task =>
    match tunnel.phase task with
    | .ready message =>
      if endpoint.viaChannel ∧ tunnel.channelOpen ∧ tunnel.channel.length < wsChannelCapacity then
        some { tunnel.leave task with channel := tunnel.channel ++ [.binary message] }
      else none
    | _ => none
  | .lockSink task =>
    match tunnel.phase task with
    | .ready message =>
      if endpoint.viaChannel = false ∧ tunnel.wsLock = none then
        some { tunnel.setPhase task (.writing message) with wsLock := some (.sender task) }
      else none
    | _ => none
  | .feed task =>
    match tunnel.phase task with
    | .writing message => some { tunnel.setPhase task .flushing with wire := tunnel.wire ++ [.binary message] }
    | _ => none
  | .finish task =>
    match tunnel.phase task with
    | .flushing => some (tunnel.leave task)
    | _ => none
  -- An error of the serialization or of the sink, or the task is dropped at an `await`;
  -- `encrypt` itself has none.
  | .abandon task =>
    match tunnel.phase task with
    | .idle | .encrypting _ => none
    | .locked | .ready _ | .writing _ | .flushing => some (tunnel.leave task)
  | .receive message =>
    match tunnel.receiving with
    | .idle =>
      if tunnel.spawned ∧ tunnel.ratchetLock = none then
        some { tunnel with receiving := .decrypting tunnel.ratchet message, ratchetLock := some .receiver }
      else none
    | .decrypting _ _ => none
  | .decrypt drawn =>
    match tunnel.receiving with
    | .decrypting snapshot message =>
      some { tunnel with
        ratchet := endpoint.afterDecrypt snapshot drawn message
        ratchetLock := none
        receiving := .idle }
    | .idle => none
  | .drain =>
    match tunnel.channel with
    | message :: rest => some { tunnel with channel := rest, wire := tunnel.wire ++ [message] }
    | [] => none
  | .writerEnd =>
    if endpoint.viaChannel then some { tunnel with channel := [], channelOpen := false } else none
  | .ping =>
    if endpoint.viaChannel ∧ tunnel.channelOpen ∧ tunnel.channel.length < wsChannelCapacity then
      some { tunnel with channel := tunnel.channel ++ [.ping] }
    else none
  | .lockPing =>
    if endpoint.viaChannel = false ∧ tunnel.wsLock = none then some { tunnel with wsLock := some .pinger } else none
  | .feedPing =>
    if tunnel.wsLock = some .pinger then some { tunnel with wire := tunnel.wire ++ [.ping], wsLock := none } else none

/-- The outcomes of `step`; an abandoned message and one handed over leave alike. -/
inductive Moves (endpoint : Endpoint) (tunnel : Tunnel P) : Action Private → Tunnel P → Prop where
  | announce {next : DoubleRatchet P} {message : RatchetMessage} (nonce : Nonce) (plaintext : Bytes) (written : Bool)
      (server : endpoint = .server) (early : tunnel.spawned = false)
      (outcome : tunnel.ratchet.encrypt nonce plaintext [virtualIpType] = (.ok message, next)) :
      Moves endpoint tunnel (.announce nonce plaintext written)
        { tunnel with
          ratchet := next
          wire := if written then tunnel.wire ++ [.binary message] else tunnel.wire
          encrypted := tunnel.encrypted ++ [message] }
  | spawn : Moves endpoint tunnel .spawn { tunnel with spawned := true }
  | lockSend (task : Task) (idle : tunnel.phase task = .idle) (spawned : tunnel.spawned = true)
      (free : tunnel.sendLock = none) :
      Moves endpoint tunnel (.lockSend task) { tunnel.setPhase task .locked with sendLock := some task }
  | lockRatchet (task : Task) (locked : tunnel.phase task = .locked) (free : tunnel.ratchetLock = none) :
      Moves endpoint tunnel (.lockRatchet task)
        { tunnel.setPhase task (.encrypting tunnel.ratchet) with ratchetLock := some (.sender task) }
  | encrypt {snapshot next : DoubleRatchet P} {message : RatchetMessage} (task : Task) (nonce : Nonce)
      (plaintext associatedData : Bytes) (encrypting : tunnel.phase task = .encrypting snapshot)
      (outcome : snapshot.encrypt nonce plaintext associatedData = (.ok message, next)) :
      Moves endpoint tunnel (.encrypt task nonce plaintext associatedData)
        { tunnel.setPhase task (.ready message) with
          ratchet := next
          ratchetLock := none
          encrypted := tunnel.encrypted ++ [message] }
  | encryptFail {snapshot next : DoubleRatchet P} {failure : Error} (task : Task) (nonce : Nonce)
      (plaintext associatedData : Bytes) (encrypting : tunnel.phase task = .encrypting snapshot)
      (outcome : snapshot.encrypt nonce plaintext associatedData = (.error failure, next)) :
      Moves endpoint tunnel (.encrypt task nonce plaintext associatedData)
        { tunnel.leave task with ratchet := next, ratchetLock := none }
  | enqueue {message : RatchetMessage} (task : Task) (ready : tunnel.phase task = .ready message)
      (channel : endpoint.viaChannel = true) :
      Moves endpoint tunnel (.enqueue task)
        { tunnel.leave task with channel := tunnel.channel ++ [.binary message] }
  | lockSink {message : RatchetMessage} (task : Task) (ready : tunnel.phase task = .ready message)
      (direct : endpoint.viaChannel = false) :
      Moves endpoint tunnel (.lockSink task)
        { tunnel.setPhase task (.writing message) with wsLock := some (.sender task) }
  | feed {message : RatchetMessage} (task : Task) (writing : tunnel.phase task = .writing message) :
      Moves endpoint tunnel (.feed task)
        { tunnel.setPhase task .flushing with wire := tunnel.wire ++ [.binary message] }
  | leave {action : Action Private} (task : Task) (busy : tunnel.phase task ≠ .idle)
      (outside : ∀ snapshot, tunnel.phase task ≠ .encrypting snapshot)
      (leaving : action = .giveUp task ∨ action = .finish task ∨ action = .abandon task) :
      Moves endpoint tunnel action (tunnel.leave task)
  | receive (message : RatchetMessage) (spawned : tunnel.spawned = true) (free : tunnel.ratchetLock = none) :
      Moves endpoint tunnel (.receive message)
        { tunnel with receiving := .decrypting tunnel.ratchet message, ratchetLock := some .receiver }
  | decrypt {snapshot : DoubleRatchet P} {message : RatchetMessage} (drawn : Private)
      (decrypting : tunnel.receiving = .decrypting snapshot message) :
      Moves endpoint tunnel (.decrypt drawn)
        { tunnel with
          ratchet := endpoint.afterDecrypt snapshot drawn message
          ratchetLock := none
          receiving := .idle }
  | drain {message : WsMessage} {rest : List WsMessage} (waiting : tunnel.channel = message :: rest) :
      Moves endpoint tunnel .drain { tunnel with channel := rest, wire := tunnel.wire ++ [message] }
  | writerEnd : Moves endpoint tunnel .writerEnd { tunnel with channel := [], channelOpen := false }
  | ping (channel : endpoint.viaChannel = true) :
      Moves endpoint tunnel .ping { tunnel with channel := tunnel.channel ++ [.ping] }
  | lockPing : Moves endpoint tunnel .lockPing { tunnel with wsLock := some .pinger }
  | feedPing : Moves endpoint tunnel .feedPing { tunnel with wire := tunnel.wire ++ [.ping], wsLock := none }

theorem moves_of_step (taken : tunnel.step endpoint action = some next) : Moves endpoint tunnel action next := by
  cases action with
  | announce nonce plaintext written =>
    by_cases early : endpoint = .server ∧ tunnel.spawned = false ∧ tunnel.encrypted = []
    · rcases outcome : tunnel.ratchet.encrypt nonce plaintext [virtualIpType] with ⟨result, ratchet⟩
      cases result with
      | error failure => simp [step, early, outcome] at taken
      | ok message =>
        rw [step, if_pos early, outcome] at taken
        exact Option.some.inj taken ▸ .announce nonce plaintext written early.1 early.2.1 outcome
    · simp [step, early] at taken
  | encrypt task nonce plaintext associatedData =>
    cases encrypting : tunnel.phase task with
    | encrypting snapshot =>
      rcases outcome : snapshot.encrypt nonce plaintext associatedData with ⟨result, ratchet⟩
      cases result with
      | error failure =>
        simp only [step, encrypting, outcome, Option.some.injEq] at taken
        exact taken ▸ .encryptFail task nonce plaintext associatedData encrypting outcome
      | ok message =>
        simp only [step, encrypting, outcome, Option.some.injEq] at taken
        exact taken ▸ .encrypt task nonce plaintext associatedData encrypting outcome
    | _ => simp [step, encrypting] at taken
  | enqueue task =>
    cases ready : tunnel.phase task with
    | ready message =>
      simp only [step, ready, Option.ite_none_right_eq_some, Option.some.injEq] at taken
      exact taken.2 ▸ .enqueue task ready taken.1.1
    | _ => simp [step, ready] at taken
  | lockSink task =>
    cases ready : tunnel.phase task with
    | ready message =>
      simp only [step, ready, Option.ite_none_right_eq_some, Option.some.injEq] at taken
      exact taken.2 ▸ .lockSink task ready taken.1.1
    | _ => simp [step, ready] at taken
  | feed task =>
    cases writing : tunnel.phase task with
    | writing message =>
      simp only [step, writing, Option.some.injEq] at taken
      exact taken ▸ .feed task writing
    | _ => simp [step, writing] at taken
  | decrypt drawn =>
    cases decrypting : tunnel.receiving with
    | idle => simp [step, decrypting] at taken
    | decrypting snapshot message =>
      simp only [step, decrypting, Option.some.injEq] at taken
      exact taken ▸ .decrypt drawn decrypting
  | _ =>
    simp only [step] at taken
    repeat' split at taken
    all_goals simp only [Option.some.injEq, reduceCtorEq] at taken
    all_goals subst taken
    all_goals constructor <;> grind

end Tunnel

end Rvpn.Session
