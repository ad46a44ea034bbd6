import Rvpn.Lib.RacedPipe
import Rvpn.Mux.BatchLink

/-! The legacy relay from the target to the local application: the tasks of `relay_tcp` and of `StreamRelay::relay`.
-/

namespace Rvpn.Relay

open Crypto Mux RacedPipe

variable {Secret Private : Type}

def relayChannelCap : Nat := 100

inductive WsMessage where
  | binary (data : Bytes)
  | close
  deriving DecidableEq

structure State (P : Primitives Secret Private) where
  targetWritten : Bytes
  targetClosed : Bool
  unread : Bytes
  server : Pipe Bytes
  sender : DoubleRatchet P
  closeSent : Bool
  wire : List WsMessage
  receiver : DoubleRatchet P
  client : Pipe Bytes
  written : Bytes
  clientClose : Bool

inductive Action (Private : Type) where
  | targetWrite (bytes : Bytes)
  | targetClose
  | read (count : Nat)
  | readEof
  /-- Tasks 2 and 3 and `join_next`. -/
  | server (action : RacedPipe.Action)
  | transmit (nonce : Nonce) (fill : Nat → UInt8)
  /-- Task 1 of the server ends at the client's Close, after a time without data from the client, or because the target
does not take what is written. -/
  | readClose
  | idleTimeout
  | targetRefuses
  | sendClose
  /-- `recv_task` of the client. -/
  | receive (drawn : Private)
  | client (action : RacedPipe.Action)
  /-- `write_task` writes what it holds. -/
  | write
  /-- The application closes its side: `send_task` sends a Close and ends. -/
  | localEof

variable {P : Primitives Secret Private}

/-- `encrypt_frame`. -/
def encryptFrame (ratchet : DoubleRatchet P) (nonce : Nonce) (fill : Nat → UInt8) (data : Bytes) :
    Except BatchError Bytes × DoubleRatchet P :=
  encryptPadded ratchet nonce fill data

/-- How `recv_task` opens a message; one it cannot open is skipped. -/
def openFrame (ratchet : DoubleRatchet P) (drawn : Private) (data : Bytes) : Option Bytes × DoubleRatchet P :=
  match RatchetMessage.fromBytes data with
  | .error _ => (none, ratchet)
  | .ok message =>
    match ratchet.decrypt drawn message [dataPayloadType] with
    | (.error _, next) => (none, next)
    | (.ok decrypted, next) => ((unpadPacket decrypted).toOption, next)

def start (sender receiver : DoubleRatchet P) : State P where
  targetWritten := []
  targetClosed := false
  unread := []
  server := .start
  sender
  closeSent := false
  wire := []
  receiver
  client := .start
  written := []
  clientClose := false

def receive (state : State P) (drawn : Private) : Option (State P) :=
  match state.wire with
  | [] => none
  | .close :: rest => (finishProducer state.client).map fun client => { state with client, wire := rest }
  | .binary data :: rest =>
    match state.client.ended, state.client.producer with
    | false, .running none =>
      match openFrame state.receiver drawn data with
      | (none, receiver) => some { state with receiver, wire := rest }
      | (some plaintext, receiver) =>
        (produce state.client plaintext).map fun client => { state with receiver, client, wire := rest }
    | _, _ => none

def transmit (state : State P) (nonce : Nonce) (fill : Nat → UInt8) : Option (State P) :=
  match consume state.server with
  | none => none
  | some (data, server) =>
    match encryptFrame state.sender nonce fill data with
    | (.ok message, sender) => some { state with server, sender, wire := state.wire ++ [.binary message] }
    | (.error _, sender) => some { state with server := { server with consumer := .finished }, sender }

def endUplink (state : State P) : Option (State P) := (finishOther state.server).map fun server => { state with server }

def step (state : State P) : Action Private → Option (State P)
  | .targetWrite bytes =>
    if state.targetClosed then none
    else some { state with targetWritten := state.targetWritten ++ bytes, unread := state.unread ++ bytes }
  | .targetClose => some { state with targetClosed := true }
  | .read count =>
    if 0 < count ∧ count ≤ readBufferSize ∧ count ≤ state.unread.length then
      (produce state.server (state.unread.take count)).map fun server =>
        { state with server, unread := state.unread.drop count }
    else none
  | .readEof =>
    if state.unread = [] ∧ state.targetClosed then
      (finishProducer state.server).map fun server => { state with server }
    else none
  | .server action => (RacedPipe.step relayChannelCap state.server action).map fun server => { state with server }
  | .transmit nonce fill => transmit state nonce fill
  | .readClose => if state.clientClose then endUplink state else none
  | .idleTimeout | .targetRefuses => endUplink state
  | .sendClose =>
    if state.server.ended ∧ ¬ state.closeSent then
      some { state with closeSent := true, wire := state.wire ++ [.close] }
    else none
  | .receive drawn => receive state drawn
  | .client action => (RacedPipe.step relayChannelCap state.client action).map fun client => { state with client }
  | .write => (consume state.client).map fun (data, client) =>
      { state with client, written := state.written ++ data }
  | .localEof => (finishOther state.client).map fun client => { state with client, clientClose := true }

/-- A side ends the race only when its tasks have passed everything on: the server once the target has
closed and nothing is left unread, the client once it has read the server's Close. -/
def drained (state : State P) : Action Private → Bool
  | .server .join => decide (state.targetClosed = true ∧ state.unread = [] ∧ state.server.contents = [])
  | .client .join => decide (state.client.producer = .finished ∧ state.client.contents = [])
  | _ => true

end Rvpn.Relay
