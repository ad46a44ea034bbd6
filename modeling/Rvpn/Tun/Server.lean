import Rvpn.Lib.Slots
import Rvpn.Lib.Transition
import Rvpn.Mux.Framing
import Rvpn.Server.Packet
import Rvpn.Session.Handshake
import Rvpn.Tun.IpPool

/-! A server in TUN mode. Whoever can reach it chooses every Hello; a sender is named by the number of its session.
-/

namespace Rvpn.Tun

open Crypto Session
open Server (Instant IpAddr isPacket)
open Mux (FlowId MultiplexedFrame framesOf)
open Transition

/-- Where `run` stands: the handshake is done, `allocate_ip` has returned, the tasks run,
they have ended, the lease is still the client's or gone, the clean-up is over. -/
inductive Phase where
  | greeted | leased | running | closing | unregistering | ended
  deriving DecidableEq, Repr

variable {Secret Private : Type}

/-- A session: `ip` is `allocated_ip_for_tun`, `flows` the keys of its flow map and `inbox`
the frames of a message not yet dispatched. The fields after it are histories: when the
address was allocated, how many messages were accepted, and all frames in them. -/
structure Connection (P : Primitives Secret Private) where
  session : ServerSession P
  phase : Phase
  ip : Option IpAddr
  flows : List FlowId
  inbox : List MultiplexedFrame
  leasedAt : Instant
  accepted : Nat
  arrived : List MultiplexedFrame

/-- `written` is what has gone to the device and from which session; `stale` is the address
and the sender that the read loop has found closed and not yet removed. -/
structure State (P : Primitives Secret Private) where
  now : Instant
  pool : IpPool
  senders : IpAddr → Option Nat
  sessions : List (Connection P)
  written : List (Nat × Bytes)
  stale : Option (IpAddr × Nat)

inductive Action (Private : Type) where
  | tick (elapsed : Nat)
  | hello (drawn : Private) (message : HandshakeMessage)
  | reclaim
  | allocate (index : Nat)
  | abort (index : Nat)
  | register (index : Nat)
  | send (index : Nat) (nonce : Nonce) (plaintext associatedData : Bytes)
  | receive (index : Nat) (drawn : Private) (message : RatchetMessage)
  | dispatch (index : Nat)
  | setFlows (index : Nat) (flows : List FlowId)
  | finish (index : Nat)
  | checkOwner (index : Nat)
  | unregister (index : Nat)
  | route (ip : IpAddr)
  | removeStale

variable {P : Primitives Secret Private}

/-- `tun_client_id` of a session whose handshake is done. -/
def tunClientId (identity : PublicKey) : String :=
  "ik:" ++ String.ofList (TextCodec.hexEncode identity.toList)

def Connection.greet (session : ServerSession P) : Connection P where
  session
  phase := .greeted
  ip := none
  flows := []
  inbox := []
  leasedAt := 0
  accepted := 0
  arrived := []

def Connection.setRatchet (connection : Connection P) (ratchet : DoubleRatchet P) : Connection P :=
  { connection with session := { connection.session with ratchet } }

namespace State

def start (pool : IpPool) : State P where
  now := 0
  pool
  senders := fun _ => none
  sessions := []
  written := []
  stale := none

def set (state : State P) (index : Nat) (connection : Connection P) : State P :=
  { state with sessions := state.sessions.set index connection }

/-- `register_client`: the sender is inserted whatever stood there. -/
def registerClient (state : State P) (ip : Option IpAddr) (index : Nat) : State P :=
  match ip with
  | some ip => { state with senders := Function.update state.senders ip (some index) }
  | none => state

/-- The end of `unregister_client`: the sender goes only if it is the session's own. -/
def unregisterClient (state : State P) (ip : Option IpAddr) (index : Nat) : State P :=
  match ip with
  | some ip =>
    if state.senders ip = some index then { state with senders := Function.update state.senders ip none }
    else state
  | none => state

def ownerAgrees (state : State P) (connection : Connection P) : Bool :=
  match connection.ip with
  | none => false
  | some ip =>
    match state.pool.allocated.lookup ip with
    | some entry => entry.clientId = tunClientId connection.session.clientIdentity
    | none => true

def senderClosed (state : State P) (index : Nat) : Bool :=
  match state.sessions[index]? with
  | some connection => connection.phase = .closing ∨ connection.phase = .unregistering ∨ connection.phase = .ended
  | none => true

end State

open State in
def step (responder : X3dhPrivateBundle Private) (state : State P) : Action Private → Option (State P)
  | .tick elapsed => some { state with now := state.now + elapsed }
  | .hello drawn message =>
    match (performHandshake (some responder) drawn message).2 with
    | some session => some { state with sessions := state.sessions ++ [.greet session] }
    | none => some state
  | .reclaim =>
    some { state with pool := (state.pool.reclaimExpired state.now fun ip => (state.senders ip).isSome).2 }
  | .allocate index =>
    state.sessions[index]?.bind fun connection =>
      if connection.phase = .greeted then
        let (ip, pool) := state.pool.allocate state.now (tunClientId connection.session.clientIdentity)
        some ({ state with pool }.set index { connection with phase := .leased, ip, leasedAt := state.now })
      else none
  | .abort index =>
    -- sending the address to the client may fail
    state.sessions[index]?.bind fun connection =>
      if connection.phase = .leased then some (state.set index { connection with phase := .ended }) else none
  | .register index =>
    state.sessions[index]?.bind fun connection =>
      if connection.phase = .leased then
        some ((state.registerClient connection.ip index).set index { connection with phase := .running })
      else none
  | .send index nonce plaintext associatedData =>
    state.sessions[index]?.map fun connection =>
      state.set index
        (connection.setRatchet (connection.session.ratchet.encrypt nonce plaintext associatedData).2)
  | .receive index drawn message =>
    state.sessions[index]?.bind fun connection =>
      if connection.phase = .running ∧ connection.inbox = [] then
        if message.header.payloadType > 0x0C then some state
        else match connection.session.ratchet.decrypt drawn message [message.header.payloadType] with
          | (.error _, ratchet) => some (state.set index (connection.setRatchet ratchet))
          | (.ok plaintext, ratchet) =>
            some (state.set index { connection.setRatchet ratchet with
              inbox := framesOf plaintext
              accepted := connection.accepted + 1
              arrived := connection.arrived ++ framesOf plaintext })
      else none
  | .dispatch index =>
    state.sessions[index]?.bind fun connection =>
      match connection.phase, connection.inbox with
      | .running, frame :: inbox =>
        let state := state.set index { connection with inbox }
        -- flow 0 is the control channel; a flow in the map has its own queue
        if frame.flowId ≠ 0 ∧ frame.flowId ∉ connection.flows ∧ isPacket frame.payload = true then
          some { state with written := state.written ++ [(index, frame.payload)] }
        else some state
      | _, _ => none
  | .setFlows index flows =>
    state.sessions[index]?.map fun connection => state.set index { connection with flows }
  | .finish index =>
    state.sessions[index]?.bind fun connection =>
      if connection.phase = .running then some (state.set index { connection with phase := .closing }) else none
  | .checkOwner index =>
    state.sessions[index]?.bind fun connection =>
      if connection.phase = .closing then
        let phase := if state.ownerAgrees connection then .unregistering else .ended
        some (state.set index { connection with phase })
      else none
  | .unregister index =>
    state.sessions[index]?.bind fun connection =>
      if connection.phase = .unregistering then
        some ((state.unregisterClient connection.ip index).set index { connection with phase := .ended })
      else none
  | .route ip =>
    match state.stale, state.senders ip with
    | none, some index => if state.senderClosed index then some { state with stale := some (ip, index) } else some state
    | none, none => some state
    | some _, _ => none
  | .removeStale =>
    state.stale.map fun (ip, _) =>
      { state with senders := Function.update state.senders ip none, stale := none }

theorem State.registerClient_frame (state : State P) (ip : Option IpAddr) (index : Nat) :
    (state.registerClient ip index).now = state.now ∧ (state.registerClient ip index).pool = state.pool ∧
      (state.registerClient ip index).sessions = state.sessions ∧
      (state.registerClient ip index).written = state.written := by
  cases ip <;> exact ⟨rfl, rfl, rfl, rfl⟩

theorem State.unregisterClient_frame (state : State P) (ip : Option IpAddr) (index : Nat) :
    (state.unregisterClient ip index).now = state.now ∧ (state.unregisterClient ip index).pool = state.pool ∧
      (state.unregisterClient ip index).sessions = state.sessions ∧
      (state.unregisterClient ip index).written = state.written := by
  cases ip with
  | none => exact ⟨rfl, rfl, rfl, rfl⟩
  | some ip =>
    unfold State.unregisterClient
    dsimp only
    split <;> exact ⟨rfl, rfl, rfl, rfl⟩

/-- `unregister_client` puts no sender anywhere. -/
theorem State.senders_unregisterClient (state : State P) (own : Option IpAddr) (other : Nat)
    (after : (state.unregisterClient own other).senders ip = some index) :
    state.senders ip = some index := by
  cases own with
  | none => exact after
  | some addr =>
    unfold State.unregisterClient at after
    dsimp only at after
    split at after
    · by_cases same : ip = addr
      · subst same
        simp at after
      · dsimp only at after
        rwa [Function.update_of_ne same] at after
    · exact after

/-- The outcomes of `step`, one constructor for each. -/
inductive Moves (responder : X3dhPrivateBundle Private) (state : State P) :
    Action Private → State P → Prop where
  | tick (elapsed : Nat) :
      Moves responder state (.tick elapsed) { state with now := state.now + elapsed }
  | refuse (drawn : Private) (message : HandshakeMessage) :
      Moves responder state (.hello drawn message) state
  | greet (drawn : Private) (message : HandshakeMessage) (session : ServerSession P)
      (opened : (performHandshake (some responder) drawn message).2 = some session) :
      Moves responder state (.hello drawn message)
        { state with sessions := state.sessions ++ [.greet session] }
  | reclaim :
      Moves responder state .reclaim
        { state with pool := (state.pool.reclaimExpired state.now fun ip => (state.senders ip).isSome).2 }
  | allocate (index : Nat) (connection : Connection P) (found : state.sessions[index]? = some connection)
      (greeted : connection.phase = .greeted) :
      Moves responder state (.allocate index)
        ({ state with
            pool := (state.pool.allocate state.now (tunClientId connection.session.clientIdentity)).2 }.set index
          { connection with
            phase := .leased
            ip := (state.pool.allocate state.now (tunClientId connection.session.clientIdentity)).1
            leasedAt := state.now })
  | abort (index : Nat) (connection : Connection P) (found : state.sessions[index]? = some connection) :
      Moves responder state (.abort index) (state.set index { connection with phase := .ended })
  | register (index : Nat) (connection : Connection P) (found : state.sessions[index]? = some connection)
      (leased : connection.phase = .leased) :
      Moves responder state (.register index)
        ((state.registerClient connection.ip index).set index { connection with phase := .running })
  | send (index : Nat) (nonce : Nonce) (plaintext associatedData : Bytes) (connection : Connection P)
      (found : state.sessions[index]? = some connection) :
      Moves responder state (.send index nonce plaintext associatedData)
        (state.set index
          (connection.setRatchet (connection.session.ratchet.encrypt nonce plaintext associatedData).2))
  | reject (index : Nat) (drawn : Private) (message : RatchetMessage) :
      Moves responder state (.receive index drawn message) state
  | fail (index : Nat) (drawn : Private) (message : RatchetMessage) (connection : Connection P)
      (ratchet : DoubleRatchet P) (found : state.sessions[index]? = some connection)
      (running : connection.phase = .running) :
      Moves responder state (.receive index drawn message)
        (state.set index (connection.setRatchet ratchet))
  | accept (index : Nat) (drawn : Private) (message : RatchetMessage) (connection : Connection P)
      (plaintext : Bytes) (ratchet : DoubleRatchet P) (found : state.sessions[index]? = some connection)
      (running : connection.phase = .running) (empty : connection.inbox = [])
      (opened : connection.session.ratchet.decrypt drawn message [message.header.payloadType] =
        (.ok plaintext, ratchet)) :
      Moves responder state (.receive index drawn message)
        (state.set index { connection.setRatchet ratchet with
          inbox := framesOf plaintext
          accepted := connection.accepted + 1
          arrived := connection.arrived ++ framesOf plaintext })
  | deliver (index : Nat) (connection : Connection P) (frame : MultiplexedFrame)
      (inbox : List MultiplexedFrame) (found : state.sessions[index]? = some connection)
      (running : connection.phase = .running) (waiting : connection.inbox = frame :: inbox) :
      Moves responder state (.dispatch index) (state.set index { connection with inbox })
  | write (index : Nat) (connection : Connection P) (frame : MultiplexedFrame)
      (inbox : List MultiplexedFrame) (found : state.sessions[index]? = some connection)
      (running : connection.phase = .running) (waiting : connection.inbox = frame :: inbox)
      (data : frame.flowId ≠ 0) (unknown : frame.flowId ∉ connection.flows)
      (packet : isPacket frame.payload = true) :
      Moves responder state (.dispatch index)
        { state.set index { connection with inbox } with
          written := state.written ++ [(index, frame.payload)] }
  | setFlows (index : Nat) (flows : List FlowId) (connection : Connection P)
      (found : state.sessions[index]? = some connection) :
      Moves responder state (.setFlows index flows) (state.set index { connection with flows })
  | finish (index : Nat) (connection : Connection P) (found : state.sessions[index]? = some connection) :
      Moves responder state (.finish index) (state.set index { connection with phase := .closing })
  | checkOwner (index : Nat) (connection : Connection P) (found : state.sessions[index]? = some connection)
      (closing : connection.phase = .closing) :
      Moves responder state (.checkOwner index)
        (state.set index { connection with
          phase := if state.ownerAgrees connection then .unregistering else .ended })
  | unregister (index : Nat) (connection : Connection P) (found : state.sessions[index]? = some connection)
      (agreed : connection.phase = .unregistering) :
      Moves responder state (.unregister index)
        ((state.unregisterClient connection.ip index).set index { connection with phase := .ended })
  | route (ip : IpAddr) : Moves responder state (.route ip) state
  | findStale (ip : IpAddr) (index : Nat) (registered : state.senders ip = some index)
      (closed : state.senderClosed index = true) :
      Moves responder state (.route ip) { state with stale := some (ip, index) }
  | removeStale (ip : IpAddr) (index : Nat) (stale : state.stale = some (ip, index)) :
      Moves responder state .removeStale
        { state with senders := Function.update state.senders ip none, stale := none }

theorem moves_of_step (taken : step responder state action = some next) : Moves responder state action next := by
  cases action with
  | tick elapsed =>
    cases taken
    exact .tick elapsed
  | hello drawn message =>
    simp only [step] at taken
    split at taken
    · rename_i session opened
      cases taken
      exact .greet drawn message session opened
    · cases taken
      exact .refuse drawn message
  | reclaim =>
    cases taken
    exact .reclaim
  | allocate index =>
    obtain ⟨connection, found, taken⟩ := Option.bind_eq_some_iff.mp taken
    split at taken <;> [rename_i greeted; cases taken]
    cases taken
    exact .allocate index connection found greeted
  | abort index =>
    obtain ⟨connection, found, -, rfl⟩ := guarded_eq_some_iff.mp taken
    exact .abort index connection found
  | register index =>
    obtain ⟨connection, found, leased, rfl⟩ := guarded_eq_some_iff.mp taken
    exact .register index connection found leased
  | send index nonce plaintext associatedData =>
    obtain ⟨connection, found, rfl⟩ := Option.map_eq_some_iff.mp taken
    exact .send index nonce plaintext associatedData connection found
  | receive index drawn message =>
    obtain ⟨connection, found, taken⟩ := Option.bind_eq_some_iff.mp taken
    split at taken <;> [rename_i ready; cases taken]
    split at taken
    · cases taken
      exact .reject index drawn message
    · split at taken
      · rename_i failure ratchet opened
        cases taken
        exact .fail index drawn message connection ratchet found ready.1
      · rename_i plaintext ratchet opened
        cases taken
        exact .accept index drawn message connection plaintext ratchet found ready.1 ready.2 opened
  | dispatch index =>
    obtain ⟨connection, found, taken⟩ := Option.bind_eq_some_iff.mp taken
    split at taken <;> [rename_i frame inbox running waiting; cases taken]
    dsimp only at taken
    split at taken
    · rename_i branch
      cases taken
      exact .write index connection frame inbox found running waiting branch.1 branch.2.1 branch.2.2
    · cases taken
      exact .deliver index connection frame inbox found running waiting
  | setFlows index flows =>
    obtain ⟨connection, found, rfl⟩ := Option.map_eq_some_iff.mp taken
    exact .setFlows index flows connection found
  | finish index =>
    obtain ⟨connection, found, -, rfl⟩ := guarded_eq_some_iff.mp taken
    exact .finish index connection found
  | checkOwner index =>
    obtain ⟨connection, found, closing, rfl⟩ := guarded_eq_some_iff.mp taken
    exact .checkOwner index connection found closing
  | unregister index =>
    obtain ⟨connection, found, agreed, rfl⟩ := guarded_eq_some_iff.mp taken
    exact .unregister index connection found agreed
  | route ip =>
    simp only [step] at taken
    split at taken
    · rename_i index clear registered
      split at taken
      · rename_i closed
        cases taken
        exact .findStale ip index registered closed
      · cases taken
        exact .route ip
    · cases taken
      exact .route ip
    · cases taken
  | removeStale =>
    obtain ⟨⟨ip, index⟩, stale, rfl⟩ := Option.map_eq_some_iff.mp taken
    exact .removeStale ip index stale

end Rvpn.Tun
