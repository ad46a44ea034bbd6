import Rvpn.Tun.Registry

/-! What ends up on the TUN device: a packet carries whatever source its sender put there. -/

namespace Rvpn.Tun

open Crypto Session
open Server (IpAddr isPacket sourceOf)
open Mux (MultiplexedFrame)

variable {Secret Private : Type} {P : Primitives Secret Private} {responder : X3dhPrivateBundle Private}
  {state next : State P} {action : Action Private}

def Connection.HasSent (connection : Connection P) (payload : Bytes) : Prop :=
  isPacket payload = true ∧ ∃ frame ∈ connection.arrived, frame.flowId ≠ 0 ∧ frame.payload = payload

/-- The frames still to be dispatched have arrived, and so has everything written. -/
structure Sourced (state : State P) : Prop where
  inbox : ∀ connection ∈ state.sessions, ∀ frame ∈ connection.inbox, frame ∈ connection.arrived
  written : ∀ {index : Nat} {payload : Bytes}, (index, payload) ∈ state.written →
    ∃ connection, state.sessions[index]? = some connection ∧ connection.HasSent payload

theorem start_sourced (pool : IpPool) : Sourced (State.start pool : State P) where
  inbox := fun _ member => absurd member List.not_mem_nil
  written := fun member => absurd member List.not_mem_nil

namespace Sourced

theorem set (sourced : Sourced state) (found : state.sessions[index]? = some connection)
    (sessions : next.sessions = state.sessions.set index after) (written : next.written = state.written)
    (more : ∀ frame ∈ connection.arrived, frame ∈ after.arrived)
    (inbox : ∀ frame ∈ after.inbox, frame ∈ after.arrived) : Sourced next := by
  constructor
  · intro other member
    rw [sessions] at member
    rcases List.mem_or_eq_of_mem_set member with old | rfl
    · exact sourced.inbox other old
    · exact inbox
  · intro other payload member
    rw [written] at member
    obtain ⟨old, present, passes, frame, arrived, data⟩ := sourced.written member
    have inside : index < state.sessions.length := (List.getElem?_eq_some_iff.mp found).1
    by_cases same : other = index
    · subst same
      cases found.symm.trans present
      refine ⟨after, ?_, passes, frame, more frame arrived, data⟩
      rw [sessions, List.getElem?_set_self inside]
    · refine ⟨old, ?_, passes, frame, arrived, data⟩
      rw [sessions, List.getElem?_set_ne (Ne.symm same), present]

theorem keep (sourced : Sourced state) (found : state.sessions[index]? = some connection)
    (sessions : next.sessions = state.sessions.set index after) (written : next.written = state.written)
    (inbox : after.inbox = connection.inbox) (arrived : after.arrived = connection.arrived) : Sourced next := by
  refine sourced.set found sessions written (fun _ member => arrived ▸ member) ?_
  rw [inbox, arrived]
  exact sourced.inbox connection (List.mem_of_getElem? found)

theorem congr (sourced : Sourced state) (sessions : next.sessions = state.sessions)
    (written : next.written = state.written) : Sourced next := by
  refine ⟨sessions ▸ sourced.inbox, fun member => ?_⟩
  rw [sessions]
  exact sourced.written (written ▸ member)

theorem pop {index : Nat} {connection : Connection P} {frame : MultiplexedFrame} {inbox : List MultiplexedFrame}
    (sourced : Sourced state) (found : state.sessions[index]? = some connection)
    (waiting : connection.inbox = frame :: inbox) : Sourced (state.set index { connection with inbox }) := by
  refine sourced.set found rfl rfl (fun _ arrived => arrived) fun other member => ?_
  exact sourced.inbox connection (List.mem_of_getElem? found) other (by simp [waiting, member])

theorem write {index : Nat} {connection : Connection P} {frame : MultiplexedFrame}
    {inbox : List MultiplexedFrame} (sourced : Sourced state)
    (found : state.sessions[index]? = some connection) (waiting : connection.inbox = frame :: inbox)
    (data : frame.flowId ≠ 0) (packet : isPacket frame.payload = true) :
    Sourced { state.set index { connection with inbox } with
      written := state.written ++ [(index, frame.payload)] } := by
  have popped := sourced.pop found waiting
  refine ⟨popped.inbox, fun member => ?_⟩
  rcases List.mem_append.mp member with old | new
  · exact popped.written old
  · cases List.mem_singleton.mp new
    have inside : index < state.sessions.length := (List.getElem?_eq_some_iff.mp found).1
    have arrived := sourced.inbox connection (List.mem_of_getElem? found) frame (by simp [waiting])
    refine ⟨{ connection with inbox }, ?_, packet, frame, arrived, data, rfl⟩
    exact List.getElem?_set_self inside

theorem moves (sourced : Sourced state) (moves : Moves responder state action next) : Sourced next := by
  cases moves with
  | greet drawn message session opened =>
    refine ⟨fun connection member => ?_, fun member => ?_⟩
    · rcases List.mem_append.mp member with old | new
      · exact sourced.inbox connection old
      · rw [List.mem_singleton.mp new]
        exact nofun
    · obtain ⟨connection, present, sent⟩ := sourced.written member
      have inside : _ < state.sessions.length := (List.getElem?_eq_some_iff.mp present).1
      exact ⟨connection, (List.getElem?_append_left inside).trans present, sent⟩
  | allocate index connection found | abort index connection found
  | fail index drawn message connection ratchet found | setFlows index flows connection found
  | finish index connection found | checkOwner index connection found =>
    exact sourced.keep found rfl rfl rfl rfl
  | register index connection found leased =>
    obtain ⟨-, -, sessions, written⟩ := state.registerClient_frame connection.ip index
    exact sourced.keep found (congrArg (List.set · index _) sessions) written rfl rfl
  | send index nonce plaintext associatedData connection found =>
    exact sourced.keep found rfl rfl rfl rfl
  | accept index drawn message connection plaintext ratchet found running empty opened =>
    exact sourced.set found rfl rfl (fun _ => List.mem_append_left _) (fun _ => List.mem_append_right _)
  | deliver index connection frame inbox found running waiting => exact sourced.pop found waiting
  | write index connection frame inbox found running waiting data unknown packet =>
    exact sourced.write found waiting data packet
  | unregister index connection found agreed =>
    obtain ⟨-, -, sessions, written⟩ := state.unregisterClient_frame connection.ip index
    exact sourced.keep found (congrArg (List.set · index _) sessions) written rfl rfl
  | _ => exact sourced.congr rfl rfl

end Sourced

/-- A packet that a session writes to the TUN device is the payload of a data frame which this session's client sent;
so if that client puts the leased address into its packets, every packet the session writes has it as source, whatever
the others do. -/
theorem written_packet_is_client_packet (pool : IpPool) {actions : List (Action Private)} {state : State P}
    {index : Nat} {connection : Connection P} {packet : Bytes}
    (reached : Transition.run (step responder) (State.start pool) actions = some state)
    (found : state.sessions[index]? = some connection) (written : (index, packet) ∈ state.written) :
    connection.HasSent packet ∧
      ((∀ payload, connection.HasSent payload → sourceOf payload = connection.ip) →
        sourceOf packet = connection.ip) := by
  have sourced : Sourced state :=
    Transition.run_preserves (fun _ _ _ holds taken => holds.moves (moves_of_step taken))
      (start_sourced pool) reached
  obtain ⟨owner, present, sent⟩ := sourced.written written
  cases found.symm.trans present
  exact ⟨sent, fun honest => honest packet sent⟩

namespace Sample

open Symbolic (keyOf nonceOf primitives)

def client : X3dhInitiator primitives := ⟨keyOf 4, .generate primitives (keyOf 5)⟩

def clientRatchet : DoubleRatchet primitives :=
  .initAlice (keyOf 6) (client.agree (responderKeys.getPublicBundle primitives)) (keyOf 0)

def admitted : List (Action (Vector UInt8 32)) :=
  [.hello (keyOf 8) (.hello (clientHello client)), .reclaim, .allocate 0, .register 0]

def packetFrom (source : Bytes) : Bytes := 0x45 :: List.replicate 11 0 ++ source ++ [10, 200, 0, 1]

def framed (packet : Bytes) : Bytes := [0, 0, 0, 1, 0, 20] ++ packet ++ [0, 0]

def sendPacket (source : Bytes) : Option (List (Action (Vector UInt8 32))) :=
  match clientRatchet.encrypt (nonceOf 7) (framed (packetFrom source)) [1] with
  | (.ok message, _) => some (admitted ++ [.receive 0 (keyOf 9) message, .dispatch 0])
  | (.error _, _) => none

def afterPacket (source : Bytes) : Option (State primitives) :=
  (sendPacket source).bind fun actions => Transition.run (step responderKeys) (State.start onePool) actions

end Sample

open Sample in
/-- The client with the address 10.200.0.3 has a packet from 192.0.2.1 written to the device. -/
theorem foreign_source_written :
    (afterPacket [192, 0, 2, 1]).map (fun state => (state.sessions.map (·.ip), state.written)) =
        some ([some address], [(0, packetFrom [192, 0, 2, 1])]) ∧
      sourceOf (packetFrom [192, 0, 2, 1]) ≠ some address := by
  decide +kernel

open Sample in
theorem own_source_written : ∃ state connection, afterPacket [10, 200, 0, 3] = some state ∧
    state.sessions[0]? = some connection ∧ (0, packetFrom [10, 200, 0, 3]) ∈ state.written ∧
      sourceOf (packetFrom [10, 200, 0, 3]) = connection.ip := by
  obtain ⟨state, reached, sessions, written⟩ : ∃ state, afterPacket [10, 200, 0, 3] = some state ∧
      state.sessions.map (fun connection => (connection.ip, connection.arrived)) =
        [(some address, [⟨1, packetFrom [10, 200, 0, 3]⟩])] ∧ state.written = [(0, packetFrom [10, 200, 0, 3])] := by
    decide +kernel
  obtain ⟨actions, -, ran⟩ := Option.bind_eq_some_iff.mp reached
  obtain ⟨connection, only, shape⟩ := List.map_eq_singleton_iff.mp sessions
  obtain ⟨ip, arrived⟩ := Prod.mk.inj shape
  have found : state.sessions[0]? = some connection := by simp [only]
  have member : (0, packetFrom [10, 200, 0, 3]) ∈ state.written := by simp [written]
  have honest : ∀ payload, connection.HasSent payload → sourceOf payload = connection.ip := by
    rintro payload ⟨-, frame, listed, -, rfl⟩
    rw [arrived] at listed
    rw [List.mem_singleton.mp listed, ip]
    decide +kernel
  exact ⟨state, connection, reached, found, member,
    (written_packet_is_client_packet onePool ran found member).2 honest⟩

end Rvpn.Tun
