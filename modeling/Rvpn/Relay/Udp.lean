import Rvpn.Relay.Delivery
import Rvpn.Server.Address

/-! `relay_udp`: the datagrams that arrive at its socket on their way to the client. Of the other direction only the
use of the shared ratchet is kept. -/

namespace Rvpn.Relay

open Crypto RacedPipe
open Server (SocketAddr)

variable {Secret Private : Type} {P : Primitives Secret Private}

def maxDatagram : Nat := 65507
/-- The length of `buf`. -/
def udpBufferSize : Nat := 8190

structure Datagram where
  source : SocketAddr
  payload : Bytes
  fits : payload.length ≤ maxDatagram
  deriving DecidableEq

/-- What `recv_from` leaves in the buffer; the source is ignored. -/
def Datagram.received (datagram : Datagram) : Bytes := datagram.payload.take udpBufferSize

structure UdpRelay (P : Primitives Secret Private) where
  arrived : List Datagram
  unread : List Datagram
  tasks : Pipe Bytes
  ratchet : DoubleRatchet P
  encrypted : List Bytes
  wire : List Bytes

inductive UdpAction (Private : Type) where
  | arrive (datagram : Datagram)
  /-- Task 2. -/
  | receive
  | receiveError
  | tasks (action : RacedPipe.Action)
  /-- Task 3; the WebSocket may refuse the message. -/
  | transmit (nonce : Nonce) (fill : Nat → UInt8) (sent : Bool)
  /-- Task 1 decrypts, or ends. -/
  | decrypt (drawn : Private) (message : RatchetMessage) (aad : Bytes)
  | endUplink

namespace UdpRelay

def start (ratchet : DoubleRatchet P) : UdpRelay P := ⟨[], [], .start, ratchet, [], []⟩

def transmit (relay : UdpRelay P) (nonce : Nonce) (fill : Nat → UInt8) (sent : Bool) : Option (UdpRelay P) :=
  match consume relay.tasks with
  | none => none
  | some (data, tasks) =>
    let broken := { tasks with consumer := .finished }
    match encryptFrame relay.ratchet nonce fill data with
    | (.ok message, ratchet) =>
      let relay := { relay with ratchet, encrypted := relay.encrypted ++ [data] }
      if sent then some { relay with tasks, wire := relay.wire ++ [message] } else some { relay with tasks := broken }
    | (.error _, ratchet) => some { relay with tasks := broken, ratchet }

def step (relay : UdpRelay P) : UdpAction Private → Option (UdpRelay P)
  | .arrive datagram =>
    some { relay with arrived := relay.arrived ++ [datagram], unread := relay.unread ++ [datagram] }
  | .receive =>
    match relay.unread with
    | [] => none
    | datagram :: unread => (produce relay.tasks datagram.received).map fun tasks => { relay with tasks, unread }
  | .receiveError => (finishProducer relay.tasks).map fun tasks => { relay with tasks }
  | .tasks action => (RacedPipe.step relayChannelCap relay.tasks action).map fun tasks => { relay with tasks }
  | .transmit nonce fill sent => relay.transmit nonce fill sent
  | .decrypt drawn message aad =>
    if relay.tasks.ended then none else some { relay with ratchet := (relay.ratchet.decrypt drawn message aad).2 }
  | .endUplink => (finishOther relay.tasks).map fun tasks => { relay with tasks }

/-- What was encrypted, and then what is still on its way, in the order of arrival; something may be lost. -/
def Ordered (relay : UdpRelay P) : Prop :=
  (relay.encrypted ++ (relay.tasks.contents ++ relay.unread.map (·.received))).Sublist
    (relay.arrived.map (·.received))

variable {relay next : UdpRelay P}

theorem Ordered.of_contents {pipe : Pipe Bytes} (ordered : relay.Ordered)
    (contents : pipe.contents = relay.tasks.contents) : Ordered { relay with tasks := pipe } := by
  rwa [Ordered, contents]

theorem contents_finish_sublist (tasks : Pipe Bytes) :
    (Pipe.contents { tasks with consumer := .finished }).Sublist tasks.contents :=
  List.sublist_append_right _ _

theorem Ordered.transmit (ordered : relay.Ordered) (taken : relay.transmit nonce fill sent = some next) :
    next.Ordered := by
  unfold UdpRelay.transmit at taken
  split at taken
  · cases taken
  · rename_i data tasks consumed
    obtain ⟨-, -, contents, -⟩ := consume_spec consumed
    have shorter := contents_finish_sublist tasks
    rw [Ordered, contents] at ordered
    simp only at taken
    split at taken
    · split at taken
      · cases taken
        simpa [Ordered] using ordered
      · cases taken
        refine .trans ?_ ordered
        simpa [Ordered] using shorter
    · cases taken
      refine .trans ?_ ordered
      simpa [Ordered] using (shorter.append_right _).cons data

theorem Ordered.step (ordered : relay.Ordered) (taken : relay.step action = some next) : next.Ordered := by
  cases action with
  | arrive datagram =>
    cases taken
    simpa [Ordered] using List.Sublist.append ordered (.refl [datagram.received])
  | receive =>
    simp only [UdpRelay.step] at taken
    split at taken
    · cases taken
    · rename_i datagram unread waiting
      obtain ⟨tasks, produced, rfl⟩ := Option.map_eq_some_iff.mp taken
      obtain ⟨-, -, contents, -⟩ := produce_spec produced
      simpa [Ordered, contents, waiting] using ordered
  | receiveError =>
    obtain ⟨tasks, finished, rfl⟩ := Option.map_eq_some_iff.mp taken
    exact ordered.of_contents (finishProducer_spec finished).2.2.1
  | tasks action =>
    obtain ⟨tasks, moved, rfl⟩ := Option.map_eq_some_iff.mp taken
    exact ordered.of_contents (step_spec moved).2.1
  | transmit nonce fill sent => exact ordered.transmit taken
  | decrypt drawn message aad =>
    simp only [UdpRelay.step] at taken
    split at taken
    · cases taken
    · cases taken
      exact ordered
  | endUplink =>
    obtain ⟨tasks, finished, rfl⟩ := Option.map_eq_some_iff.mp taken
    exact ordered.of_contents (finishOther_spec finished).2.2.1

/-- If all datagrams come from the target and fit the buffer, what is encrypted are payloads of the target's
datagrams, complete and in the order of arrival. -/
theorem encrypted_of_target (ratchet : DoubleRatchet P) (target : SocketAddr) (actions : List (UdpAction Private))
    (relay : UdpRelay P) (reached : Transition.run step (start ratchet) actions = some relay)
    (honest : ∀ datagram ∈ relay.arrived, datagram.source = target ∧ datagram.payload.length ≤ udpBufferSize) :
    relay.encrypted.Sublist ((relay.arrived.filter (·.source = target)).map (·.payload)) := by
  have ordered : relay.Ordered :=
    Transition.run_preserves (fun _ _ _ => Ordered.step) (show (start ratchet).Ordered from .refl _) reached
  have all : relay.arrived.filter (·.source = target) = relay.arrived :=
    List.filter_eq_self.mpr fun datagram listed => decide_eq_true (honest datagram listed).1
  have whole : relay.arrived.map (·.payload) = relay.arrived.map (·.received) :=
    List.map_congr_left fun datagram listed => (List.take_of_length_le (honest datagram listed).2).symm
  rw [all, whole]
  exact (List.sublist_append_left _ _).trans ordered

namespace UdpSample

def target : SocketAddr := ⟨.v4 #v[192, 0, 2, 53], 53⟩
def stranger : SocketAddr := ⟨.v4 #v[203, 0, 113, 66], 4000⟩

def datagram (source : SocketAddr) : Datagram := ⟨source, [6, 6, 6], by decide⟩

def relayed (source : SocketAddr) : List (UdpAction (Vector UInt8 32)) :=
  [.arrive (datagram source), .receive, .tasks .push, .tasks .take,
    .transmit (Symbolic.nonceOf 4) (fun _ => 0) true]

theorem relayed_encrypted (known : source = target ∨ source = stranger) : ∃ relay,
    Transition.run step (start RelaySample.server) (relayed source) = some relay ∧
      relay.encrypted = [[6, 6, 6]] ∧ relay.arrived = [datagram source] := by
  rcases known with rfl | rfl <;> decide +kernel

end UdpSample

open UdpSample in
theorem answer_relayed : ∃ relay, Transition.run step (start RelaySample.server) (relayed target) = some relay ∧
    relay.encrypted.Sublist ((relay.arrived.filter (·.source = target)).map (·.payload)) := by
  obtain ⟨relay, reached, -, arrived⟩ := relayed_encrypted (.inl rfl)
  refine ⟨relay, reached, encrypted_of_target _ target _ relay reached ?_⟩
  rw [arrived]
  decide

open UdpSample in
/-- A datagram from anybody is encrypted. -/
theorem stranger_relayed : ∃ relay, Transition.run step (start RelaySample.server) (relayed stranger) = some relay ∧
    relay.encrypted = [[6, 6, 6]] ∧ relay.arrived.filter (·.source = target) = [] := by
  obtain ⟨relay, reached, encrypted, arrived⟩ := relayed_encrypted (.inr rfl)
  exact ⟨relay, reached, encrypted, by rw [arrived]; decide⟩

end UdpRelay

end Rvpn.Relay
