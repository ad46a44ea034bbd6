import Rvpn.Mux.ClientFlow

/-! One flow at the server. An aborted task is only marked: it may run on before the runtime drops it. -/

namespace Rvpn.Mux

/-- The flow map's entry: not inserted yet, present, taken out again. -/
inductive MapEntry where
  | absent | inserted | removed
  deriving DecidableEq, Repr

/-- `spawn_flow_writer`: waiting on `to_target_rx`, in `write_all`, awaiting room for
the `WindowUpdate`, taking the flow out after a failed write, awaiting room for the
`CloseFlow`, returned or dropped. -/
inductive WriterPhase where
  | absent | recv | writing (size : Nat) (left : Bytes) | granting (size : Nat)
  | failed | closing | done
  deriving DecidableEq, Repr

/-- `spawn_flow_relay`: at the top of its loop, parked at zero credits, in `read` with
the buffer cut to `cap`, awaiting room on `tx`, taking the flow out, awaiting room for
the `CloseFlow`, returned or dropped. -/
inductive ServerRelayPhase where
  | absent | gate | waiting | reading (cap : Nat) | sending (data : Bytes)
  | removing | closing | done
  deriving DecidableEq, Repr

/-- The state of one flow. `pending` is its `pending_flows` buffer, `queue` its uplink
queue. The fields after `targetClosed` are histories: the payloads of its data frames
taken off the wire and those accepted by the queue, what was written to the target,
read and sent by the target, and put on `tx`. -/
structure ServerFlow where
  entry : MapEntry
  credits : FlowSendCredits
  queue : List Bytes
  writer : WriterPhase
  writerAborted : Bool
  relay : ServerRelayPhase
  relayAborted : Bool
  pending : List Bytes
  targetIn : Bytes
  targetOut : Bytes
  targetClosed : Bool
  received : Bytes
  enqueued : Bytes
  written : Bytes
  targetRead : Bytes
  targetSent : Bytes
  forwarded : Bytes
  deriving DecidableEq, Repr

inductive ServerAction where
  | writerRecv | writerWrite (n : Nat) | writerFail | writerGrant | writerRemove | writerClose
  | writerEnd | writerCancel
  | relayGate | relayWake | relayStall | relayRead (n : Nat) | relayEof | relayError | relayPush
  | relayRemove | relayClose | relayCancel
  | targetRead (n : Nat) | targetWrite (bytes : Bytes) | targetClose
  deriving DecidableEq, Repr

inductive ServerOutput where
  | data (payload : Bytes)
  | control (message : ControlMessage)
  deriving DecidableEq, Repr

namespace ServerFlow

def fresh : ServerFlow where
  entry := .absent
  credits := .new
  queue := []
  writer := .absent
  writerAborted := false
  relay := .absent
  relayAborted := false
  pending := []
  targetIn := []
  targetOut := []
  targetClosed := false
  received := []
  enqueued := []
  written := []
  targetRead := []
  targetSent := []
  forwarded := []

/-- `remove_flow`: take the entry out and abort both tasks. -/
def removeFlow (flow : ServerFlow) : ServerFlow :=
  if flow.entry = .inserted then
    { flow with entry := .removed, writerAborted := true, relayAborted := true }
  else flow

/-- `write_all` of what is left of a message of `size` bytes. -/
def writeAll (size : Nat) (left : Bytes) : WriterPhase :=
  if left = [] then .granting size else .writing size left

/-- `read` with the buffer cut to the credits at hand. -/
def readPhase (flow : ServerFlow) : ServerRelayPhase :=
  .reading (min flow.credits.available readBufferSize)

def step (cfg : Config) (f : FlowId) (flow : ServerFlow) :
    ServerAction → Option (ServerFlow × Option ServerOutput)
  | .writerRecv =>
    match flow.writer, flow.queue with
    | .recv, data :: rest =>
      some ({ flow with writer := writeAll data.length data, queue := rest }, none)
    | _, _ => none
  | .writerWrite n =>
    match flow.writer with
    | .writing size left =>
      if 0 < n ∧ n ≤ left.length ∧ flow.targetIn.length + n ≤ cfg.targetIn then
        some ({ flow with writer := writeAll size (left.drop n), written := flow.written ++ left.take n,
                          targetIn := flow.targetIn ++ left.take n }, none)
      else none
    | _ => none
  | .writerFail =>
    match flow.writer with
    | .writing _ _ => some ({ flow with writer := .failed }, none)
    | _ => none
  | .writerGrant =>
    match flow.writer with
    | .granting size =>
      some ({ flow with writer := .recv }, some (.control (.windowUpdate f size)))
    | _ => none
  | .writerRemove =>
    if flow.writer = .failed then
      if flow.entry = .inserted then
        some ({ flow with writer := .closing, entry := .removed, relayAborted := true }, none)
      else some ({ flow with writer := .done }, none)
    else none
  | .writerClose =>
    if flow.writer = .closing then
      some ({ flow with writer := .done }, some (.control (.closeFlow f)))
    else none
  | .writerEnd =>
    -- the queue's sender is dropped with the map entry
    if flow.writer = .recv ∧ flow.queue = [] ∧ flow.entry = .removed then
      some ({ flow with writer := .done }, none)
    else none
  | .writerCancel =>
    if flow.writerAborted = true ∧ flow.writer ≠ .absent ∧ flow.writer ≠ .done then
      some ({ flow with writer := .done }, none)
    else none
  | .relayGate =>
    if flow.relay = .gate then
      if flow.credits.available = 0 then some ({ flow with relay := .waiting }, none)
      else some ({ flow with relay := flow.readPhase }, none)
    else none
  | .relayWake =>
    if flow.relay = .waiting ∧ 0 < flow.credits.available then
      some ({ flow with relay := flow.readPhase }, none)
    else none
  | .relayStall =>
    if flow.relay = .waiting ∧ flow.credits.available = 0 then
      some ({ flow with relay := .removing }, none)
    else none
  | .relayRead n =>
    match flow.relay with
    | .reading cap =>
      if 0 < n ∧ n ≤ cap ∧ n ≤ flow.targetOut.length then
        some ({ flow with relay := .sending (flow.targetOut.take n), targetOut := flow.targetOut.drop n,
                          credits := flow.credits.tryConsume n }, none)
      else none
    | _ => none
  | .relayEof =>
    match flow.relay with
    | .reading _ =>
      if flow.targetOut = [] ∧ flow.targetClosed = true then
        some ({ flow with relay := .removing }, none)
      else none
    | _ => none
  | .relayError =>
    match flow.relay with
    | .reading _ => some ({ flow with relay := .removing }, none)
    | _ => none
  | .relayPush =>
    match flow.relay with
    | .sending data =>
      some ({ flow with relay := .gate, forwarded := flow.forwarded ++ data }, some (.data data))
    | _ => none
  | .relayRemove =>
    if flow.relay = .removing then
      if flow.entry = .inserted then
        some ({ flow with relay := .closing, entry := .removed, writerAborted := true }, none)
      else some ({ flow with relay := .closing }, none)
    else none
  | .relayClose =>
    if flow.relay = .closing then
      some ({ flow with relay := .done }, some (.control (.closeFlow f)))
    else none
  | .relayCancel =>
    if flow.relayAborted = true ∧ flow.relay ≠ .absent ∧ flow.relay ≠ .done then
      some ({ flow with relay := .done }, none)
    else none
  | .targetRead n =>
    if n ≤ flow.targetIn.length then
      some ({ flow with targetIn := flow.targetIn.drop n,
                        targetRead := flow.targetRead ++ flow.targetIn.take n }, none)
    else none
  | .targetWrite bytes =>
    if flow.writer ≠ .absent ∧ flow.targetClosed = false ∧
        flow.targetOut.length + bytes.length ≤ cfg.targetOut then
      some ({ flow with targetOut := flow.targetOut ++ bytes,
                        targetSent := flow.targetSent ++ bytes }, none)
    else none
  | .targetClose =>
    if flow.writer ≠ .absent then some ({ flow with targetClosed := true }, none) else none

/-- `handle_flow_data`; the flag says that the queue was full, so that the flow is gone
and the receive loop goes on to send `CloseFlow`. -/
def handleFlowData (flow : ServerFlow) (data : Bytes) : ServerFlow × Bool :=
  if flow.entry = .inserted then
    if flow.writer = .done then (flow, false)
    else if flow.queue.length < flowUplinkQueueCap then
      ({ flow with queue := flow.queue ++ [data], enqueued := flow.enqueued ++ data }, false)
    else (flow.removeFlow, true)
  else (flow, false)

/-- `dispatch_decrypted_frame` for a data frame: in TUN mode the payload of an unknown
flow goes to the TUN device, otherwise it is buffered. -/
def dispatchData (tunEnabled : Bool) (flow : ServerFlow) (data : Bytes) : ServerFlow × Bool :=
  let flow := { flow with received := flow.received ++ data }
  if flow.entry = .inserted then flow.handleFlowData data
  else if tunEnabled then (flow, false)
  else ({ flow with pending := flow.pending ++ [data] }, false)

/-- `WindowUpdate` for a flow in the map. -/
def grantCredits (flow : ServerFlow) (n : Nat) : ServerFlow :=
  if flow.entry = .inserted then { flow with credits := flow.credits.grant n } else flow

theorem grantCredits_eq (flow : ServerFlow) (n : Nat) :
    ∃ credits, flow.grantCredits n = { flow with credits } := by
  unfold grantCredits
  split
  · exact ⟨_, rfl⟩
  · exact ⟨flow.credits, rfl⟩

/-- The connection stands: a new queue, new credits and both tasks spawned. The entry
is inserted in a later step, so the tasks may run before it. -/
def spawn (flow : ServerFlow) : ServerFlow :=
  { flow with entry := .absent, credits := .new, queue := [], writer := .recv, relay := .gate,
              writerAborted := false, relayAborted := false, targetIn := [], targetOut := [],
              targetClosed := false }

def insert (flow : ServerFlow) : ServerFlow := { flow with entry := .inserted }

/-- The outcomes of `dispatchData`: the writer is gone, the queue takes the payload or is full, the flow is unknown
and the payload goes to the TUN device, or is buffered. -/
inductive Dispatched (tunEnabled : Bool) (flow : ServerFlow) (data : Bytes) : ServerFlow → Bool → Prop where
  | refused (inserted : flow.entry = .inserted) (done : flow.writer = .done) :
      Dispatched tunEnabled flow data { flow with received := flow.received ++ data } false
  | queued (inserted : flow.entry = .inserted) (working : flow.writer ≠ .done)
      (room : flow.queue.length < flowUplinkQueueCap) :
      Dispatched tunEnabled flow data
        { flow with received := flow.received ++ data, queue := flow.queue ++ [data],
                    enqueued := flow.enqueued ++ data } false
  | overflown (inserted : flow.entry = .inserted) (working : flow.writer ≠ .done)
      (full : flowUplinkQueueCap ≤ flow.queue.length) :
      Dispatched tunEnabled flow data
        { flow with received := flow.received ++ data, entry := .removed, writerAborted := true,
                    relayAborted := true } true
  | tunneled (out : flow.entry ≠ .inserted) (tun : tunEnabled = true) :
      Dispatched tunEnabled flow data { flow with received := flow.received ++ data } false
  | buffered (out : flow.entry ≠ .inserted) (plain : tunEnabled = false) :
      Dispatched tunEnabled flow data
        { flow with received := flow.received ++ data, pending := flow.pending ++ [data] } false

theorem dispatched (tunEnabled : Bool) (flow : ServerFlow) (data : Bytes) :
    Dispatched tunEnabled flow data (flow.dispatchData tunEnabled data).1
      (flow.dispatchData tunEnabled data).2 := by
  by_cases inserted : flow.entry = .inserted
  · by_cases done : flow.writer = .done
    · simpa [dispatchData, handleFlowData, inserted, done] using Dispatched.refused inserted done
    · by_cases room : flow.queue.length < flowUplinkQueueCap
      · simpa [dispatchData, handleFlowData, inserted, done, room] using Dispatched.queued inserted done room
      · have full : Dispatched tunEnabled flow data _ _ :=
          .overflown inserted done (Nat.le_of_not_lt room)
        simpa [dispatchData, handleFlowData, inserted, done, room, removeFlow] using full
  · cases tunEnabled with
    | true => simpa [dispatchData, inserted] using Dispatched.tunneled inserted rfl
    | false => simpa [dispatchData, inserted] using Dispatched.buffered inserted rfl

/-- The outcomes of `step`, one constructor for each. -/
inductive Moves (cfg : Config) (f : FlowId) (flow : ServerFlow) :
    ServerAction → ServerFlow → Option ServerOutput → Prop where
  | writerRecv (data : Bytes) (rest : List Bytes) (idle : flow.writer = .recv)
      (waiting : flow.queue = data :: rest) :
      Moves cfg f flow .writerRecv
        { flow with writer := writeAll data.length data, queue := rest } none
  | writerWrite (n size : Nat) (left : Bytes) (writing : flow.writer = .writing size left) :
      Moves cfg f flow (.writerWrite n)
        { flow with writer := writeAll size (left.drop n), written := flow.written ++ left.take n,
                    targetIn := flow.targetIn ++ left.take n } none
  | writerFail (writing : ∃ size left, flow.writer = .writing size left) :
      Moves cfg f flow .writerFail { flow with writer := .failed } none
  | writerGrant (size : Nat) (granting : flow.writer = .granting size) :
      Moves cfg f flow .writerGrant { flow with writer := .recv }
        (some (.control (.windowUpdate f size)))
  | writerRemove (failed : flow.writer = .failed) (present : flow.entry = .inserted) :
      Moves cfg f flow .writerRemove
        { flow with writer := .closing, entry := .removed, relayAborted := true } none
  | writerQuit (failed : flow.writer = .failed) :
      Moves cfg f flow .writerRemove { flow with writer := .done } none
  | writerClose (closing : flow.writer = .closing) :
      Moves cfg f flow .writerClose { flow with writer := .done } (some (.control (.closeFlow f)))
  | writerEnd (idle : flow.writer = .recv) (drained : flow.queue = []) (removed : flow.entry = .removed) :
      Moves cfg f flow .writerEnd { flow with writer := .done } none
  | writerCancel (aborted : flow.writerAborted = true) (spawned : flow.writer ≠ .absent) :
      Moves cfg f flow .writerCancel { flow with writer := .done } none
  | relayPark (gate : flow.relay = .gate) (exhausted : flow.credits.available = 0) :
      Moves cfg f flow .relayGate { flow with relay := .waiting } none
  | relayGate (gate : flow.relay = .gate) :
      Moves cfg f flow .relayGate { flow with relay := flow.readPhase } none
  | relayWake (waiting : flow.relay = .waiting) :
      Moves cfg f flow .relayWake { flow with relay := flow.readPhase } none
  | relayStall (waiting : flow.relay = .waiting) :
      Moves cfg f flow .relayStall { flow with relay := .removing } none
  | relayRead (n : Nat) (reading : ∃ cap, flow.relay = .reading cap ∧ n ≤ cap) (positive : 0 < n)
      (some : n ≤ flow.targetOut.length) :
      Moves cfg f flow (.relayRead n)
        { flow with relay := .sending (flow.targetOut.take n), targetOut := flow.targetOut.drop n,
                    credits := flow.credits.tryConsume n } none
  | relayEof (reading : ∃ cap, flow.relay = .reading cap) (drained : flow.targetOut = [])
      (closed : flow.targetClosed = true) :
      Moves cfg f flow .relayEof { flow with relay := .removing } none
  | relayError (reading : ∃ cap, flow.relay = .reading cap) :
      Moves cfg f flow .relayError { flow with relay := .removing } none
  | relayPush (data : Bytes) (sending : flow.relay = .sending data) :
      Moves cfg f flow .relayPush
        { flow with relay := .gate, forwarded := flow.forwarded ++ data } (some (.data data))
  | relayRemove (removing : flow.relay = .removing) (present : flow.entry = .inserted) :
      Moves cfg f flow .relayRemove
        { flow with relay := .closing, entry := .removed, writerAborted := true } none
  | relayAlone (removing : flow.relay = .removing) :
      Moves cfg f flow .relayRemove { flow with relay := .closing } none
  | relayClose (closing : flow.relay = .closing) :
      Moves cfg f flow .relayClose { flow with relay := .done } (some (.control (.closeFlow f)))
  | relayCancel (aborted : flow.relayAborted = true) (spawned : flow.relay ≠ .absent) :
      Moves cfg f flow .relayCancel { flow with relay := .done } none
  | targetRead (n : Nat) :
      Moves cfg f flow (.targetRead n)
        { flow with targetIn := flow.targetIn.drop n,
                    targetRead := flow.targetRead ++ flow.targetIn.take n } none
  | targetWrite (bytes : Bytes) (connected : flow.writer ≠ .absent) (unclosed : flow.targetClosed = false) :
      Moves cfg f flow (.targetWrite bytes)
        { flow with targetOut := flow.targetOut ++ bytes,
                    targetSent := flow.targetSent ++ bytes } none
  | targetClose (connected : flow.writer ≠ .absent) :
      Moves cfg f flow .targetClose { flow with targetClosed := true } none

theorem moves_of_step (taken : flow.step cfg f action = some (next, output)) :
    Moves cfg f flow action next output := by
  cases action
  all_goals simp only [step] at taken
  all_goals (repeat' split at taken)
  all_goals simp only [Option.some.injEq, Prod.mk.injEq, reduceCtorEq] at taken
  all_goals obtain ⟨rfl, rfl⟩ := taken
  all_goals constructor <;> grind

theorem Moves.flow_output (moves : Moves cfg f flow action next (some (.control message))) :
    message.flow = some f := by
  cases moves <;> rfl

end ServerFlow

end Rvpn.Mux
