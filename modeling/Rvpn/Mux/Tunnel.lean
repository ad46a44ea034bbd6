import Mathlib.Logic.Function.Basic
import Rvpn.Lib.Transition
import Rvpn.Mux.ServerFlow

/-! The whole tunnel. An action schedules one task. -/

namespace Rvpn.Mux

/-- The server's receive loop, which finishes one frame before it takes the next:
inside `connect_with_dns_cache`, past the spawns, past the insertion, flushing
`pending_flows` frames, awaiting room for the `CloseFlow` of an overflown flow (with the
frames still to flush), awaiting room for any other reply. -/
inductive ReceiverPhase where
  | idle | connecting (f : FlowId) | spawned (f : FlowId) | created (f : FlowId)
  | flushing (f : FlowId) (frames : List Bytes) | overflown (f : FlowId) (frames : List Bytes)
  | replying (message : ControlMessage)
  deriving DecidableEq, Repr

def ReceiverPhase.flow : ReceiverPhase → Option FlowId
  | .idle => none
  | .connecting f | .spawned f | .created f | .flushing f _ | .overflown f _ => some f
  | .replying message => message.flow

def flushNext (f : FlowId) (frames : List Bytes) : ReceiverPhase :=
  if frames = [] then .idle else .flushing f frames

/-- After `handle_flow_data`: first the `CloseFlow` of an overflown flow. -/
def afterData (f : FlowId) (frames : List Bytes) (overflown : Bool) : ReceiverPhase :=
  if overflown then .overflown f frames else flushNext f frames

/-- `polled` says that `run_ws_sender` has found `control_rx` empty in its current
poll; `clientRx` names the flow whose `CloseFlow` the client's receive loop is about to
send; `flowCount` is the size of the server's flow map. -/
structure State where
  nextFlowId : FlowId
  client : FlowId → ClientFlow
  server : FlowId → ServerFlow
  upWire : List Frame
  downWire : List Frame
  tx : List (FlowId × Bytes)
  control : List ControlMessage
  flowCount : Nat
  rx : ReceiverPhase
  polled : Bool
  clientRx : Option FlowId
  upOpen : Bool
  ended : Bool

def State.start : State where
  nextFlowId := 1
  client := fun _ => .fresh
  server := fun _ => .fresh
  upWire := []
  downWire := []
  tx := []
  control := []
  flowCount := 0
  rx := .idle
  polled := false
  clientRx := none
  upOpen := true
  ended := false

inductive ReceiverAction where
  | receive | connected | connectFailed | insertFlow | reply | flush
  deriving DecidableEq, Repr

inductive SenderAction where
  | pollControl | pollData
  deriving DecidableEq, Repr

inductive Action where
  | openFlow
  | client (f : FlowId) (action : ClientAction)
  | ping (timestamp : UInt64)
  | clientReceive | clientClose | shutdown | upFail
  | server (f : FlowId) (action : ServerAction)
  | receiver (action : ReceiverAction)
  | sender (action : SenderAction)
  | sessionEnd
  deriving DecidableEq, Repr

namespace State

/-- `send_encrypted`: lost once the WebSocket writer is gone. -/
def sendUp (state : State) (frame : Frame) : State :=
  if state.upOpen then { state with upWire := state.upWire ++ [frame] } else state

def setClient (state : State) (f : FlowId) (flow : ClientFlow) : State :=
  { state with client := Function.update state.client f flow }

def present (flow : ServerFlow) : Nat := if flow.entry = .inserted then 1 else 0

def setServer (state : State) (f : FlowId) (flow : ServerFlow) : State :=
  { state with server := Function.update state.server f flow
               flowCount := state.flowCount + present flow - present (state.server f) }

def setRx (state : State) (rx : ReceiverPhase) : State := { state with rx }

def setClientRx (state : State) (clientRx : Option FlowId) : State := { state with clientRx }

def pushControl (state : State) (message : ControlMessage) : State :=
  { state with control := state.control ++ [message] }

def pushData (state : State) (f : FlowId) (payload : Bytes) : State :=
  { state with tx := state.tx ++ [(f, payload)] }

/-- A client task runs. Errors of `send_encrypted` matter to `open_flow`, which gives
up, and to the sending loop, which returns; elsewhere they are ignored. -/
def clientStep (cfg : Config) (state : State) (f : FlowId) (action : ClientAction) : Option State :=
  match (state.client f).step cfg f action with
  | none => none
  | some (flow, output) =>
    match action with
    | .loopFail => if state.upOpen = false then some (state.setClient f flow) else none
    | _ =>
      match output with
      | none => some (state.setClient f flow)
      | some frame =>
        if (frame.isData ∨ frame.isCreate) ∧ state.upOpen = false then none
        else some ((state.setClient f flow).sendUp frame)

def serverStep (cfg : Config) (state : State) (f : FlowId) (action : ServerAction) : Option State :=
  match (state.server f).step cfg f action with
  | none => none
  | some (flow, none) => some (state.setServer f flow)
  | some (flow, some (.data payload)) =>
    if state.tx.length < dataChannelCap then
      some ((state.setServer f flow).pushData f payload)
    else none
  | some (flow, some (.control message)) =>
    if state.control.length < controlChannelCap then
      some ((state.setServer f flow).pushControl message)
    else none

/-- The error text of a `CreateFlow` refused at the flow limit. -/
def tooManyFlows (count : Nat) : String :=
  s!"Too many flows: {count} (limit {maxFlowsPerSession})"

/-- `handle_control` on the next frame, up to its first suspension point. -/
def handleControl (state : State) : ControlMessage → State
  | .createFlow f _ _ =>
    if maxFlowsPerSession ≤ state.flowCount then
      state.setRx (.replying (.flowFailed f (tooManyFlows state.flowCount)))
    else state.setRx (.connecting f)
  | .closeFlow f => state.setServer f (state.server f).removeFlow
  | .windowUpdate f n => state.setServer f ((state.server f).grantCredits n)
  | .ping timestamp => state.setRx (.replying (.pong timestamp))
  | .flowCreated _ _ | .flowFailed _ _ | .pong _ => state

/-- `dispatch_decrypted_frame`. -/
def dispatchFrame (cfg : Config) (state : State) : Frame → State
  | .control message => state.handleControl message
  | .data f payload =>
    let result := (state.server f).dispatchData cfg.tunEnabled payload
    (state.setServer f result.1).setRx (afterData f [] result.2)

def replied (state : State) : Option State :=
  match state.rx with
  | .created f =>
    let flow := state.server f
    some (((state.setServer f { flow with pending := [] }).pushControl (.flowCreated f none)).setRx
      (flushNext f (flow.pending.take maxFlushFrames)))
  | .overflown f frames => some ((state.pushControl (.closeFlow f)).setRx (flushNext f frames))
  | .replying message => some ((state.pushControl message).setRx .idle)
  | _ => none

/-- One buffered frame goes through `handle_flow_data`. -/
def flushed (state : State) : Option State :=
  match state.rx with
  | .flushing f (data :: frames) =>
    let result := (state.server f).handleFlowData data
    some ((state.setServer f result.1).setRx (afterData f frames result.2))
  | _ => none

def clientReceived (state : State) (frame : Frame) : State :=
  match frame.flow with
  | none => state
  | some f =>
    let result := (state.client f).receive frame
    (state.setClient f result.1).setClientRx (if result.2 then some f else none)

def receiverStep (cfg : Config) (state : State) : ReceiverAction → Option State
  | .receive =>
    match state.rx, state.upWire with
    | .idle, frame :: rest => some (dispatchFrame cfg { state with upWire := rest } frame)
    | _, _ => none
  | .connected =>
    match state.rx with
    | .connecting f => some ((state.setServer f (state.server f).spawn).setRx (.spawned f))
    | _ => none
  | .connectFailed =>
    match state.rx with
    -- the handler returns an error that its caller only logs
    | .connecting _ => some (state.setRx .idle)
    | _ => none
  | .insertFlow =>
    match state.rx with
    | .spawned f => some ((state.setServer f (state.server f).insert).setRx (.created f))
    | _ => none
  | .reply => if state.control.length < controlChannelCap then state.replied else none
  | .flush => state.flushed

/-- A poll of `run_ws_sender`: its biased `select!` looks at the control channel first. -/
def senderStep (state : State) : SenderAction → Option State
  | .pollControl =>
    if state.polled then none
    else match state.control with
      | message :: rest =>
        some { state with control := rest, downWire := state.downWire ++ [.control message] }
      | [] => some { state with polled := true }
  | .pollData =>
    if state.polled = false then none
    else match state.tx with
      | (f, payload) :: rest =>
        some { state with tx := rest, downWire := state.downWire ++ [.data f payload], polled := false }
      | [] => some { state with polled := false }

end State

open State in
def step (cfg : Config) (state : State) : Action → Option State
  | .openFlow =>
    let f := state.nextFlowId
    some { state.setClient f { state.client f with phase := .allocated } with nextFlowId := f + 1 }
  | .client f action => clientStep cfg state f action
  | .ping timestamp => some (state.sendUp (.control (.ping timestamp)))
  | .clientReceive =>
    match state.clientRx, state.downWire with
    | none, frame :: rest => some (clientReceived { state with downWire := rest } frame)
    | _, _ => none
  | .clientClose =>
    match state.clientRx with
    | some f => some ((state.sendUp (.control (.closeFlow f))).setClientRx none)
    | none => none
  | .shutdown => some { state with client := fun f => (state.client f).removeFlowState }
  | .upFail => some { state with upOpen := false }
  | .server f action => serverStep cfg state f action
  | .sessionEnd =>
    some { state with server := fun f => (state.server f).removeFlow, flowCount := 0, ended := true }
  | .receiver action => if state.ended then none else receiverStep cfg state action
  | .sender action => if state.ended then none else senderStep state action

/-! Schedules that the sample runs below are made of. -/

def roomy : Config where
  appOut := 65536
  appIn := 65536
  targetIn := 65536
  targetOut := 65536
  tunEnabled := false

/-- `open_flow`, and the server's receive loop on its `CreateFlow`. -/
def openFlow (f : FlowId) : List Action :=
  [.openFlow, .client f (.create "example" 80), .client f .register, .receiver .receive,
    .receiver .connected, .receiver .insertFlow, .receiver .reply]

/-- The client's relay reads `n` bytes and the sending loop puts them on the wire. -/
def sendChunk (f : FlowId) (n : Nat) : List Action :=
  [.client f (.relayRead n), .client f .relaySend, .client f .loopRecv, .client f .loopConsume,
    .client f .loopSend]

/-- The server's relay reads `n` bytes and `run_ws_sender` puts them on the wire, after
what waits on the control channel. -/
def forwardChunk (f : FlowId) (n : Nat) : List Action :=
  [.server f .relayGate, .server f (.relayRead n), .server f .relayPush, .sender .pollControl,
    .sender .pollData]

def echoByte (f : FlowId) : List Action :=
  ([.client f (.appWrite [7])] : List Action) ++ sendChunk f 1 ++
  ([.receiver .receive, .server f .writerRecv, .server f (.writerWrite 1), .server f .writerGrant,
    .server f (.targetRead 1), .server f (.targetWrite [7]), .sender .pollControl,
    .sender .pollControl] : List Action) ++
  forwardChunk f 1 ++
  ([.clientReceive, .clientReceive, .clientReceive, .client f .relayRecv, .client f (.relayWrite 1),
    .client f .relayGrant, .receiver .receive] : List Action)

end Rvpn.Mux
