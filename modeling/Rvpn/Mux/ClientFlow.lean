import Rvpn.Mux.Protocol

/-! One flow at the client. Each constructor of a phase is a point where the task can be suspended; an action runs
one task to its next such point and may put one frame on the tunnel. -/

namespace Rvpn.Mux

/-- Byte capacities of the kernel socket buffers, and whether the server runs in TUN mode. -/
structure Config where
  appOut : Nat
  appIn : Nat
  targetIn : Nat
  targetOut : Nat
  tunEnabled : Bool

/-- How far `open_flow` has come: an id drawn, `CreateFlow` on the wire, and the
flow registered in `flow_states` with its tasks running. -/
inductive OpenPhase where
  | unopened | allocated | created | running
  deriving DecidableEq, Repr

/-- `flow_to_ws_loop`: waiting on `data_rx`, holding a chunk, parked at zero
credits, awaiting `send_encrypted` with the unsent tail aside, inside `close_flow`
after a stall, returned. -/
inductive LoopPhase where
  | absent | idle | holding (data : Bytes) | parked (data : Bytes)
  | sending (frame rest : Bytes) | stalled | exited
  deriving DecidableEq, Repr

/-- `handle_multiplexed_connection`: in its `select!`, awaiting `send_tx.send`,
`write_all` or `send_window_update`, returned. -/
inductive RelayPhase where
  | absent | idle | sending (chunk : Bytes) | writing (size : Nat) (left : Bytes)
  | granting (size : Nat) | done
  deriving DecidableEq, Repr

/-- The state of one flow. `registered` is its `flow_states` entry, which owns the
`ws_to_local` sender. The fields after `appIn` are histories: what the application
wrote, the chunks put on `local_to_ws`, the bytes put on the wire, the credits added
by window updates, and what was put on `ws_to_local`. -/
structure ClientFlow where
  phase : OpenPhase
  registered : Bool
  credits : FlowSendCredits
  localToWs : List Bytes
  loop : LoopPhase
  wsToLocal : List Bytes
  relay : RelayPhase
  closing : Bool
  appOut : Bytes
  appClosed : Bool
  appIn : Bytes
  appWritten : Bytes
  put : Bytes
  sent : Bytes
  granted : Nat
  delivered : Bytes
  deriving DecidableEq, Repr

inductive ClientAction where
  | create (target : String) (port : UInt16) | register
  | appWrite (bytes : Bytes) | appClose | appRead (n : Nat)
  | relayRead (n : Nat) | relayEof | relayFail | relaySend | relayRecv | relayClosed
  | relayWrite (n : Nat) | relayGrant
  | loopRecv | loopConsume | loopWake | loopStall | loopClose | loopSend | loopFail | loopEnd
  | dropClose
  deriving DecidableEq, Repr

namespace ClientFlow

def fresh : ClientFlow where
  phase := .unopened
  registered := false
  credits := .new
  localToWs := []
  loop := .absent
  wsToLocal := []
  relay := .absent
  closing := false
  appOut := []
  appClosed := false
  appIn := []
  appWritten := []
  put := []
  sent := []
  granted := 0
  delivered := []

/-- `remove_flow_state`: close the credit gate and drop the `ws_to_local` sender. -/
def removeFlowState (flow : ClientFlow) : ClientFlow :=
  if flow.registered then { flow with registered := false, credits := flow.credits.close } else flow

/-- The relay returns: both channel ends are dropped, and the handle's `Drop` leaves
a task behind that sends `CloseFlow`. -/
def finishRelay (flow : ClientFlow) : ClientFlow :=
  { flow with relay := .done, closing := true }

/-- `write_all` of what is left of a message of `size` bytes. -/
def writeAll (size : Nat) (left : Bytes) : RelayPhase :=
  if left = [] then .granting size else .writing size left

def resume (rest : Bytes) : LoopPhase :=
  if rest = [] then .idle else .holding rest

def step (cfg : Config) (f : FlowId) (flow : ClientFlow) :
    ClientAction → Option (ClientFlow × Option Frame)
  | .create target port =>
    if flow.phase = .allocated then
      some ({ flow with phase := .created }, some (.control (.createFlow f target port)))
    else none
  | .register =>
    if flow.phase = .created then
      some ({ flow with phase := .running, registered := true, credits := .new, loop := .idle,
                        relay := .idle }, none)
    else none
  | .appWrite bytes =>
    if flow.appClosed = false ∧ flow.appOut.length + bytes.length ≤ cfg.appOut then
      some ({ flow with appOut := flow.appOut ++ bytes, appWritten := flow.appWritten ++ bytes }, none)
    else none
  | .appClose => some ({ flow with appClosed := true }, none)
  | .appRead n => some ({ flow with appIn := flow.appIn.drop n }, none)
  | .relayRead n =>
    if flow.relay = .idle ∧ 0 < n ∧ n ≤ readBufferSize ∧ n ≤ flow.appOut.length then
      some ({ flow with relay := .sending (flow.appOut.take n), appOut := flow.appOut.drop n }, none)
    else none
  | .relayEof =>
    if flow.relay = .idle ∧ flow.appOut = [] ∧ flow.appClosed = true then
      some (flow.finishRelay, none)
    else none
  | .relayFail =>
    match flow.relay with
    | .idle | .writing _ _ => some (flow.finishRelay, none)
    | _ => none
  | .relaySend =>
    match flow.relay with
    | .sending chunk =>
      -- the receiver lives as long as the loop does
      if flow.loop = .exited then some (flow.finishRelay, none)
      else if flow.localToWs.length < flowChannelCap then
        some ({ flow with relay := .idle, localToWs := flow.localToWs ++ [chunk],
                          put := flow.put ++ chunk }, none)
      else none
    | _ => none
  | .relayRecv =>
    match flow.relay, flow.wsToLocal with
    | .idle, data :: rest =>
      some ({ flow with relay := writeAll data.length data, wsToLocal := rest }, none)
    | _, _ => none
  | .relayClosed =>
    if flow.relay = .idle ∧ flow.wsToLocal = [] ∧ flow.registered = false then
      some (flow.finishRelay, none)
    else none
  | .relayWrite n =>
    match flow.relay with
    | .writing size left =>
      if 0 < n ∧ n ≤ left.length ∧ flow.appIn.length + n ≤ cfg.appIn then
        some ({ flow with relay := writeAll size (left.drop n),
                          appIn := flow.appIn ++ left.take n }, none)
      else none
    | _ => none
  | .relayGrant =>
    match flow.relay with
    | .granting size =>
      some ({ flow with relay := .idle }, some (.control (.windowUpdate f size)))
    | _ => none
  | .loopRecv =>
    match flow.loop, flow.localToWs with
    | .idle, data :: rest => some ({ flow with loop := resume data, localToWs := rest }, none)
    | _, _ => none
  | .loopConsume =>
    match flow.loop with
    | .holding data =>
      let n := flow.credits.consumable data.length
      if n = 0 then some ({ flow with loop := .parked data }, none)
      else some ({ flow with credits := flow.credits.tryConsume data.length,
                             loop := .sending (data.take n) (data.drop n) }, none)
    | _ => none
  | .loopWake =>
    match flow.loop with
    | .parked data =>
      if 0 < flow.credits.available then some ({ flow with loop := .holding data }, none)
      else if flow.credits.closed then some ({ flow with loop := .exited }, none)
      else none
    | _ => none
  | .loopStall =>
    match flow.loop with
    | .parked _ =>
      if flow.credits.available = 0 ∧ flow.credits.closed = false then
        some ({ flow.removeFlowState with loop := .stalled }, none)
      else none
    | _ => none
  | .loopClose =>
    if flow.loop = .stalled then
      some ({ flow with loop := .exited }, some (.control (.closeFlow f)))
    else none
  | .loopSend =>
    match flow.loop with
    | .sending frame rest =>
      some ({ flow with loop := resume rest, sent := flow.sent ++ frame }, some (.data f frame))
    | _ => none
  | .loopFail =>
    match flow.loop with
    | .sending _ _ => some ({ flow with loop := .exited }, none)
    | _ => none
  | .loopEnd =>
    if flow.loop = .idle ∧ flow.localToWs = [] ∧ flow.relay = .done then
      some ({ flow with loop := .exited }, none)
    else none
  | .dropClose =>
    if flow.closing then
      some ({ flow with closing := false }, some (.control (.closeFlow f)))
    else none

/-- `dispatch_data_frame`; the flag says that the relay has dropped its receiver, so
that the receive loop goes on to send `CloseFlow`. -/
def dispatchDataFrame (flow : ClientFlow) (payload : Bytes) : ClientFlow × Bool :=
  if flow.registered = false then (flow, false)
  else if flow.relay = .done then (flow.removeFlowState, true)
  else if flow.wsToLocal.length < flowChannelCap then
    ({ flow with wsToLocal := flow.wsToLocal ++ [payload],
                 delivered := flow.delivered ++ payload }, false)
  else (flow, false)

/-- `WindowUpdate` for a registered flow; `granted` counts what the counter gained. -/
def grantCredits (flow : ClientFlow) (n : Nat) : ClientFlow :=
  if flow.registered then
    { flow with credits := flow.credits.grant n,
                granted := flow.granted + ((flow.credits.grant n).available - flow.credits.available) }
  else flow

/-- `handle_control_message`. -/
def handleControlMessage (flow : ClientFlow) : ControlMessage → ClientFlow
  | .flowFailed _ _ | .closeFlow _ => flow.removeFlowState
  | .windowUpdate _ n => flow.grantCredits n
  | .flowCreated _ _ | .createFlow _ _ _ | .ping _ | .pong _ => flow

def receive (flow : ClientFlow) : Frame → ClientFlow × Bool
  | .control message => (flow.handleControlMessage message, false)
  | .data _ payload => flow.dispatchDataFrame payload

/-- The outcomes of `step`, one constructor for each. -/
inductive Moves (cfg : Config) (f : FlowId) (flow : ClientFlow) :
    ClientAction → ClientFlow → Option Frame → Prop where
  | create (target : String) (port : UInt16) (allocated : flow.phase = .allocated) :
      Moves cfg f flow (.create target port) { flow with phase := .created }
        (some (.control (.createFlow f target port)))
  | register (created : flow.phase = .created) :
      Moves cfg f flow .register
        { flow with phase := .running, registered := true, credits := .new, loop := .idle,
                    relay := .idle } none
  | appWrite (bytes : Bytes) (unclosed : flow.appClosed = false) :
      Moves cfg f flow (.appWrite bytes)
        { flow with appOut := flow.appOut ++ bytes, appWritten := flow.appWritten ++ bytes } none
  | appClose : Moves cfg f flow .appClose { flow with appClosed := true } none
  | appRead (n : Nat) : Moves cfg f flow (.appRead n) { flow with appIn := flow.appIn.drop n } none
  | relayRead (n : Nat) (idle : flow.relay = .idle) (positive : 0 < n) (some : n ≤ flow.appOut.length) :
      Moves cfg f flow (.relayRead n)
        { flow with relay := .sending (flow.appOut.take n), appOut := flow.appOut.drop n } none
  | relayEof (idle : flow.relay = .idle) (drained : flow.appOut = []) (closed : flow.appClosed = true) :
      Moves cfg f flow .relayEof flow.finishRelay none
  | relayFail (busy : flow.relay = .idle ∨ ∃ size left, flow.relay = .writing size left) :
      Moves cfg f flow .relayFail flow.finishRelay none
  | relaySend (chunk : Bytes) (sending : flow.relay = .sending chunk) (alive : flow.loop ≠ .exited)
      (room : flow.localToWs.length < flowChannelCap) :
      Moves cfg f flow .relaySend
        { flow with relay := .idle, localToWs := flow.localToWs ++ [chunk],
                    put := flow.put ++ chunk } none
  | relaySendClosed (sending : ∃ chunk, flow.relay = .sending chunk)
      (exited : flow.loop = .exited) : Moves cfg f flow .relaySend flow.finishRelay none
  | relayRecv (data : Bytes) (rest : List Bytes) (idle : flow.relay = .idle)
      (waiting : flow.wsToLocal = data :: rest) :
      Moves cfg f flow .relayRecv
        { flow with relay := writeAll data.length data, wsToLocal := rest } none
  | relayClosed (idle : flow.relay = .idle) (drained : flow.wsToLocal = [])
      (removed : flow.registered = false) : Moves cfg f flow .relayClosed flow.finishRelay none
  | relayWrite (n size : Nat) (left : Bytes) (writing : flow.relay = .writing size left) :
      Moves cfg f flow (.relayWrite n)
        { flow with relay := writeAll size (left.drop n), appIn := flow.appIn ++ left.take n } none
  | relayGrant (size : Nat) (granting : flow.relay = .granting size) :
      Moves cfg f flow .relayGrant { flow with relay := .idle }
        (some (.control (.windowUpdate f size)))
  | loopRecv (data : Bytes) (rest : List Bytes) (idle : flow.loop = .idle)
      (waiting : flow.localToWs = data :: rest) :
      Moves cfg f flow .loopRecv { flow with loop := resume data, localToWs := rest } none
  | loopPark (data : Bytes) (holding : flow.loop = .holding data)
      (exhausted : flow.credits.consumable data.length = 0) :
      Moves cfg f flow .loopConsume { flow with loop := .parked data } none
  | loopConsume (data : Bytes) (holding : flow.loop = .holding data) :
      Moves cfg f flow .loopConsume
        { flow with credits := flow.credits.tryConsume data.length,
                    loop := .sending (data.take (flow.credits.consumable data.length))
                      (data.drop (flow.credits.consumable data.length)) } none
  | loopWake (data : Bytes) (parked : flow.loop = .parked data) :
      Moves cfg f flow .loopWake { flow with loop := .holding data } none
  | loopWakeClosed (parked : ∃ data, flow.loop = .parked data)
      (closed : flow.credits.closed = true) :
      Moves cfg f flow .loopWake { flow with loop := .exited } none
  | loopStall (parked : ∃ data, flow.loop = .parked data) :
      Moves cfg f flow .loopStall { flow.removeFlowState with loop := .stalled } none
  | loopClose (stalled : flow.loop = .stalled) :
      Moves cfg f flow .loopClose { flow with loop := .exited } (some (.control (.closeFlow f)))
  | loopSend (frame rest : Bytes) (sending : flow.loop = .sending frame rest) :
      Moves cfg f flow .loopSend { flow with loop := resume rest, sent := flow.sent ++ frame }
        (some (.data f frame))
  | loopFail (sending : ∃ frame rest, flow.loop = .sending frame rest) :
      Moves cfg f flow .loopFail { flow with loop := .exited } none
  | loopEnd (idle : flow.loop = .idle) (drained : flow.localToWs = []) (done : flow.relay = .done) :
      Moves cfg f flow .loopEnd { flow with loop := .exited } none
  | dropClose (closing : flow.closing = true) :
      Moves cfg f flow .dropClose { flow with closing := false } (some (.control (.closeFlow f)))

theorem moves_of_step (taken : flow.step cfg f action = some (next, output)) :
    Moves cfg f flow action next output := by
  cases action
  all_goals simp only [step] at taken
  all_goals (repeat' split at taken)
  all_goals simp only [Option.some.injEq, Prod.mk.injEq, reduceCtorEq] at taken
  all_goals obtain ⟨rfl, rfl⟩ := taken
  all_goals constructor <;> grind

theorem Moves.flow_output (moves : Moves cfg f flow action next (some frame)) : frame.flow = some f := by
  cases moves <;> rfl

@[simp] theorem phase_removeFlowState (flow : ClientFlow) : flow.removeFlowState.phase = flow.phase := by
  unfold removeFlowState
  split <;> rfl

/-- The outcomes of `receive`, one constructor for each. -/
inductive Receives (flow : ClientFlow) : Frame → ClientFlow → Prop where
  | ignore {frame : Frame} (quiet : flow.registered = true → ∀ f n, frame ≠ .control (.windowUpdate f n)) :
      Receives flow frame flow
  | queue {f : FlowId} {payload : Bytes} (room : flow.wsToLocal.length < flowChannelCap) :
      Receives flow (.data f payload)
        { flow with wsToLocal := flow.wsToLocal ++ [payload], delivered := flow.delivered ++ payload }
  | unregister {frame : Frame} (plain : ∀ f n, frame ≠ .control (.windowUpdate f n)) :
      Receives flow frame flow.removeFlowState
  | grant {f : FlowId} {n : Nat} (registered : flow.registered = true) :
      Receives flow (.control (.windowUpdate f n))
        { flow with credits := flow.credits.grant n,
                    granted := flow.granted + ((flow.credits.grant n).available - flow.credits.available) }

theorem receives (flow : ClientFlow) (frame : Frame) : flow.Receives frame (flow.receive frame).1 := by
  cases frame with
  | data f payload =>
    simp only [receive, dispatchDataFrame]
    split
    · exact .ignore fun _ _ _ => nofun
    · split
      · exact .unregister fun _ _ => nofun
      · split
        · exact .queue (by assumption)
        · exact .ignore fun _ _ _ => nofun
  | control message =>
    cases message with
    | windowUpdate f n =>
      simp only [receive, handleControlMessage, grantCredits]
      split <;> rename_i registered
      · exact .grant registered
      · exact .ignore fun known => absurd known registered
    | flowFailed | closeFlow => exact .unregister fun _ _ => nofun
    | _ => exact .ignore fun _ _ _ => nofun

@[simp] theorem phase_receive (flow : ClientFlow) (frame : Frame) :
    (flow.receive frame).1.phase = flow.phase := by
  have receives := flow.receives frame
  generalize (flow.receive frame).1 = next at receives
  cases receives <;> simp

theorem Moves.unopened (moves : Moves cfg f flow action next output) (unopened : flow.phase = .unopened) :
    next.phase = .unopened := by
  cases moves <;> simp_all [finishRelay]

theorem Moves.running (moves : Moves cfg f flow action next output) (running : flow.phase = .running) :
    next.phase = .running := by
  cases moves with
  | create target port allocated => simp [running] at allocated
  | loopStall => simpa using running
  | register => rfl
  | _ => exact running

end ClientFlow

end Rvpn.Mux
