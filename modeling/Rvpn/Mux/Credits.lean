import Rvpn.Mux.DownlinkClose

/-! Where the credits of a flow are: none are added, so never more than a window of bytes is under way. -/

namespace Rvpn.Mux

def ControlMessage.credit : ControlMessage → Nat
  | .windowUpdate _ n => n
  | .createFlow _ _ _ | .closeFlow _ | .flowCreated _ _ | .flowFailed _ _ | .ping _ | .pong _ => 0

def Frame.credit : Frame → Nat
  | .control message => message.credit
  | .data _ _ => 0

def creditsOn : List Frame → Nat
  | [] => 0
  | frame :: rest => frame.credit + creditsOn rest

def creditsIn (messages : List ControlMessage) : Nat := creditsOn (messages.map Frame.control)

@[simp] theorem creditsOn_nil : creditsOn [] = 0 := rfl

@[simp] theorem creditsOn_cons (frame : Frame) (rest : List Frame) :
    creditsOn (frame :: rest) = frame.credit + creditsOn rest := rfl

@[simp] theorem creditsOn_append (first second : List Frame) :
    creditsOn (first ++ second) = creditsOn first + creditsOn second := by
  induction first with
  | nil => simp
  | cons frame rest ih =>
    rw [List.cons_append, creditsOn_cons, creditsOn_cons, ih, Nat.add_assoc]

@[simp] theorem creditsIn_nil : creditsIn [] = 0 := rfl

@[simp] theorem creditsIn_cons (message : ControlMessage) (rest : List ControlMessage) :
    creditsIn (message :: rest) = message.credit + creditsIn rest := rfl

@[simp] theorem creditsIn_append (first second : List ControlMessage) :
    creditsIn (first ++ second) = creditsIn first + creditsIn second := by
  simp [creditsIn]

@[simp] theorem credit_control (message : ControlMessage) : (Frame.control message).credit = message.credit :=
  rfl

@[simp] theorem credit_data (f : FlowId) (payload : Bytes) : (Frame.data f payload).credit = 0 := rfl

def WriterPhase.ungranted : WriterPhase → Nat
  | .writing size _ | .granting size => size
  | .absent | .recv | .failed | .closing | .done => 0

/-- The bytes of the message that the client's relay has taken and not granted yet. -/
def RelayPhase.ungranted : RelayPhase → Nat
  | .writing size _ | .granting size => size
  | .absent | .idle | .sending _ | .done => 0

@[simp] theorem WriterPhase.ungranted_writing (size : Nat) (left : Bytes) :
    (WriterPhase.writing size left).ungranted = size := rfl

@[simp] theorem WriterPhase.ungranted_writeAll (size : Nat) (left : Bytes) :
    (ServerFlow.writeAll size left).ungranted = size := by
  unfold ServerFlow.writeAll
  split <;> rfl

@[simp] theorem RelayPhase.ungranted_writing (size : Nat) (left : Bytes) :
    (RelayPhase.writing size left).ungranted = size := rfl

@[simp] theorem RelayPhase.ungranted_writeAll (size : Nat) (left : Bytes) :
    (ClientFlow.writeAll size left).ungranted = size := by
  unfold ClientFlow.writeAll
  split <;> rfl

namespace ClientFlow

variable {cfg : Config} {f : FlowId} {flow next : ClientFlow} {action : ClientAction}
  {output : Option Frame}

def uplinkHeld (flow : ClientFlow) : Nat := flow.credits.available + flow.loop.spent.length

/-- The downlink credits at the client: with data not read yet, or not granted yet. -/
def downlinkHeld (flow : ClientFlow) : Nat := flow.wsToLocal.flatten.length + flow.relay.ungranted

theorem removeFlowState_held (flow : ClientFlow) :
    flow.removeFlowState.uplinkHeld = flow.uplinkHeld ∧ flow.removeFlowState.downlinkHeld = flow.downlinkHeld := by
  unfold removeFlowState
  split <;> exact ⟨rfl, rfl⟩

theorem Moves.uplinkHeld_le (moves : Moves cfg f flow action next output) (opened : action ≠ .register) :
    next.uplinkHeld + (payloads output.toList).length ≤ flow.uplinkHeld := by
  cases moves with
  | register => exact absurd rfl opened
  | loopRecv | loopPark | loopWake => simp [uplinkHeld]
  | loopConsume data holding =>
    have taken := flow.credits.available_tryConsume data.length
    have length := List.length_take_le (flow.credits.consumable data.length) data
    simp only [uplinkHeld, holding, spent_holding, spent_sending, Option.toList_none, payloads_nil]
    omega
  | loopSend frame rest sending => simp [uplinkHeld, sending]
  | loopStall parked =>
    have same := flow.removeFlowState_held.1
    simp only [uplinkHeld, spent_stalled, Option.toList_none, payloads_nil, List.length_nil] at same ⊢
    omega
  | loopWakeClosed | loopClose | loopFail | loopEnd => simp [uplinkHeld, LoopPhase.spent]
  | _ => exact Nat.le_refl _

theorem Moves.downlinkHeld_le (moves : Moves cfg f flow action next output) :
    next.downlinkHeld + creditsOn output.toList ≤ flow.downlinkHeld := by
  cases moves with
  | register | relayRead | relaySend => simp [downlinkHeld, RelayPhase.ungranted]
  | relayRecv data rest idle waiting =>
    simp only [downlinkHeld, RelayPhase.ungranted_writeAll, waiting, List.flatten_cons, List.length_append,
      Option.toList_none, creditsOn_nil]
    omega
  | relayWrite n size left writing => simp [downlinkHeld, writing]
  | relayGrant size granting => simp [downlinkHeld, granting, RelayPhase.ungranted, ControlMessage.credit]
  | relayEof | relayFail | relaySendClosed | relayClosed => simp [downlinkHeld, finishRelay, RelayPhase.ungranted]
  | loopStall => exact Nat.le_of_eq flow.removeFlowState_held.2
  | _ => exact Nat.le_refl _

theorem receive_held (flow : ClientFlow) (frame : Frame) :
    (flow.receive frame).1.uplinkHeld ≤ flow.uplinkHeld + frame.credit ∧
    (flow.receive frame).1.downlinkHeld ≤ flow.downlinkHeld + frame.payload.length := by
  have ⟨uplink, downlink⟩ := flow.removeFlowState_held
  have receives := flow.receives frame
  generalize (flow.receive frame).1 = next at receives
  cases receives with
  | ignore => simp
  | queue =>
    simp +arith [uplinkHeld, downlinkHeld]
  | unregister => simp [uplink, downlink]
  | grant =>
    simp only [uplinkHeld, downlinkHeld, FlowSendCredits.grant, credit_control, ControlMessage.credit]
    omega

end ClientFlow

namespace ServerFlow

variable {cfg : Config} {f : FlowId} {flow next : ServerFlow} {action : ServerAction}
  {output : Option ServerOutput}

/-- The uplink credits at the server: with data not written yet, or not granted yet. -/
def uplinkHeld (flow : ServerFlow) : Nat := flow.queue.flatten.length + flow.writer.ungranted

/-- The downlink credits at the server: at hand, or spent on data not on `tx` yet. -/
def downlinkHeld (flow : ServerFlow) : Nat := flow.credits.available + flow.relay.held.length

def ReadsWithin (flow : ServerFlow) : Prop := ∀ cap, flow.relay = .reading cap → cap ≤ flow.credits.available

def bytesOut : Option ServerOutput → Nat
  | some (.data payload) => payload.length
  | _ => 0

def creditOut : Option ServerOutput → Nat
  | some (.control message) => message.credit
  | _ => 0

theorem removeFlow_held (flow : ServerFlow) :
    flow.removeFlow.uplinkHeld = flow.uplinkHeld ∧ flow.removeFlow.downlinkHeld = flow.downlinkHeld ∧
    flow.removeFlow.relay = flow.relay ∧ (flow.ReadsWithin → flow.removeFlow.ReadsWithin) := by
  unfold removeFlow
  split <;> exact ⟨rfl, rfl, rfl, id⟩

section

variable (moves : Moves cfg f flow action next output)
include moves

theorem Moves.uplinkHeld_le :
    next.uplinkHeld + creditOut output ≤ flow.uplinkHeld := by
  cases moves with
  | writerRecv data rest idle waiting =>
    simp only [uplinkHeld, WriterPhase.ungranted_writeAll, waiting, List.flatten_cons, List.length_append, creditOut]
    omega
  | writerWrite n size left writing => simp [uplinkHeld, writing, creditOut]
  | writerGrant size granting => simp [uplinkHeld, granting, creditOut, WriterPhase.ungranted, ControlMessage.credit]
  | writerFail | writerRemove | writerQuit | writerEnd | writerCancel =>
    simp [uplinkHeld, WriterPhase.ungranted, creditOut]
  | writerClose => simp [uplinkHeld, WriterPhase.ungranted, creditOut, ControlMessage.credit]
  | _ => exact Nat.le_refl _

theorem Moves.downlinkHeld_le (within : flow.ReadsWithin) :
    next.downlinkHeld + bytesOut output ≤ flow.downlinkHeld := by
  cases moves with
  | relayRead n reading positive =>
    obtain ⟨cap, reading, capped⟩ := reading
    have enough := within cap reading
    have taken := flow.credits.available_tryConsume n
    have length := List.length_take_le n flow.targetOut
    simp only [FlowSendCredits.consumable] at taken
    simp only [downlinkHeld, ServerRelayPhase.held, bytesOut]
    omega
  | relayPush data sending => simp [downlinkHeld, sending, ServerRelayPhase.held, bytesOut]
  | relayPark | relayStall | relayEof | relayError | relayRemove | relayAlone | relayClose | relayCancel =>
    simp [downlinkHeld, ServerRelayPhase.held, bytesOut]
  | relayGate | relayWake => simp [downlinkHeld, readPhase, ServerRelayPhase.held, bytesOut]
  | _ => exact Nat.le_refl _

theorem Moves.readsWithin (within : flow.ReadsWithin) :
    next.ReadsWithin := by
  intro cap reading
  cases moves with
  | relayGate | relayWake =>
    obtain rfl : min flow.credits.available readBufferSize = cap := by simpa [readPhase] using reading
    exact Nat.min_le_left _ _
  | _ => first | exact within cap reading | cases reading

theorem Moves.relay_absent (absent : next.relay = .absent) :
    flow.relay = .absent := by
  cases moves with
  | _ => first | exact absent | cases absent

end

theorem Dispatched.held {tunEnabled overflown : Bool} {data : Bytes}
    (outcome : Dispatched tunEnabled flow data next overflown) :
    next.uplinkHeld ≤ flow.uplinkHeld + data.length ∧ next.downlinkHeld = flow.downlinkHeld ∧
    next.relay = flow.relay ∧ (flow.ReadsWithin → next.ReadsWithin) := by
  cases outcome with
  | queued =>
    refine ⟨?_, rfl, rfl, id⟩
    simp only [uplinkHeld, List.flatten_append, List.length_append, List.flatten_singleton]
    omega
  | _ => exact ⟨Nat.le_add_right _ _, rfl, rfl, id⟩

theorem grantCredits_held (flow : ServerFlow) (n : Nat) :
    (flow.grantCredits n).uplinkHeld = flow.uplinkHeld ∧
    (flow.grantCredits n).downlinkHeld ≤ flow.downlinkHeld + n ∧
    (flow.grantCredits n).relay = flow.relay ∧ (flow.ReadsWithin → (flow.grantCredits n).ReadsWithin) := by
  unfold grantCredits
  split
  · refine ⟨rfl, ?_, rfl, fun within cap reading => ?_⟩
    · simp only [downlinkHeld, FlowSendCredits.grant]
      omega
    · exact Nat.le_trans (within cap reading) (flow.credits.available_le_grant n)
  · exact ⟨rfl, Nat.le_add_right _ _, rfl, id⟩

end ServerFlow

namespace FlowView

def uplinkUnderway (view : FlowView) : Nat :=
  (payloads view.up).length + view.server.uplinkHeld + creditsIn view.control + creditsOn view.down

def downlinkUnderway (view : FlowView) : Nat :=
  view.tx.flatten.length + (payloads view.down).length + view.client.downlinkHeld + creditsOn view.up

theorem payloads_sendUp (view : FlowView) (frame : Frame) :
    (payloads (view.sendUp frame)).length ≤ (payloads view.up).length + frame.payload.length := by
  unfold sendUp
  split <;> simp

theorem creditsOn_sendUp (view : FlowView) (frame : Frame) :
    creditsOn (view.sendUp frame) ≤ creditsOn view.up + frame.credit := by
  unfold sendUp
  split <;> simp

end FlowView

/-- Each direction of the flow has at most a window of credits, and none before its sender
starts. -/
structure Funded (f : FlowId) (view : FlowView) : Prop where
  born : Born f view
  uplink : view.client.uplinkHeld + view.uplinkUnderway ≤ initialFlowWindow
  unopened : view.client.phase ≠ .running → view.uplinkUnderway = 0
  downlink : view.server.downlinkHeld + view.downlinkUnderway ≤ initialFlowWindow
  unspawned : view.server.relay = .absent → view.downlinkUnderway = 0
  within : view.server.ReadsWithin

namespace Funded

variable {cfg : Config} {f : FlowId} {view next : FlowView} {move : FlowAction}

theorem start : Funded f .start where
  born := .start
  uplink := Nat.le_refl _
  unopened := fun _ => rfl
  downlink := Nat.le_refl _
  unspawned := fun _ => rfl
  within := by simp [FlowView.start, ServerFlow.ReadsWithin, ServerFlow.fresh]

theorem of_le (funded : Funded f view) (born : Born f next)
    (uplink : next.client.uplinkHeld + next.uplinkUnderway ≤ view.client.uplinkHeld + view.uplinkUnderway)
    (unopened : next.client.phase ≠ .running →
      view.client.phase ≠ .running ∧ next.uplinkUnderway ≤ view.uplinkUnderway)
    (downlink : next.server.downlinkHeld + next.downlinkUnderway ≤ view.server.downlinkHeld + view.downlinkUnderway)
    (unspawned : next.server.relay = .absent →
      view.server.relay = .absent ∧ next.downlinkUnderway ≤ view.downlinkUnderway)
    (within : next.server.ReadsWithin) : Funded f next where
  born := born
  uplink := Nat.le_trans uplink funded.uplink
  unopened := fun early => Nat.le_zero.mp (funded.unopened (unopened early).1 ▸ (unopened early).2)
  downlink := Nat.le_trans downlink funded.downlink
  unspawned := fun absent => Nat.le_zero.mp (funded.unspawned (unspawned absent).1 ▸ (unspawned absent).2)
  within := within

theorem ofClient (funded : Funded f view) (born : Born f { view with client := flow, up })
    (moves : view.client.Moves cfg f action flow output)
    (carried : (payloads up).length ≤ (payloads view.up).length + (payloads output.toList).length)
    (granted : creditsOn up ≤ creditsOn view.up + creditsOn output.toList) :
    Funded f { view with client := flow, up } := by
  have downlink := moves.downlinkHeld_le
  by_cases register : action = .register
  · subst register
    cases moves with
    | register created =>
      have nothing := funded.unopened (by simp [created])
      simp only [Option.toList_none, payloads_nil, List.length_nil] at carried granted downlink
      simp only [FlowView.uplinkUnderway] at nothing
      refine ⟨born, ?_, fun early => absurd rfl early, ?_, fun absent => ?_, funded.within⟩
      · simp only [FlowView.uplinkUnderway, ClientFlow.uplinkHeld, spent_idle, FlowSendCredits.available_new,
          List.length_nil]
        omega
      · have budget := funded.downlink
        simp only [FlowView.downlinkUnderway] at budget ⊢
        omega
      · have before := funded.unspawned absent
        simp only [FlowView.downlinkUnderway] at before ⊢
        omega
  · have uplink := moves.uplinkHeld_le register
    have before (early : flow.phase ≠ .running) : view.client.phase ≠ .running := fun running => early (moves.running running)
    have silent (early : flow.phase ≠ .running) : (payloads output.toList).length = 0 := by
      cases output with
      | none => rfl
      | some frame =>
        obtain ⟨-, -, target, port, rfl⟩ := moves.early_output funded.born.tasks (before early)
        rfl
    refine funded.of_le born ?_ (fun early => ⟨before early, ?_⟩) ?_ (fun absent => ⟨absent, ?_⟩) funded.within
    all_goals simp only [FlowView.uplinkUnderway, FlowView.downlinkUnderway]
    · omega
    · have quiet := silent early
      omega
    · omega
    · omega

theorem ofServer {action : ServerAction} {flow : ServerFlow} {output : Option ServerOutput} {tx : List Bytes}
    {control : List ControlMessage} (funded : Funded f view)
    (born : Born f { view with server := flow, tx, control })
    (moves : view.server.Moves cfg f action flow output)
    (carried : tx.flatten.length = view.tx.flatten.length + ServerFlow.bytesOut output)
    (granted : creditsIn control = creditsIn view.control + ServerFlow.creditOut output) :
    Funded f { view with server := flow, tx, control } := by
  have uplink := moves.uplinkHeld_le
  have downlink := moves.downlinkHeld_le funded.within
  have silent (absent : flow.relay = .absent) : ServerFlow.bytesOut output = 0 := by
    cases moves with
    | relayPush => cases absent
    | _ => rfl
  refine funded.of_le born ?_ (fun early => ⟨early, ?_⟩) ?_ (fun absent => ⟨moves.relay_absent absent, ?_⟩)
    (moves.readsWithin funded.within)
  all_goals simp only [FlowView.uplinkUnderway, FlowView.downlinkUnderway]
  · omega
  · omega
  · omega
  · have quiet := silent absent
    omega

theorem received (funded : Funded f view) (born : Born f { view with server, up := rest, rx })
    (arrived : view.up = frame :: rest)
    (uplink : server.uplinkHeld ≤ view.server.uplinkHeld + frame.payload.length)
    (downlink : server.downlinkHeld ≤ view.server.downlinkHeld + frame.credit)
    (relay : server.relay = view.server.relay) (within : server.ReadsWithin) :
    Funded f { view with server, up := rest, rx } := by
  have carried : (payloads view.up).length = frame.payload.length + (payloads rest).length := by simp [arrived]
  have granted : creditsOn view.up = frame.credit + creditsOn rest := by simp [arrived]
  refine funded.of_le born ?_ (fun early => ⟨early, ?_⟩) ?_ (fun absent => ⟨relay.symm.trans absent, ?_⟩) within
  all_goals simp only [FlowView.uplinkUnderway, FlowView.downlinkUnderway]
  all_goals omega

theorem served {server : ServerFlow} {control : List ControlMessage} {rx : ReceiverPhase} (funded : Funded f view)
    (born : Born f { view with server, control, rx }) (uplink : server.uplinkHeld = view.server.uplinkHeld)
    (downlink : server.downlinkHeld = view.server.downlinkHeld) (relay : server.relay = view.server.relay)
    (within : server.ReadsWithin) (granted : creditsIn control = creditsIn view.control) :
    Funded f { view with server, control, rx } := by
  refine funded.of_le born ?_ (fun early => ⟨early, ?_⟩) ?_ (fun absent => ⟨relay.symm.trans absent, ?_⟩) within
  all_goals simp only [FlowView.uplinkUnderway, FlowView.downlinkUnderway]
  all_goals omega

theorem clientReceive (funded : Funded f view)
    (born : Born f { view with client := (view.client.receive frame).1, down := rest, closing })
    (arrived : view.down = frame :: rest) :
    Funded f { view with client := (view.client.receive frame).1, down := rest, closing } := by
  have ⟨uplink, downlink⟩ := view.client.receive_held frame
  have carried : (payloads view.down).length = frame.payload.length + (payloads rest).length := by simp [arrived]
  have granted : creditsOn view.down = frame.credit + creditsOn rest := by simp [arrived]
  refine funded.of_le born ?_ (fun early => ⟨view.client.phase_receive frame ▸ early, ?_⟩) ?_
    (fun absent => ⟨absent, ?_⟩) funded.within
  all_goals simp only [FlowView.uplinkUnderway, FlowView.downlinkUnderway]
  all_goals omega

/-- `run_ws_sender` puts something on the wire. -/
theorem taken {down : List Frame} {tx : List Bytes} {control : List ControlMessage} (funded : Funded f view)
    (born : Born f { view with down, tx, control })
    (carried : tx.flatten.length + (payloads down).length = view.tx.flatten.length + (payloads view.down).length)
    (granted : creditsIn control + creditsOn down = creditsIn view.control + creditsOn view.down) :
    Funded f { view with down, tx, control } := by
  refine funded.of_le born ?_ (fun early => ⟨early, ?_⟩) ?_ (fun absent => ⟨absent, ?_⟩) funded.within
  all_goals simp only [FlowView.uplinkUnderway, FlowView.downlinkUnderway]
  all_goals omega

theorem connected (funded : Funded f view) (born : Born f { view with server := view.server.spawn, rx := .spawned f })
    (connecting : view.rx = .connecting f) :
    Funded f { view with server := view.server.spawn, rx := .spawned f } := by
  have fresh := funded.born.fresh_of_connecting connecting
  have nothing := funded.unspawned (by simp [fresh, ServerFlow.fresh])
  have emptied : view.server.spawn.uplinkHeld = 0 := rfl
  have renewed : view.server.spawn.downlinkHeld = initialFlowWindow := rfl
  have within : view.server.spawn.ReadsWithin := by simp [ServerFlow.ReadsWithin, ServerFlow.spawn]
  refine ⟨born, ?_, fun early => ?_, ?_, by simp [ServerFlow.spawn], within⟩
  · have budget := funded.uplink
    simp only [FlowView.uplinkUnderway] at budget ⊢
    omega
  · have before := funded.unopened early
    simp only [FlowView.uplinkUnderway] at before ⊢
    omega
  · simp only [FlowView.downlinkUnderway] at nothing ⊢
    omega

theorem moves (funded : Funded f view) (moves : FlowMoves cfg f view move next) : Funded f next := by
  have born := funded.born.moves moves
  have within := funded.within
  cases moves with
  | allocate unopened =>
    exact { funded with born, unopened := fun _ => funded.unopened (by simp [unopened]) }
  | clientSilent action flow moves => exact funded.ofClient born moves (Nat.le_refl _) (Nat.le_refl _)
  | clientSend action flow frame moves =>
    exact funded.ofClient born moves (by simpa using view.payloads_sendUp frame)
      (by simpa using view.creditsOn_sendUp frame)
  | clientReceive frame rest arrived => exact funded.clientReceive born arrived
  | clientClose =>
    have carried := view.payloads_sendUp (.control (.closeFlow f))
    have granted := view.creditsOn_sendUp (.control (.closeFlow f))
    simp only [payload_control, credit_control, ControlMessage.credit, List.length_nil] at carried granted
    refine funded.of_le born ?_ (fun early => ⟨early, ?_⟩) ?_ (fun absent => ⟨absent, ?_⟩) within
    all_goals simp only [FlowView.uplinkUnderway, FlowView.downlinkUnderway]
    all_goals omega
  | shutdown =>
    have ⟨uplink, downlink⟩ := view.client.removeFlowState_held
    refine funded.of_le born ?_ (fun early => ⟨by simpa using early, ?_⟩) ?_ (fun absent => ⟨absent, ?_⟩) within
    all_goals simp only [FlowView.uplinkUnderway, FlowView.downlinkUnderway]
    all_goals omega
  | upFail => exact { funded with born }
  | serverSilent action flow moves => exact funded.ofServer born moves rfl rfl
  | serverData action flow payload moves =>
    exact funded.ofServer born moves (by simp [ServerFlow.bytesOut]) rfl
  | serverControl action flow message moves =>
    exact funded.ofServer born moves rfl (by simp [ServerFlow.creditOut])
  | receiveData crowded payload rest arrived =>
    have ⟨uplink, downlink, relay, kept⟩ := (view.server.dispatched cfg.tunEnabled payload).held
    exact funded.received born arrived uplink (Nat.le_of_eq downlink) relay (kept within)
  | receiveCreate target port rest arrived | refuseCreate target port rest error arrived
  | receiveIgnored crowded message rest arrived =>
    exact funded.received born arrived (Nat.le_add_right _ _) (Nat.le_add_right _ _) rfl within
  | receiveClose crowded rest arrived =>
    have ⟨uplink, downlink, relay, kept⟩ := view.server.removeFlow_held
    exact funded.received born arrived (Nat.le_of_eq uplink) (Nat.le_of_eq downlink) relay (kept within)
  | receiveUpdate crowded n rest arrived =>
    have ⟨uplink, downlink, relay, kept⟩ := view.server.grantCredits_held n
    exact funded.received born arrived (Nat.le_of_eq uplink) downlink relay (kept within)
  | connected connecting => exact funded.connected born connecting
  | connectFailed | insertFlow => exact funded.served born rfl rfl rfl within rfl
  | replyCreated | replyOverflown => exact funded.served born rfl rfl rfl within (by simp [ControlMessage.credit])
  | reply message replying =>
    obtain ⟨error, rfl⟩ := funded.born.failed_of_replying replying
    exact funded.served born rfl rfl rfl within (by simp [ControlMessage.credit])
  | flush data frames flushing => exact absurd flushing (funded.born.not_flushing _)
  | takeControl message rest waiting =>
    refine funded.taken born (by simp) ?_
    simp only [waiting, creditsIn_cons, creditsOn_append, creditsOn_cons, creditsOn_nil, credit_control]
    omega
  | takeData payload rest waiting =>
    refine funded.taken born ?_ (by simp)
    simp +arith [waiting]
  | sessionEnd =>
    have ⟨uplink, downlink, relay, kept⟩ := view.server.removeFlow_held
    exact funded.served born uplink downlink relay (kept within) rfl

end Funded

/-- What a flow has on the wire and in the queues of its receiver is a window at most, each way. -/
theorem buffered_within_window (cfg : Config) (f : FlowId) : Transition.Always (step cfg) State.start fun state =>
    (payloads (state.view f).up).length + (state.server f).queue.flatten.length ≤ initialFlowWindow ∧
      (state.view f).tx.flatten.length + (payloads (state.view f).down).length +
        (state.client f).wsToLocal.flatten.length ≤ initialFlowWindow := by
  intro actions final reached
  have funded : Funded f (final.view f) := State.run_view (fun _ _ _ holds moves => holds.moves moves) .start reached
  have uplink := funded.uplink
  have downlink := funded.downlink
  simp only [FlowView.uplinkUnderway, ServerFlow.uplinkHeld, State.view] at uplink
  simp only [FlowView.downlinkUnderway, ClientFlow.downlinkHeld, State.view] at downlink
  simp only [State.view]
  omega

end Rvpn.Mux
