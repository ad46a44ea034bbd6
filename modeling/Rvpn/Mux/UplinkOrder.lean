import Rvpn.Mux.Lifecycle

/-! The order of one flow's uplink: each stage hands on a leading part of what it took. -/

namespace Rvpn.Mux

def LoopPhase.inHand : LoopPhase → Bytes
  | .holding data | .parked data => data
  | .sending frame rest => frame ++ rest
  | .absent | .idle | .stalled | .exited => []

/-- The part of a chunk for which the loop has taken credits and that it has not sent. -/
def LoopPhase.spent : LoopPhase → Bytes
  | .sending frame _ => frame
  | .absent | .idle | .holding _ | .parked _ | .stalled | .exited => []

def WriterPhase.left : WriterPhase → Bytes
  | .writing _ left => left
  | .absent | .recv | .granting _ | .failed | .closing | .done => []

@[simp] theorem inHand_absent : LoopPhase.absent.inHand = [] := rfl

@[simp] theorem inHand_idle : LoopPhase.idle.inHand = [] := rfl

@[simp] theorem inHand_holding (data : Bytes) : (LoopPhase.holding data).inHand = data := rfl

@[simp] theorem inHand_parked (data : Bytes) : (LoopPhase.parked data).inHand = data := rfl

@[simp] theorem inHand_sending (frame rest : Bytes) :
    (LoopPhase.sending frame rest).inHand = frame ++ rest := rfl

@[simp] theorem left_recv : WriterPhase.recv.left = [] := rfl

@[simp] theorem left_writing (size : Nat) (left : Bytes) : (WriterPhase.writing size left).left = left :=
  rfl

@[simp] theorem left_granting (size : Nat) : (WriterPhase.granting size).left = [] := rfl

@[simp] theorem inHand_resume (rest : Bytes) : (ClientFlow.resume rest).inHand = rest := by
  unfold ClientFlow.resume
  split
  · rename_i empty
    exact empty.symm
  · rfl

@[simp] theorem left_writeAll (size : Nat) (left : Bytes) : (ServerFlow.writeAll size left).left = left := by
  unfold ServerFlow.writeAll
  split
  · rename_i empty
    exact empty.symm
  · rfl

@[simp] theorem spent_idle : LoopPhase.idle.spent = [] := rfl

@[simp] theorem spent_holding (data : Bytes) : (LoopPhase.holding data).spent = [] := rfl

@[simp] theorem spent_parked (data : Bytes) : (LoopPhase.parked data).spent = [] := rfl

@[simp] theorem spent_sending (frame rest : Bytes) : (LoopPhase.sending frame rest).spent = frame := rfl

@[simp] theorem spent_stalled : LoopPhase.stalled.spent = [] := rfl

@[simp] theorem spent_resume (rest : Bytes) : (ClientFlow.resume rest).spent = [] := by
  unfold ClientFlow.resume
  split <;> rfl

namespace ClientFlow

variable {cfg : Config} {f : FlowId} {flow next : ClientFlow} {action : ClientAction}
  {output : Option Frame}

/-- What was put on the channel is what was sent, what the loop holds and what still
waits, in this order; a loop that gave up has sent a leading part. -/
def Ordered (flow : ClientFlow) : Prop :=
  flow.put = flow.sent ++ flow.loop.inHand ++ flow.localToWs.flatten ∨
    (flow.loop = .stalled ∨ flow.loop = .exited) ∧ flow.sent <+: flow.put

theorem Ordered.sent_isPrefix (ordered : flow.Ordered) : flow.sent <+: flow.put := by
  rcases ordered with whole | ⟨-, leading⟩
  · exact ⟨flow.loop.inHand ++ flow.localToWs.flatten, by rw [whole, List.append_assoc]⟩
  · exact leading

theorem Ordered.whole (ordered : flow.Ordered) (running : flow.loop ≠ .stalled ∧ flow.loop ≠ .exited) :
    flow.put = flow.sent ++ flow.loop.inHand ++ flow.localToWs.flatten := by
  rcases ordered with whole | ⟨gone, -⟩
  · exact whole
  · rcases gone with gone | gone <;> simp [gone] at running

theorem Moves.ordered (moves : Moves cfg f flow action next output) (tasks : flow.TasksAfterOpen)
    (ordered : flow.Ordered) : next.Ordered := by
  cases moves with
  | register created =>
    have absent := (tasks (by simp [created])).2.1
    have whole := ordered.whole (by simp [absent])
    exact .inl (by simpa [absent] using whole)
  | relaySend chunk sending alive room =>
    rcases ordered with whole | ⟨gone, leading⟩
    · exact .inl (by simp [whole])
    · exact .inr ⟨gone, leading.trans (List.prefix_append _ _)⟩
  | loopRecv data rest idle waiting =>
    have whole := ordered.whole (by simp [idle])
    exact .inl (by simpa [idle, waiting] using whole)
  | loopPark data holding | loopConsume data holding =>
    have whole := ordered.whole (by simp [holding])
    exact .inl (by simpa [holding] using whole)
  | loopWake data parked =>
    have whole := ordered.whole (by simp [parked])
    exact .inl (by simpa [parked] using whole)
  | loopSend frame rest sending =>
    have whole := ordered.whole (by simp [sending])
    exact .inl (by simpa [sending] using whole)
  | loopWakeClosed | loopClose | loopFail | loopEnd => exact .inr ⟨.inr rfl, ordered.sent_isPrefix⟩
  | loopStall =>
    refine .inr ⟨.inl rfl, ?_⟩
    unfold removeFlowState
    split <;> exact ordered.sent_isPrefix
  | _ => exact ordered

theorem Moves.sent_eq (moves : Moves cfg f flow action next output) :
    next.sent = flow.sent ++ (output.map Frame.payload).getD [] := by
  cases moves with
  | loopStall =>
    unfold removeFlowState
    split <;> simp
  | _ => simp [finishRelay]

theorem removeFlowState_sent (flow : ClientFlow) : flow.removeFlowState.sent = flow.sent := by
  unfold removeFlowState
  split <;> rfl

theorem receive_sent (flow : ClientFlow) (frame : Frame) : (flow.receive frame).1.sent = flow.sent := by
  have receives := flow.receives frame
  generalize (flow.receive frame).1 = next at receives
  cases receives with
  | unregister => exact flow.removeFlowState_sent
  | _ => rfl

theorem ordered_removeFlowState (ordered : flow.Ordered) : flow.removeFlowState.Ordered := by
  unfold removeFlowState
  split <;> exact ordered

theorem ordered_receive (ordered : flow.Ordered) (frame : Frame) : (flow.receive frame).1.Ordered := by
  have receives := flow.receives frame
  generalize (flow.receive frame).1 = next at receives
  cases receives with
  | unregister => exact ordered_removeFlowState ordered
  | _ => exact ordered

end ClientFlow

namespace ServerFlow

variable {cfg : Config} {f : FlowId} {flow next : ServerFlow} {action : ServerAction}
  {output : Option ServerOutput}

/-- What the queue accepted is what was written, what the writer holds and what still
waits, in this order; a writer that gave up has written a leading part. -/
def Ordered (flow : ServerFlow) : Prop :=
  flow.enqueued = flow.written ++ flow.writer.left ++ flow.queue.flatten ∨
    (flow.writer = .failed ∨ flow.writer = .closing ∨ flow.writer = .done) ∧
      flow.written <+: flow.enqueued

theorem Ordered.written_isPrefix (ordered : flow.Ordered) : flow.written <+: flow.enqueued := by
  rcases ordered with whole | ⟨-, leading⟩
  · exact ⟨flow.writer.left ++ flow.queue.flatten, by rw [whole, List.append_assoc]⟩
  · exact leading

theorem Ordered.whole (ordered : flow.Ordered)
    (working : flow.writer ≠ .failed ∧ flow.writer ≠ .closing ∧ flow.writer ≠ .done) :
    flow.enqueued = flow.written ++ flow.writer.left ++ flow.queue.flatten := by
  rcases ordered with whole | ⟨gone, -⟩
  · exact whole
  · rcases gone with gone | gone | gone <;> simp [gone] at working

theorem Moves.ordered (moves : Moves cfg f flow action next output) (ordered : flow.Ordered) :
    next.Ordered := by
  cases moves with
  | writerRecv data rest idle waiting =>
    have whole := ordered.whole (by simp [idle])
    exact .inl (by simpa [idle, waiting] using whole)
  | writerWrite n size left writing =>
    have whole := ordered.whole (by simp [writing])
    have parted := List.take_append_drop n left
    rw [writing, left_writing, ← parted] at whole
    exact .inl (by simpa using whole)
  | writerGrant size granting =>
    have whole := ordered.whole (by simp [granting])
    exact .inl (by simpa [granting] using whole)
  | writerFail => exact .inr ⟨.inl rfl, ordered.written_isPrefix⟩
  | writerRemove => exact .inr ⟨.inr (.inl rfl), ordered.written_isPrefix⟩
  | writerQuit | writerClose | writerEnd | writerCancel => exact .inr ⟨.inr (.inr rfl), ordered.written_isPrefix⟩
  | _ => exact ordered

theorem ordered_removeFlow (ordered : flow.Ordered) : flow.removeFlow.Ordered := by
  unfold removeFlow
  split <;> exact ordered

/-- What the queue accepted is what came off the wire, unless the flow no longer
accepts anything. -/
def Intact (flow : ServerFlow) : Prop :=
  flow.enqueued = flow.received ∨
    (flow.writer = .done ∨ flow.entry ≠ .inserted) ∧ flow.enqueued <+: flow.received

theorem Intact.enqueued_isPrefix (intact : flow.Intact) : flow.enqueued <+: flow.received := by
  rcases intact with whole | ⟨-, leading⟩
  · exact whole ▸ List.prefix_rfl
  · exact leading

theorem Moves.intact (moves : Moves cfg f flow action next output) (intact : flow.Intact) :
    next.Intact := by
  obtain ⟨received, enqueued, -⟩ := moves.received_eq
  rcases intact with whole | ⟨shut, leading⟩
  · exact .inl (by rw [received, enqueued, whole])
  · refine .inr ⟨?_, by rwa [received, enqueued]⟩
    rcases shut with done | out
    · exact .inl (moves.writer_done done)
    · exact .inr (by rwa [moves.entry_eq out])

theorem intact_removeFlow (intact : flow.Intact) : flow.removeFlow.Intact := by
  unfold removeFlow
  split
  · rcases intact with whole | ⟨-, leading⟩
    · exact .inl whole
    · exact .inr ⟨.inr (by simp), leading⟩
  · exact intact

theorem Dispatched.received_eq {tunEnabled overflown : Bool} {data : Bytes}
    (outcome : Dispatched tunEnabled flow data next overflown) :
    next.received = flow.received ++ data := by
  cases outcome <;> rfl

theorem Dispatched.ordered {tunEnabled overflown : Bool} {data : Bytes}
    (outcome : Dispatched tunEnabled flow data next overflown) (ordered : flow.Ordered) :
    next.Ordered := by
  cases outcome with
  | queued =>
    rcases ordered with whole | ⟨gone, leading⟩
    · exact .inl (by simp [whole])
    · exact .inr ⟨gone, leading.trans (List.prefix_append _ _)⟩
  | _ => exact ordered

theorem Dispatched.intact {tunEnabled overflown : Bool} {data : Bytes}
    (outcome : Dispatched tunEnabled flow data next overflown) (intact : flow.Intact) :
    next.Intact := by
  have leading : flow.enqueued <+: flow.received ++ data :=
    intact.enqueued_isPrefix.trans (List.prefix_append _ _)
  cases outcome with
  | refused inserted done => exact .inr ⟨.inl done, leading⟩
  | queued inserted working =>
    rcases intact with whole | ⟨done | out, -⟩
    · exact .inl (congrArg (· ++ data) whole)
    · exact absurd done working
    · exact absurd inserted out
  | overflown => exact .inr ⟨.inr (by simp), leading⟩
  | tunneled out | buffered out => exact .inr ⟨.inr out, leading⟩

end ServerFlow

/-- The uplink of one flow: what its client sent is what its server received and what is
still on the wire, and the stages at both ends are in order. -/
structure Uplink (f : FlowId) (view : FlowView) : Prop where
  born : Born f view
  client : view.client.Ordered
  wire : view.client.sent = view.server.received ++ payloads view.up
  intact : view.server.Intact
  server : view.server.Ordered

namespace Uplink

variable {cfg : Config} {f : FlowId} {view next : FlowView} {move : FlowAction}

theorem start : Uplink f .start where
  born := .start
  client := .inl rfl
  wire := rfl
  intact := .inl rfl
  server := .inl rfl

theorem written_isPrefix (uplink : Uplink f view) : view.server.written <+: view.client.put := by
  have accepted := uplink.server.written_isPrefix.trans uplink.intact.enqueued_isPrefix
  have carried : view.server.received <+: view.client.sent := ⟨_, uplink.wire.symm⟩
  exact (accepted.trans carried).trans uplink.client.sent_isPrefix

theorem payloads_sendUp (online : frame.isData = true → view.upOpen = true) :
    payloads (view.sendUp frame) = payloads view.up ++ frame.payload := by
  unfold FlowView.sendUp
  split
  · simp
  · rename_i offline
    cases frame with
    | control message => simp
    | data g payload => exact absurd (online rfl) offline

theorem received {frame : Frame} {server : ServerFlow} (uplink : Uplink f view)
    (arrived : view.up = frame :: rest) (born : Born f { view with server, up := rest, rx })
    (taken : server.received = view.server.received ++ frame.payload) (intact : server.Intact)
    (ordered : server.Ordered) :
    Uplink f { view with server, up := rest, rx } := by
  refine ⟨born, uplink.client, ?_, intact, ordered⟩
  have wire := uplink.wire
  rw [arrived, payloads_cons, ← List.append_assoc, ← taken] at wire
  exact wire

theorem moves (uplink : Uplink f view) (moves : FlowMoves cfg f view move next) : Uplink f next := by
  have born := uplink.born.moves moves
  have ⟨birth, client, wire, intact, server⟩ := uplink
  cases moves with
  | allocate | upFail | connectFailed | replyCreated | replyOverflown | reply | takeControl | takeData =>
    exact ⟨born, client, wire, intact, server⟩
  | clientSilent action flow moves =>
    exact ⟨born, moves.ordered birth.tasks client, by simpa [moves.sent_eq] using wire, intact, server⟩
  | clientSend action flow frame moves online =>
    refine ⟨born, moves.ordered birth.tasks client, ?_, intact, server⟩
    have sent := payloads_sendUp (fun isData => online (.inl isData))
    simp [moves.sent_eq, sent, wire]
  | clientReceive frame =>
    exact ⟨born, ClientFlow.ordered_receive client frame, (view.client.receive_sent frame).trans wire,
      intact, server⟩
  | clientClose =>
    refine ⟨born, client, ?_, intact, server⟩
    have plain : (Frame.control (.closeFlow f)).isData = true → view.upOpen = true := by simp [Frame.isData]
    simpa [payloads_sendUp plain] using wire
  | shutdown =>
    exact ⟨born, ClientFlow.ordered_removeFlowState client, view.client.removeFlowState_sent.trans wire,
      intact, server⟩
  | serverSilent action flow moves | serverData action flow payload moves
  | serverControl action flow message moves =>
    exact ⟨born, client, moves.received_eq.1 ▸ wire, moves.intact intact, moves.ordered server⟩
  | receiveData crowded payload rest arrived idle =>
    have outcome := ServerFlow.dispatched cfg.tunEnabled view.server payload
    exact uplink.received arrived born outcome.received_eq (outcome.intact intact) (outcome.ordered server)
  | receiveCreate target port rest arrived | refuseCreate target port rest error arrived
  | receiveIgnored crowded message rest arrived =>
    exact uplink.received arrived born (by simp) intact server
  | receiveClose crowded rest arrived idle =>
    exact uplink.received arrived born (by simp [view.server.removeFlow_received])
      (ServerFlow.intact_removeFlow intact) (ServerFlow.ordered_removeFlow server)
  | receiveUpdate crowded n rest arrived idle =>
    obtain ⟨credits, granted⟩ := view.server.grantCredits_eq n
    rw [granted] at born ⊢
    exact uplink.received arrived born (by simp) intact server
  | connected connecting =>
    have fresh := birth.fresh_of_connecting connecting
    rw [fresh] at wire
    exact ⟨born, client, by rw [fresh]; exact wire, .inl (by rw [fresh]; rfl), .inl (by rw [fresh]; rfl)⟩
  | insertFlow spawned =>
    obtain ⟨-, received, enqueued⟩ := birth.unread_of_spawned spawned
    exact ⟨born, client, wire, .inl (enqueued.trans received.symm), server⟩
  | flush data frames flushing => exact absurd flushing (birth.not_flushing _)
  | sessionEnd =>
    exact ⟨born, client, view.server.removeFlow_received.1 ▸ wire, ServerFlow.intact_removeFlow intact,
      ServerFlow.ordered_removeFlow server⟩

end Uplink

/-- What has been written to a flow's target is a leading part of the chunks put on its `local_to_ws` channel. -/
theorem written_isPrefix_put (cfg : Config) (f : FlowId) {actions : List Action} {final : State}
    (reached : Transition.run (step cfg) State.start actions = some final) :
    (final.server f).written <+: (final.client f).put := by
  have uplink : Uplink f (final.view f) :=
    State.run_view (fun _ _ _ holds moves => Uplink.moves holds moves) Uplink.start reached
  exact uplink.written_isPrefix

/-- Two flows whose chunks alternate on the wire; the second flow's writer is behind. -/
def twoFlows : List Action :=
  openFlow 1 ++ openFlow 2 ++ ([.client 1 (.appWrite [1, 2, 3]), .client 2 (.appWrite [4, 5])] : List Action) ++
  sendChunk 1 2 ++ sendChunk 2 1 ++ sendChunk 1 1 ++ sendChunk 2 1 ++ List.replicate 4 (.receiver .receive) ++
  ([.server 2 .writerRecv, .server 1 .writerRecv, .server 1 (.writerWrite 2), .server 2 (.writerWrite 1),
    .server 1 .writerGrant, .server 1 .writerRecv, .server 1 (.writerWrite 1)] : List Action)

theorem twoFlows_written : ∃ final, Transition.run (step roomy) State.start twoFlows = some final ∧
    (final.server 1).written <+: [1, 2, 3] ∧ (final.server 2).written <+: [4, 5] := by
  refine Transition.exists_of_evaluated (p := fun state => (state.client 1).put = [1, 2, 3] ∧
    (state.client 2).put = [4, 5]) (by decide +kernel) fun final reached facts => ?_
  have first := written_isPrefix_put roomy 1 reached
  have second := written_isPrefix_put roomy 2 reached
  exact ⟨facts.1 ▸ first, facts.2 ▸ second⟩

end Rvpn.Mux
