import Rvpn.Mux.QueueBounds

/-! The end of a flow's uplink: the sending loop races the `CloseFlow` of the handle's `Drop`. -/

namespace Rvpn.Mux

/-- The chunk that the relay holds while `local_to_ws` is full. -/
def RelayPhase.chunk : RelayPhase → Bytes
  | .sending chunk => chunk
  | .absent | .idle | .writing _ _ | .granting _ | .done => []

@[simp] theorem chunk_absent : RelayPhase.absent.chunk = [] := rfl

@[simp] theorem chunk_idle : RelayPhase.idle.chunk = [] := rfl

@[simp] theorem chunk_sending (chunk : Bytes) : (RelayPhase.sending chunk).chunk = chunk := rfl

@[simp] theorem chunk_writing (size : Nat) (left : Bytes) : (RelayPhase.writing size left).chunk = [] :=
  rfl

@[simp] theorem chunk_granting (size : Nat) : (RelayPhase.granting size).chunk = [] := rfl

@[simp] theorem chunk_done : RelayPhase.done.chunk = [] := rfl

@[simp] theorem chunk_writeAll (size : Nat) (left : Bytes) :
    (ClientFlow.writeAll size left).chunk = [] := by
  unfold ClientFlow.writeAll
  split <;> rfl

namespace ClientFlow

variable {cfg : Config} {f : FlowId} {flow next : ClientFlow} {action : ClientAction}
  {output : Option Frame}

def Drained (flow : ClientFlow) : Prop :=
  flow.localToWs = [] ∧ (flow.loop = .idle ∨ flow.loop = .exited)

instance (flow : ClientFlow) : Decidable flow.Drained := inferInstanceAs (Decidable (_ ∧ _))

def Finished (flow : ClientFlow) : Prop := flow.relay = .done ∧ flow.Drained

/-- The client loses nothing: what the application wrote is on the channel, with the
relay or still in the socket; the relay returns at the end of the stream only, its handle
is dropped and the loop returns after it, and the credit gate closes after both. -/
structure Keeps (flow : ClientFlow) : Prop where
  read : flow.put ++ flow.relay.chunk ++ flow.appOut = flow.appWritten
  ended : flow.relay = .done → flow.appOut = [] ∧ flow.appClosed = true
  dropped : flow.closing = true → flow.relay = .done
  exited : flow.loop = .exited → flow.relay = .done ∧ flow.localToWs = [] ∧ flow.put = flow.sent
  unstalled : flow.loop ≠ .stalled
  gate : flow.phase = .running ∧ flow.registered = false ∨ flow.credits.closed = true → flow.Finished

theorem Keeps.not_closed (keeps : flow.Keeps)
    (busy : flow.relay ≠ .done ∨ flow.localToWs ≠ [] ∨ flow.loop ≠ .idle ∧ flow.loop ≠ .exited)
    (closed : flow.phase = .running ∧ flow.registered = false ∨ flow.credits.closed = true) : False := by
  obtain ⟨done, empty, at_rest⟩ := keeps.gate closed
  rcases busy with busy | busy | ⟨busy, busy'⟩
  · exact busy done
  · exact busy empty
  · exact at_rest.elim busy busy'

/-- A relay that has not returned keeps its handle and the loop. -/
theorem Keeps.ofRelay (keeps : flow.Keeps) (working : flow.relay ≠ .done) (still : next.relay ≠ .done)
    (read : next.put ++ next.relay.chunk ++ next.appOut = next.appWritten)
    (same : next.closing = flow.closing ∧ next.loop = flow.loop ∧ next.phase = flow.phase ∧
      next.registered = flow.registered ∧ next.credits = flow.credits) : next.Keeps := by
  obtain ⟨closing, loop, phase, registered, credits⟩ := same
  refine ⟨read, fun done => absurd done still, ?_, ?_, loop ▸ keeps.unstalled, ?_⟩
  · rw [closing]
    exact fun dropping => absurd (keeps.dropped dropping) working
  · rw [loop]
    exact fun gone => absurd (keeps.exited gone).1 working
  · rw [phase, registered, credits]
    exact fun closed => (keeps.not_closed (.inl working) closed).elim

theorem writeAll_ne_done (size : Nat) (left : Bytes) : writeAll size left ≠ .done := by
  unfold writeAll
  split <;> simp

theorem resume_ne_gone (rest : Bytes) : resume rest ≠ .stalled ∧ resume rest ≠ .exited := by
  unfold resume
  split <;> simp

theorem Keeps.sent_eq (keeps : flow.Keeps) (ordered : flow.Ordered) (finished : flow.Finished) :
    flow.sent = flow.appWritten ∧ flow.appClosed = true := by
  obtain ⟨done, empty, at_rest⟩ := finished
  have ⟨drained, closed⟩ := keeps.ended done
  have put : flow.put = flow.appWritten := by
    have read := keeps.read
    rw [done, drained] at read
    simpa using read
  have sent : flow.put = flow.sent := by
    rcases at_rest with idle | exited
    · simpa [idle, empty] using ordered.whole (by simp [idle])
    · exact (keeps.exited exited).2.2
  exact ⟨sent.symm.trans put, closed⟩

theorem Moves.keeps (moves : Moves cfg f flow action next output) (tasks : flow.TasksAfterOpen)
    (ordered : flow.Ordered) (keeps : flow.Keeps)
    (steady : action ≠ .relayFail ∧ action ≠ .loopStall ∧ action ≠ .loopFail) : next.Keeps := by
  have read := keeps.read
  cases moves with
  | create target port allocated =>
    refine { keeps with gate := ?_ }
    rintro (⟨running, -⟩ | closed)
    · cases running
    · exact keeps.gate (.inr closed)
  | register created =>
    have absent := tasks (by simp [created])
    refine ⟨?_, by simp, by simp [absent.2.2.2], by simp, by simp, by simp⟩
    simpa [absent.2.2.1] using read
  | appWrite bytes unclosed =>
    refine { keeps with read := ?_, ended := ?_ }
    · simp [← read, List.append_assoc]
    · intro done
      have closed := (keeps.ended done).2
      simp [unclosed] at closed
  | appClose => exact { keeps with ended := fun done => ⟨(keeps.ended done).1, rfl⟩ }
  | appRead n => exact { keeps with }
  | relayRead n idle =>
    exact keeps.ofRelay (by simp [idle]) (by simp) (by simpa [idle] using read) ⟨rfl, rfl, rfl, rfl, rfl⟩
  | relayEof idle drained closed =>
    have working : flow.relay ≠ .done := by simp [idle]
    refine { keeps with
      read := ?_, ended := fun _ => ⟨drained, closed⟩, dropped := fun _ => rfl
      exited := fun gone => absurd (keeps.exited gone).1 working
      gate := fun closed => (keeps.not_closed (.inl working) closed).elim }
    simpa [idle, finishRelay] using read
  | relaySend chunk sending alive =>
    exact keeps.ofRelay (by simp [sending]) (by simp) (by simpa [sending] using read) ⟨rfl, rfl, rfl, rfl, rfl⟩
  | relaySendClosed sending gone =>
    obtain ⟨chunk, sending⟩ := sending
    have done := (keeps.exited gone).1
    simp [sending] at done
  | relayRecv data rest idle =>
    exact keeps.ofRelay (by simp [idle]) (writeAll_ne_done _ _) (by simpa [idle] using read) ⟨rfl, rfl, rfl, rfl, rfl⟩
  | relayClosed idle drained removed =>
    have running : flow.phase = .running := by
      by_contra early
      have absent := (tasks early).2.2.1
      simp [idle] at absent
    exact (keeps.not_closed (.inl (by simp [idle])) (.inl ⟨running, removed⟩)).elim
  | relayWrite n size left writing =>
    exact keeps.ofRelay (by simp [writing]) (writeAll_ne_done _ _) (by simpa [writing] using read)
      ⟨rfl, rfl, rfl, rfl, rfl⟩
  | relayGrant size granting =>
    exact keeps.ofRelay (by simp [granting]) (by simp) (by simpa [granting] using read) ⟨rfl, rfl, rfl, rfl, rfl⟩
  | loopRecv data rest idle waiting =>
    have working : flow.localToWs ≠ [] := by simp [waiting]
    exact { keeps with
      exited := fun gone => absurd gone (resume_ne_gone _).2, unstalled := (resume_ne_gone _).1
      gate := fun closed => (keeps.not_closed (.inr (.inl working)) closed).elim }
  | loopPark _ busy | loopConsume _ busy | loopWake _ busy =>
    have working : flow.loop ≠ .idle ∧ flow.loop ≠ .exited := by simp [busy]
    exact { keeps with
      exited := by simp, unstalled := by simp, gate := fun closed => (keeps.not_closed (.inr (.inr working)) closed).elim }
  | loopWakeClosed parked closed =>
    obtain ⟨data, parked⟩ := parked
    exact (keeps.not_closed (.inr (.inr (by simp [parked]))) (.inr closed)).elim
  | loopClose stalled => exact absurd stalled keeps.unstalled
  | loopSend frame rest sending =>
    have working : flow.loop ≠ .idle ∧ flow.loop ≠ .exited := by simp [sending]
    exact { keeps with
      exited := fun gone => absurd gone (resume_ne_gone _).2, unstalled := (resume_ne_gone _).1
      gate := fun closed => (keeps.not_closed (.inr (.inr working)) closed).elim }
  | loopEnd idle drained done =>
    have whole := ordered.whole (by simp [idle])
    refine { keeps with
      exited := fun _ => ⟨done, drained, ?_⟩, unstalled := by simp, gate := fun _ => ⟨done, drained, .inr rfl⟩ }
    simpa [idle, drained] using whole
  | dropClose => exact { keeps with dropped := by simp }
  | relayFail => exact absurd rfl steady.1
  | loopStall => exact absurd rfl steady.2.1
  | loopFail => exact absurd rfl steady.2.2

theorem Moves.finished (moves : Moves cfg f flow action next output) (tasks : flow.TasksAfterOpen)
    (finished : flow.Finished) :
    next.Finished ∧ ∀ frame, output = some frame → frame.isData = false := by
  obtain ⟨done, empty, at_rest⟩ := finished
  cases moves with
  | create _ _ early | register early =>
    have absent := (tasks (by simp [early])).2.2.1
    simp [done] at absent
  | dropClose =>
    refine ⟨⟨done, empty, at_rest⟩, ?_⟩
    rintro frame sent
    cases sent
    rfl
  | loopEnd => exact ⟨⟨done, empty, .inr rfl⟩, by simp⟩
  | appWrite | appClose | appRead => exact ⟨⟨done, empty, at_rest⟩, by simp⟩
  | loopStall parked | loopWakeClosed parked =>
    obtain ⟨data, parked⟩ := parked
    simp [parked] at at_rest
  | loopFail sending =>
    obtain ⟨frame, rest, sending⟩ := sending
    simp [sending] at at_rest
  | relaySendClosed sending =>
    simp [done] at sending
  | _ => simp_all

theorem finished_removeFlowState (flow : ClientFlow) : flow.removeFlowState.Finished ↔ flow.Finished := by
  unfold removeFlowState
  split <;> exact Iff.rfl

theorem finished_receive (flow : ClientFlow) (frame : Frame) :
    (flow.receive frame).1.Finished ↔ flow.Finished := by
  have receives := flow.receives frame
  generalize (flow.receive frame).1 = next at receives
  cases receives with
  | unregister => exact finished_removeFlowState flow
  | _ => exact Iff.rfl

theorem Keeps.removeFlowState (keeps : flow.Keeps) (finished : flow.Finished) :
    flow.removeFlowState.Keeps := by
  unfold ClientFlow.removeFlowState
  split
  · exact { keeps with gate := fun _ => finished }
  · exact keeps

theorem Keeps.receive (keeps : flow.Keeps) (benign : frame.endsFlow = false)
    (drained : frame.isData = true → flow.registered = true → flow.relay = .done → flow.Drained) :
    (flow.receive frame).1.Keeps ∧ ((flow.receive frame).2 = true → flow.Finished) := by
  cases frame with
  | data g payload =>
    simp only [ClientFlow.receive, dispatchDataFrame]
    split
    · exact ⟨keeps, by simp⟩
    · rename_i registered
      split
      · rename_i done
        have finished : flow.Finished := ⟨done, drained rfl (by simpa using registered) done⟩
        exact ⟨keeps.removeFlowState finished, fun _ => finished⟩
      · split <;> exact ⟨{ keeps with }, by simp⟩
  | control message =>
    cases message with
    | closeFlow g => cases benign
    | flowFailed g error => cases benign
    | windowUpdate g n =>
      simp only [ClientFlow.receive, handleControlMessage, grantCredits]
      split <;> exact ⟨{ keeps with }, by simp⟩
    | _ => exact ⟨keeps, by simp [ClientFlow.receive]⟩

end ClientFlow

namespace ServerFlow

variable {cfg : Config} {f : FlowId} {flow next : ServerFlow} {action : ServerAction}
  {output : Option ServerOutput}

def Flushed (flow : ServerFlow) : Prop := flow.queue.flatten = [] ∧ flow.writer.left = []

instance (flow : ServerFlow) : Decidable flow.Flushed := inferInstanceAs (Decidable (_ ∧ _))

/-- Nothing more will be written: the flow is taken out, its writer aborted or returned. -/
def Over (flow : ServerFlow) : Prop :=
  flow.entry = .removed ∨ flow.writerAborted = true ∨ flow.writer = .done

def Steady (flow : ServerFlow) : Prop :=
  flow.relay ≠ .removing ∧ flow.relay ≠ .closing ∧ flow.writer ≠ .failed ∧ flow.writer ≠ .closing

def givesUp : List ServerAction := [.writerFail, .relayStall, .relayEof, .relayError]

theorem writeAll_ne (size : Nat) (left : Bytes) :
    writeAll size left ≠ .failed ∧ writeAll size left ≠ .closing ∧ writeAll size left ≠ .done := by
  unfold writeAll
  split <;> simp

theorem Moves.steady (moves : Moves cfg f flow action next output) (steady : flow.Steady)
    (kept : action ∉ givesUp) : next.Steady := by
  have ⟨unremoving, unclosing, unfailed, unclosed⟩ := steady
  cases moves with
  | writerRecv | writerWrite => exact ⟨unremoving, unclosing, (writeAll_ne _ _).1, (writeAll_ne _ _).2.1⟩
  | writerFail | relayStall | relayEof | relayError => exact absurd (by simp [givesUp]) kept
  | relayGate | relayWake => exact ⟨by simp [readPhase], by simp [readPhase], unfailed, unclosed⟩
  | _ => simp_all [Steady]

theorem Moves.benign (moves : Moves cfg f flow action next (some (.control message))) (steady : flow.Steady) :
    message.endsFlow = false := by
  cases moves with
  | writerGrant => rfl
  | writerClose closing => exact absurd closing steady.2.2.2
  | relayClose closing => exact absurd closing steady.2.1

theorem Over.of_ne_done (stopped : next.Over) (entry : next.entry = flow.entry)
    (aborted : next.writerAborted = flow.writerAborted) (working : next.writer ≠ .done) : flow.Over := by
  rcases stopped with removed | cancelled | done
  · exact .inl (entry.symm.trans removed)
  · exact .inr (.inl (aborted.symm.trans cancelled))
  · exact absurd done working

theorem Moves.of_over (moves : Moves cfg f flow action next output) (steady : flow.Steady)
    (stopped : next.Over) : flow.Over := by
  cases moves with
  | writerRecv | writerWrite => exact stopped.of_ne_done rfl rfl (writeAll_ne _ _).2.2
  | writerFail => exact stopped.of_ne_done rfl rfl (by simp)
  | writerRemove failed | writerQuit failed => exact absurd failed steady.2.2.1
  | writerClose closing => exact absurd closing steady.2.2.2
  | relayRemove removing => exact absurd removing steady.1
  | _ => simp_all [Over]

theorem Moves.flushed (moves : Moves cfg f flow action next output) (flushed : flow.Flushed) :
    next.Flushed ∧ next.written = flow.written := by
  have ⟨empty, left⟩ := flushed
  cases moves with
  | writerRecv data rest idle waiting =>
    rw [waiting, List.flatten_cons, List.append_eq_nil_iff] at empty
    exact ⟨⟨empty.2, by simpa using empty.1⟩, rfl⟩
  | writerWrite n size left' writing =>
    obtain rfl : left' = [] := by simpa [writing] using left
    exact ⟨⟨empty, by simp⟩, by simp⟩
  | writerFail | writerGrant | writerRemove | writerQuit | writerClose | writerEnd | writerCancel =>
    exact ⟨⟨empty, rfl⟩, rfl⟩
  | _ => exact ⟨⟨empty, left⟩, rfl⟩

end ServerFlow

namespace FlowView

/-- The moves that tear a flow down for a reason other than the application's half-close:
the flow is not set up, the transport or the session fails, the local socket fails, a
credit gate stalls, the target fails or closes its side. -/
def uplinkTeardowns : List FlowAction :=
  [.connectFailed, .shutdown, .upFail, .sessionEnd, .client .relayFail, .client .loopStall] ++
    ServerFlow.givesUp.map .server

/-- The half-close reaches the server after all data: the handle's `CloseFlow`, and the one for a returned relay, go
out with nothing left to send; the server takes a `CloseFlow` with nothing left to write and a data frame with room in
the queue; and nothing else tears the flow down. -/
def ClosesOrderly (view : FlowView) (move : FlowAction) : Prop :=
  (move = .client .dropClose → view.client.Drained) ∧
  (move = .clientReceive → view.down.head?.any Frame.isData = true → view.client.registered = true →
    view.client.relay = .done → view.client.Drained) ∧
  (∀ crowded, move = .receive crowded →
    (view.up.head?.any Frame.isCreate = true → crowded = false) ∧
    (view.up.head?.any Frame.isClose = true → view.server.Flushed) ∧
    (view.up.head?.any Frame.isData = true → view.server.queue.length < flowUplinkQueueCap)) ∧
  move ∉ uplinkTeardowns

instance (view : FlowView) : DecidablePred view.ClosesOrderly :=
  fun _ => inferInstanceAs (Decidable (_ ∧ _ ∧ _ ∧ _))

end FlowView

/-- The uplink of a flow whose close is orderly: nothing is lost at either end, no message
that ends the flow is under way to the client, and a `CloseFlow` on its way to the server,
or handled there, has all data before it. -/
structure Parting (f : FlowId) (view : FlowView) : Prop where
  uplink : Uplink f view
  online : view.upOpen = true
  keeps : view.client.Keeps
  steady : view.server.Steady
  benign : (∀ message ∈ view.control, message.endsFlow = false) ∧ ∀ frame ∈ view.down, frame.endsFlow = false
  calm : view.rx = .idle ∨ view.rx = .connecting f ∨ view.rx = .spawned f ∨ view.rx = .created f
  present : view.server.entry = .absent → view.client.phase = .unopened ∨ view.client.phase = .allocated ∨
    (∃ frame ∈ view.up, frame.isCreate = true) ∨ view.rx = .connecting f ∨ view.rx = .spawned f
  accepted : view.server.enqueued = view.server.received
  farewell : (view.closing = true ∨ ∃ frame ∈ view.up, frame.isClose = true) → view.client.Finished
  last : NoDataAfter Frame.isClose view.up
  parted : view.server.Over → view.client.Finished ∧ payloads view.up = [] ∧ view.server.Flushed ∧
    view.server.written = view.server.received

namespace Parting

variable {cfg : Config} {f : FlowId} {view next : FlowView} {move : FlowAction}

theorem start : Parting f .start where
  uplink := .start
  online := rfl
  keeps := ⟨rfl, by simp [FlowView.start, ClientFlow.fresh], by simp [FlowView.start, ClientFlow.fresh],
    by simp [FlowView.start, ClientFlow.fresh], by simp [FlowView.start, ClientFlow.fresh],
    by simp [FlowView.start, ClientFlow.fresh]⟩
  steady := by simp [FlowView.start, ServerFlow.Steady, ServerFlow.fresh]
  benign := by simp [FlowView.start]
  calm := .inl rfl
  present := fun _ => .inl rfl
  accepted := rfl
  farewell := by simp [FlowView.start]
  last := trivial
  parted := by simp [FlowView.start, ServerFlow.Over, ServerFlow.fresh]

theorem written_eq (parting : Parting f view) (stopped : view.server.Over) :
    view.server.written = view.client.appWritten ∧ view.client.appClosed = true := by
  obtain ⟨finished, silent, -, written⟩ := parting.parted stopped
  have ⟨sent, closed⟩ := parting.keeps.sent_eq parting.uplink.client finished
  have wire := parting.uplink.wire
  rw [silent, List.append_nil] at wire
  exact ⟨written.trans (wire.symm.trans sent), closed⟩

theorem sendUp_eq (parting : Parting f view) (frame : Frame) : view.sendUp frame = view.up ++ [frame] := by
  simp [FlowView.sendUp, parting.online]

theorem clientSend (parting : Parting f view) (orderly : view.ClosesOrderly (.client action))
    (moves : view.client.Moves cfg f action flow (some frame))
    (uplink : Uplink f { view with client := flow, up := view.sendUp frame }) :
    Parting f { view with client := flow, up := view.sendUp frame } := by
  have tasks := parting.uplink.born.tasks
  have safe : action ≠ .relayFail ∧ action ≠ .loopStall ∧ action ≠ .loopFail := by
    refine ⟨?_, ?_, ?_⟩ <;> rintro rfl <;> cases moves
  have kept : view.client.Finished → flow.Finished ∧ frame.payload = [] := by
    intro finished
    have ⟨still, plain⟩ := moves.finished tasks finished
    refine ⟨still, ?_⟩
    cases frame with
    | control message => rfl
    | data g payload => exact absurd (plain _ rfl) (by simp [Frame.isData])
  rw [parting.sendUp_eq frame] at uplink ⊢
  have keeps := moves.keeps tasks parting.uplink.client parting.keeps safe
  refine { parting with uplink, keeps, present := ?_, farewell := ?_, last := ?_, parted := ?_ }
  · intro absent
    by_cases running : view.client.phase = .running
    · rcases parting.present absent with early | early | ⟨other, member, create⟩ | serving
      · simp [running] at early
      · simp [running] at early
      · exact .inr (.inr (.inl ⟨other, by simp [member], create⟩))
      · exact .inr (.inr (.inr serving))
    · obtain ⟨-, -, target, port, rfl⟩ := moves.early_output tasks running
      exact .inr (.inr (.inl ⟨_, List.mem_append_right _ List.mem_cons_self, rfl⟩))
  · intro leaving
    by_cases before : view.closing = true ∨ ∃ other ∈ view.up, other.isClose = true
    · exact (kept (parting.farewell before)).1
    · have new : frame.isClose = true := by
        rcases leaving with closing | ⟨other, member, close⟩
        · exact absurd (.inl closing) before
        · rcases List.mem_append.mp member with old | new
          · exact absurd (.inr ⟨other, old, close⟩) before
          · rwa [List.mem_singleton.mp new] at close
      cases moves with
      | dropClose dropping => exact ⟨parting.keeps.dropped dropping, orderly.1 rfl⟩
      | loopClose stalled => exact absurd stalled parting.keeps.unstalled
      | _ => cases new
  · exact parting.last.append fun closes => (kept (parting.farewell (.inr closes))).2
  · intro stopped
    obtain ⟨finished, silent, flushed, written⟩ := parting.parted stopped
    exact ⟨(kept finished).1, by simp [silent, (kept finished).2], flushed, written⟩

theorem serverMoves {action : ServerAction} {flow : ServerFlow} {output : Option ServerOutput}
    {tx : List Bytes} {control : List ControlMessage} (parting : Parting f view)
    (kept : .server action ∉ FlowView.uplinkTeardowns)
    (moves : view.server.Moves cfg f action flow output)
    (harmless : ∀ message ∈ control, message.endsFlow = false)
    (uplink : Uplink f { view with server := flow, tx, control }) :
    Parting f { view with server := flow, tx, control } := by
  obtain ⟨received, enqueued, -⟩ := moves.received_eq
  have steady := moves.steady parting.steady (by simpa [FlowView.uplinkTeardowns] using kept)
  refine { parting with uplink, steady, benign := ⟨harmless, parting.benign.2⟩, present := ?_, accepted := ?_, parted := ?_ }
  · intro absent
    refine parting.present ?_
    cases moves <;> first | exact absent | cases absent
  · exact enqueued.trans (parting.accepted.trans received.symm)
  · intro stopped
    have ⟨finished, silent, flushed, written⟩ := parting.parted (moves.of_over parting.steady stopped)
    have ⟨still, same⟩ := moves.flushed flushed
    exact ⟨finished, silent, still, same.trans (written.trans received.symm)⟩

theorem rest {frame : Frame} {rest : List Frame} (parting : Parting f view)
    (arrived : view.up = frame :: rest) :
    ((view.closing = true ∨ ∃ other ∈ rest, other.isClose = true) → view.client.Finished) ∧
    NoDataAfter Frame.isClose rest ∧ (view.server.Over → view.client.Finished ∧ payloads rest = [] ∧
      view.server.Flushed ∧ view.server.written = view.server.received) := by
  have last := parting.last
  rw [arrived] at last
  refine ⟨?_, last.2, ?_⟩
  · rintro (closing | ⟨other, member, close⟩)
    · exact parting.farewell (.inl closing)
    · exact parting.farewell (.inr ⟨other, by simp [arrived, member], close⟩)
  · intro stopped
    obtain ⟨finished, silent, written⟩ := parting.parted stopped
    rw [arrived, payloads_cons] at silent
    exact ⟨finished, (List.append_eq_nil_iff.mp silent).2, written⟩

theorem removed_of_ne {entry : MapEntry} (there : entry ≠ .absent) (out : entry ≠ .inserted) :
    entry = .removed := by
  cases entry <;> simp_all

theorem uplink_whole (parting : Parting f view) (working : view.server.writer ≠ .done) :
    view.server.enqueued =
      view.server.written ++ view.server.writer.left ++ view.server.queue.flatten :=
  parting.uplink.server.whole ⟨parting.steady.2.2.1, parting.steady.2.2.2, working⟩

/-- The flow of a frame after its `CreateFlow` has been put into the map. -/
theorem entry_ne_absent {frame : Frame} {rest : List Frame} (parting : Parting f view)
    (arrived : view.up = frame :: rest) (idle : view.rx = .idle) (plain : frame.isCreate = false) :
    view.server.entry ≠ .absent := by
  intro absent
  have ⟨late, once, _⟩ := parting.uplink.born.life.of_arrived arrived idle
  rcases parting.present absent with early | early | ⟨other, member, create⟩ | serving
  · simp [early] at late
  · simp [early] at late
  · rw [arrived] at member
    rcases List.mem_cons.mp member with rfl | member
    · simp [plain] at create
    · simp [once other member] at create
  · simp [idle] at serving

theorem receiveData {payload : Bytes} {rest : List Frame} {server : ServerFlow} {overflown : Bool}
    (parting : Parting f view) (arrived : view.up = .data f payload :: rest) (idle : view.rx = .idle)
    (room : view.server.queue.length < flowUplinkQueueCap)
    (outcome : view.server.Dispatched cfg.tunEnabled payload server overflown)
    (uplink : Uplink f { view with server, up := rest, rx := afterData f [] overflown }) :
    Parting f { view with server, up := rest, rx := afterData f [] overflown } := by
  have ⟨farewell, last, parted⟩ := parting.rest arrived
  have empty : view.server.Over → payload = [] := by
    intro stopped
    have silent := (parting.parted stopped).2.1
    rw [arrived, payloads_cons] at silent
    exact (List.append_eq_nil_iff.mp silent).1
  cases outcome with
  | overflown inserted working full => exact absurd room (Nat.not_lt_of_le full)
  | refused inserted done =>
    have nothing := empty (.inr (.inr done))
    subst nothing
    simp only [List.append_nil] at uplink ⊢
    exact { parting with uplink, calm := .inl rfl, present := by simp [inserted], farewell, last, parted }
  | queued inserted working =>
    refine { parting with
      uplink, calm := .inl rfl, present := by simp [inserted], accepted := ?_, farewell, last, parted := ?_ }
    · simp [parting.accepted]
    · intro stopped
      have ⟨finished, silent, flushed, written⟩ := parted stopped
      refine ⟨finished, silent, ?_, by simp [empty stopped, written]⟩
      exact ⟨by simpa [empty stopped] using flushed.1, flushed.2⟩
  | tunneled out | buffered out =>
    have there := parting.entry_ne_absent arrived idle rfl
    have nothing := empty (.inl (removed_of_ne there out))
    subst nothing
    simp only [List.append_nil] at uplink ⊢
    exact { parting with uplink, calm := .inl rfl, present := fun absent => absurd absent there, farewell, last, parted }

theorem receiveClose {rest : List Frame} (parting : Parting f view)
    (arrived : view.up = .control (.closeFlow f) :: rest) (idle : view.rx = .idle)
    (flushed : view.server.Flushed)
    (uplink : Uplink f { view with server := view.server.removeFlow, up := rest }) :
    Parting f { view with server := view.server.removeFlow, up := rest } := by
  obtain ⟨farewell, last, -⟩ := parting.rest arrived
  have there := parting.entry_ne_absent arrived idle rfl
  have finished : view.client.Finished := parting.farewell (.inr ⟨.control (.closeFlow f), by simp [arrived], rfl⟩)
  have silent : payloads rest = [] := by
    have last := parting.last
    rw [arrived] at last
    exact last.1 rfl
  have written : view.server.written = view.server.received := by
    by_cases done : view.server.writer = .done
    · exact (parting.parted (.inr (.inr done))).2.2.2
    · have whole := uplink_whole parting done
      rw [flushed.1, flushed.2, List.append_nil, List.append_nil] at whole
      exact whole.symm.trans parting.accepted
  have same : view.server.removeFlow.Flushed ∧ view.server.removeFlow.Steady ∧
      view.server.removeFlow.written = view.server.written ∧ view.server.removeFlow.entry ≠ .absent := by
    unfold ServerFlow.removeFlow
    split
    · exact ⟨flushed, parting.steady, rfl, by simp⟩
    · exact ⟨flushed, parting.steady, rfl, there⟩
  have ⟨received, enqueued, _⟩ := view.server.removeFlow_received
  exact { parting with
    uplink, steady := same.2.1, present := fun absent => absurd absent same.2.2.2
    accepted := enqueued.trans (parting.accepted.trans received.symm), farewell, last
    parted := fun _ => ⟨finished, silent, same.1, same.2.2.1.trans (written.trans received.symm)⟩ }

theorem moves (parting : Parting f view) (orderly : view.ClosesOrderly move)
    (moves : FlowMoves cfg f view move next) : Parting f next := by
  have uplink := parting.uplink.moves moves
  have ⟨_, dispatched, taken, kept⟩ := orderly
  have tasks := parting.uplink.born.tasks
  cases moves with
  | allocate unopened =>
    refine { parting with uplink, keeps := { parting.keeps with gate := ?_ }, present := fun _ => .inr (.inl rfl) }
    rintro (⟨running, -⟩ | closed)
    · cases running
    · exact parting.keeps.gate (.inr closed)
  | clientSilent action flow moves offline =>
    have safe : action ≠ .relayFail ∧ action ≠ .loopStall ∧ action ≠ .loopFail := by
      refine ⟨?_, ?_, ?_⟩ <;> rintro rfl
      · exact kept (by simp [FlowView.uplinkTeardowns])
      · exact kept (by simp [FlowView.uplinkTeardowns])
      · simp [parting.online] at offline
    have still : view.client.Finished → flow.Finished := fun finished => (moves.finished tasks finished).1
    refine { parting with
      uplink, keeps := moves.keeps tasks parting.uplink.client parting.keeps safe, present := ?_
      farewell := fun leaving => still (parting.farewell leaving)
      parted := fun stopped => (parting.parted stopped).imp_left still }
    intro absent
    rcases parting.present absent with early | early | rest
    · exact (moves.phase_silent.1 (.inl early)).imp_right .inl
    · exact (moves.phase_silent.1 (.inr early)).imp_right .inl
    · exact .inr (.inr rest)
  | clientSend action flow frame moves => exact parting.clientSend orderly moves uplink
  | clientReceive frame rest arrived ready =>
    have harmless : frame.endsFlow = false := parting.benign.2 frame (by simp [arrived])
    obtain ⟨keeps, closing⟩ := parting.keeps.receive harmless fun isData =>
      dispatched rfl (by simpa [arrived] using isData)
    have still : view.client.Finished → (view.client.receive frame).1.Finished :=
      (view.client.finished_receive frame).mpr
    refine { parting with
      uplink, keeps, benign := parting.benign.imp_right fun harmless other member => harmless other (by simp [arrived, member])
      present := ?_, farewell := ?_, parted := fun stopped => (parting.parted stopped).imp_left still }
    · simpa only [view.client.phase_receive frame] using parting.present
    · rintro (flag | closes)
      · exact still (closing flag)
      · exact still (parting.farewell (.inr closes))
  | clientClose closing =>
    have finished := parting.farewell (.inl closing)
    rw [parting.sendUp_eq] at uplink ⊢
    refine { parting with
      uplink, present := fun absent => ?_, farewell := fun _ => finished
      last := parting.last.append fun _ => rfl
      parted := fun stopped => ⟨finished, ?_, (parting.parted stopped).2.2⟩ }
    · refine (parting.present absent).imp_right (.imp_right (.imp_left ?_))
      rintro ⟨other, member, create⟩
      exact ⟨other, by simp [member], create⟩
    · simpa using (parting.parted stopped).2.1
  | shutdown | upFail | sessionEnd | connectFailed => exact absurd (by simp [FlowView.uplinkTeardowns]) kept
  | serverSilent action flow moves | serverData action flow payload moves =>
    exact parting.serverMoves kept moves parting.benign.1 uplink
  | serverControl action flow message moves =>
    refine parting.serverMoves kept moves ?_ uplink
    exact List.forall_mem_append.mpr
      ⟨parting.benign.1, List.forall_mem_singleton.mpr (moves.benign parting.steady)⟩
  | receiveData crowded payload rest arrived idle =>
    have room := (taken crowded rfl).2.2 (by simp [arrived, Frame.isData])
    exact parting.receiveData arrived idle room (view.server.dispatched cfg.tunEnabled payload) uplink
  | receiveCreate target port rest arrived idle =>
    obtain ⟨farewell, last, parted⟩ := parting.rest arrived
    exact { parting with
      uplink, calm := .inr (.inl rfl), present := fun _ => .inr (.inr (.inr (.inl rfl))), farewell, last, parted }
  | refuseCreate target port rest error arrived idle =>
    have uncrowded := (taken true rfl).1 (by simp [arrived, Frame.isCreate])
    cases uncrowded
  | receiveClose crowded rest arrived idle =>
    exact parting.receiveClose arrived idle ((taken crowded rfl).2.1 (by simp [arrived, Frame.isClose])) uplink
  | receiveUpdate crowded n rest arrived idle =>
    obtain ⟨farewell, last, parted⟩ := parting.rest arrived
    have there := parting.entry_ne_absent arrived idle rfl
    obtain ⟨credits, granted⟩ := view.server.grantCredits_eq n
    rw [granted] at uplink ⊢
    exact { parting with uplink, present := fun absent => absurd absent there, farewell, last, parted }
  | receiveIgnored crowded message rest arrived idle ignored =>
    obtain ⟨farewell, last, parted⟩ := parting.rest arrived
    have plain : (Frame.control message).isCreate = false := by
      obtain ⟨g, ⟨port, rfl⟩ | ⟨error, rfl⟩⟩ := ignored <;> rfl
    have there := parting.entry_ne_absent arrived idle plain
    exact { parting with uplink, present := fun absent => absurd absent there, farewell, last, parted }
  | connected connecting =>
    exact { parting with
      uplink, steady := by simp [ServerFlow.Steady, ServerFlow.spawn], calm := .inr (.inr (.inl rfl))
      present := fun _ => .inr (.inr (.inr (.inr rfl))), parted := by simp [ServerFlow.Over, ServerFlow.spawn] }
  | insertFlow spawned =>
    refine { parting with
      uplink, calm := .inr (.inr (.inr rfl)), present := by simp [ServerFlow.insert], parted := ?_ }
    rintro (removed | rest)
    · simp [ServerFlow.insert] at removed
    · exact parting.parted (.inr rest)
  | replyCreated created =>
    have nothing := parting.uplink.born.pending_of_created created
    refine { parting with
      uplink, benign := parting.benign.imp_left fun harmless => ?_, calm := .inl (by simp [nothing, flushNext])
      present := fun absent => ?_ }
    · exact List.forall_mem_append.mpr ⟨harmless, List.forall_mem_singleton.mpr rfl⟩
    · refine (parting.present absent).imp_right (.imp_right (.imp_right fun serving => ?_))
      simp [created] at serving
  | replyOverflown _ busy | reply _ busy | flush _ _ busy =>
    have calm := parting.calm
    simp [busy] at calm
  | takeControl message rest waiting =>
    obtain ⟨control, down⟩ := parting.benign
    rw [waiting] at control
    obtain ⟨harmless, control⟩ := List.forall_mem_cons.mp control
    exact { parting with
      uplink, benign := ⟨control, List.forall_mem_append.mpr ⟨down, List.forall_mem_singleton.mpr harmless⟩⟩ }
  | takeData payload rest waiting =>
    refine { parting with uplink, benign := parting.benign.imp_right fun harmless => ?_ }
    exact List.forall_mem_append.mpr ⟨harmless, List.forall_mem_singleton.mpr rfl⟩

end Parting

/-- If the flow's close is orderly, once nothing more will be written to the target, exactly what the application
wrote has been written. -/
theorem written_eq_of_orderly_close (cfg : Config) (f : FlowId) {actions : List Action} {final : State}
    (orderly : Transition.Meets (step cfg) (State.Guarded f FlowView.ClosesOrderly) State.start actions)
    (reached : Transition.run (step cfg) State.start actions = some final)
    (stopped : (final.server f).Over) :
    (final.server f).written = (final.client f).appWritten ∧ (final.client f).appClosed = true := by
  have parting : Parting f (final.view f) :=
    State.run_view_of_guarded (fun _ _ _ holds orderly moves => Parting.moves holds orderly moves)
      Parting.start orderly reached
  exact parting.written_eq stopped

/-- The application writes two bytes and half-closes; the sending loop is done before the `CloseFlow` goes out, and
the writer before it arrives. -/
def orderlyClose : List Action :=
  openFlow 1 ++ ([.client 1 (.appWrite [1, 2]), .client 1 .appClose] : List Action) ++ sendChunk 1 2 ++
  ([.client 1 .relayEof, .client 1 .loopEnd, .receiver .receive, .server 1 .writerRecv,
    .server 1 (.writerWrite 2), .server 1 .writerGrant, .client 1 .dropClose, .receiver .receive,
    .server 1 .writerCancel] : List Action)

theorem orderlyClose_written : ∃ final,
    Transition.run (step roomy) State.start orderlyClose = some final ∧
      (final.server 1).written = [1, 2] ∧ (final.client 1).appClosed = true := by
  refine Transition.exists_of_evaluated (p := fun state => (state.server 1).writer = .done ∧
    (state.client 1).appWritten = [1, 2]) (by decide +kernel) fun final reached facts => ?_
  have whole := written_eq_of_orderly_close roomy 1 (by decide +kernel) reached (.inr (.inr facts.1))
  exact ⟨whole.1.trans facts.2, whole.2⟩

/-- With the handle's `CloseFlow` ahead of the sending loop, the server takes the flow out before its data arrives,
and nothing is ever written. -/
def hastyClose : List Action :=
  openFlow 1 ++ ([.client 1 (.appWrite [1, 2]), .client 1 .appClose, .client 1 (.relayRead 2),
    .client 1 .relaySend, .client 1 .relayEof, .client 1 .dropClose, .client 1 .loopRecv,
    .client 1 .loopConsume, .client 1 .loopSend, .client 1 .loopEnd, .receiver .receive,
    .server 1 .writerCancel, .server 1 .relayCancel, .receiver .receive] : List Action)

theorem hastyClose_loses_data :
    (Transition.run (step roomy) State.start hastyClose).map
      (fun state => ((state.client 1).appWritten, (state.client 1).sent, state.upWire,
        (state.server 1).writer, (state.server 1).written)) =
      some ([1, 2], [1, 2], [], .done, []) := by
  decide +kernel

end Rvpn.Mux
