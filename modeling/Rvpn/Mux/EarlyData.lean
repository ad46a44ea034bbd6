import Rvpn.Mux.UplinkOrder

/-! Data frames that arrive before the `CreateFlow` of their flow, from a client that sends what it likes. -/

namespace Rvpn.Mux

/-- The frames the receive loop still has to flush. -/
def ReceiverPhase.unflushed : ReceiverPhase → List Bytes
  | .flushing _ frames | .overflown _ frames => frames
  | .idle | .connecting _ | .spawned _ | .created _ | .replying _ => []

def ServerFlow.accepts (flow : ServerFlow) : Bool :=
  flow.entry = .inserted ∧ flow.writer ≠ .done ∧ flow.queue.length < flowUplinkQueueCap

/-- A data frame is accepted by its flow or is one of the first few to come early, a buffered frame is accepted when
it is flushed, and the flow is connected once. -/
def FlowView.delivers (view : FlowView) : FlowAction → Bool
  | .receive _ =>
    match view.up.head? with
    | some (.data _ _) =>
      if view.server.entry = .inserted then view.server.accepts else view.server.pending.length < maxFlushFrames
    | _ => true
  | .flush => view.server.accepts
  | .connected => view.server.enqueued = []
  | _ => true

structure Gapless (f : FlowId) (rx : ReceiverPhase) (flow : ServerFlow) : Prop where
  whole : flow.received = flow.enqueued ++ rx.unflushed.flatten ++ flow.pending.flatten
  few : flow.pending.length ≤ maxFlushFrames
  cleared : flow.entry = .inserted → rx = .created f ∨ flow.pending = []
  ordered : flow.Ordered

namespace Gapless

variable {cfg : Config} {f : FlowId} {rx : ReceiverPhase} {flow next : ServerFlow}

theorem unflushed_flushNext (f : FlowId) (frames : List Bytes) : (flushNext f frames).unflushed = frames := by
  unfold flushNext
  split
  · rename_i empty
    exact empty.symm
  · rfl

section

variable (gapless : Gapless f rx flow)
include gapless

theorem setServer (same : next.received = flow.received ∧
    next.enqueued = flow.enqueued ∧ next.pending = flow.pending)
    (entry : flow.entry ≠ .inserted → next.entry = flow.entry) (ordered : next.Ordered) : Gapless f rx next := by
  obtain ⟨received, enqueued, pending⟩ := same
  refine ⟨by rw [received, enqueued, pending, gapless.whole], pending ▸ gapless.few, fun inserted => ?_, ordered⟩
  rw [pending]
  by_cases before : flow.entry = .inserted
  · exact gapless.cleared before
  · exact absurd ((entry before).symm.trans inserted) before

theorem task (moves : flow.Moves cfg f action next output) : Gapless f rx next :=
  gapless.setServer moves.received_eq moves.entry_eq (moves.ordered gapless.ordered)

theorem removeFlow : Gapless f rx flow.removeFlow :=
  gapless.setServer flow.removeFlow_received (fun out => by rw [ServerFlow.removeFlow_of_ne out])
    (ServerFlow.ordered_removeFlow gapless.ordered)

theorem setRx (none : rx.unflushed = []) (other : rx ≠ .created f)
    (later : ReceiverPhase) (same : later.unflushed = []) : Gapless f later flow :=
  ⟨by rw [gapless.whole, none, same], gapless.few, fun inserted => .inr ((gapless.cleared inserted).resolve_left other),
    gapless.ordered⟩

end

/-- A frame that the flow accepts, off the wire or out of the buffer, is the next to be written. -/
theorem accepted (accepts : flow.accepts = true) (cleared : flow.pending = []) (ordered : flow.Ordered)
    (whole : flow.received = flow.enqueued ++ (data :: frames).flatten) :
    Gapless f (afterData f frames (flow.handleFlowData data).2) (flow.handleFlowData data).1 := by
  have ⟨inserted, working, room⟩ := of_decide_eq_true accepts
  have queued : flow.handleFlowData data =
      ({ flow with queue := flow.queue ++ [data], enqueued := flow.enqueued ++ data }, false) := by
    simp [ServerFlow.handleFlowData, inserted, working, room]
  rw [queued]
  refine ⟨?_, by simp [cleared], fun _ => .inr cleared, ?_⟩
  · simp [afterData, unflushed_flushNext, whole, cleared]
  · rcases ordered with whole | ⟨gone, leading⟩
    · exact .inl (by simp [whole])
    · exact .inr ⟨gone, leading.trans (List.prefix_append _ _)⟩

theorem moves {view next : FlowView} (gapless : Gapless f view.rx view.server) (plain : cfg.tunEnabled = false)
    (delivers : view.delivers move = true) (moves : FlowMoves cfg f view move next) : Gapless f next.rx next.server := by
  cases moves with
  | serverSilent action flow moves | serverData action flow payload moves | serverControl action flow message moves =>
    exact gapless.task moves
  | receiveData crowded payload rest arrived idle =>
    have whole := gapless.whole
    simp only [FlowView.delivers, arrived, List.head?_cons] at delivers
    by_cases inserted : view.server.entry = .inserted
    · have cleared := (gapless.cleared inserted).resolve_left (by simp [idle])
      rw [if_pos inserted] at delivers
      have handled : view.server.dispatchData cfg.tunEnabled payload =
          { view.server with received := view.server.received ++ payload }.handleFlowData payload := if_pos inserted
      rw [handled]
      refine accepted delivers cleared gapless.ordered ?_
      simp [whole, idle, ReceiverPhase.unflushed, cleared]
    · simp only [ServerFlow.dispatchData, inserted, if_false, plain, Bool.false_eq_true] at delivers ⊢
      refine ⟨?_, ?_, fun same => absurd same inserted, gapless.ordered⟩
      · simp [whole, idle, ReceiverPhase.unflushed, afterData, flushNext]
      · rw [List.length_append]
        exact of_decide_eq_true delivers
  | receiveCreate _ _ _ _ idle | refuseCreate _ _ _ _ _ idle =>
    exact gapless.setRx (by rw [idle]; rfl) (by simp [idle]) _ rfl
  | receiveClose | sessionEnd => exact gapless.removeFlow
  | receiveUpdate crowded n =>
    obtain ⟨credits, same⟩ := view.server.grantCredits_eq n
    simp only [same]
    exact { gapless with }
  | connected connecting =>
    have empty : view.server.enqueued = [] := of_decide_eq_true delivers
    have unwritten : view.server.written = [] := List.prefix_nil.mp (empty ▸ gapless.ordered.written_isPrefix)
    refine ⟨?_, gapless.few, by simp [ServerFlow.spawn], .inl ?_⟩
    · simpa [connecting, ReceiverPhase.unflushed, ServerFlow.spawn] using gapless.whole
    · simp [ServerFlow.spawn, empty, unwritten]
  | connectFailed connecting => exact gapless.setRx (by rw [connecting]; rfl) (by simp [connecting]) _ rfl
  | insertFlow spawned =>
    refine ⟨?_, gapless.few, fun _ => .inl rfl, gapless.ordered⟩
    simpa [spawned, ReceiverPhase.unflushed, ServerFlow.insert] using gapless.whole
  | replyCreated created =>
    refine ⟨?_, Nat.zero_le _, fun _ => .inr rfl, gapless.ordered⟩
    rw [unflushed_flushNext, List.take_of_length_le gapless.few]
    simpa [created, ReceiverPhase.unflushed] using gapless.whole
  | replyOverflown frames overflown =>
    refine ⟨?_, gapless.few, fun inserted => ?_, gapless.ordered⟩
    · rw [unflushed_flushNext]
      simpa [overflown, ReceiverPhase.unflushed] using gapless.whole
    · exact .inr ((gapless.cleared inserted).resolve_left (by simp [overflown]))
  | reply message replying => exact gapless.setRx (by rw [replying]; rfl) (by simp [replying]) _ rfl
  | flush data frames flushing =>
    have inserted := (of_decide_eq_true delivers).1
    have cleared := (gapless.cleared inserted).resolve_left (by simp [flushing])
    refine accepted delivers cleared gapless.ordered ?_
    simpa [flushing, ReceiverPhase.unflushed, cleared] using gapless.whole
  | _ => exact gapless

end Gapless

/-- If no more than the flushed number of frames come early, each is accepted when it is flushed, and each later one
when it arrives, then the bytes written to the target lead the bytes received; all of them are written or on their way
in order once the flow stands. -/
theorem early_data_gapless (cfg : Config) (plain : cfg.tunEnabled = false) (f : FlowId) (frames : List Frame)
    (actions : List Action) (final : State)
    (reached : Transition.run (step cfg) { State.start with upWire := frames } actions = some final)
    (delivers : Transition.Meets (step cfg) (State.Guarded f fun view move => view.delivers move = true)
      { State.start with upWire := frames } actions) :
    let flow := final.server f
    flow.written <+: flow.received ∧ (final.rx.flow ≠ some f → flow.entry = .inserted →
      flow.writer ≠ .failed ∧ flow.writer ≠ .closing ∧ flow.writer ≠ .done →
      flow.received = flow.written ++ flow.writer.left ++ flow.queue.flatten) := by
  have kept : State.Tracked f (fun view => Gapless f view.rx view.server) final := by
    refine Transition.run_preserves_of_meets (fun state action next tracked guarded taken => ?_) ?_ delivers reached
    · exact State.step_tracked (fun _ _ _ gapless delivers moves => gapless.moves plain delivers moves) tracked guarded taken
    · exact ⟨fun _ _ => rfl, rfl, Nat.zero_le _, nofun, .inl rfl⟩
  obtain ⟨whole, -, cleared, ordered⟩ := kept.2
  intro flow
  refine ⟨ordered.written_isPrefix.trans ⟨_, (whole.trans (List.append_assoc ..)).symm⟩, fun other inserted working => ?_⟩
  have idle : (final.view f).rx = .idle := State.rxOf_of_ne other
  have cleared := (cleared inserted).resolve_left (by simp [idle])
  have accepted : (final.view f).server.received = (final.view f).server.enqueued := by
    simpa [idle, cleared, ReceiverPhase.unflushed] using whole
  exact accepted.trans (ordered.whole working)

/-- `early` frames of one byte, then the `CreateFlow` and one more frame. -/
def earlyFrames (early : Nat) : List Frame :=
  (List.range early).map (fun i => .data 1 [i.toUInt8]) ++ [.control (.createFlow 1 "example" 80), .data 1 [7]]

def serveEarly (early : Nat) : List Action :=
  let flushed := min early maxFlushFrames
  List.replicate (early + 1) (.receiver .receive) ++
  ([.receiver .connected, .receiver .insertFlow, .receiver .reply] : List Action) ++
  List.replicate flushed (.receiver .flush) ++ [.receiver .receive] ++
  (List.replicate (flushed + 1) [.server 1 .writerRecv, .server 1 (.writerWrite 1), .server 1 .writerGrant]).flatten

theorem five_early_frames_written : ∃ final, Transition.run (step roomy)
    { State.start with upWire := earlyFrames 5 } (serveEarly 5) = some final ∧
      (final.server 1).received = (final.server 1).written := by
  refine Transition.exists_of_evaluated (p := fun final => final.rx = .idle ∧ (final.server 1).entry = .inserted ∧
    (final.server 1).writer = .recv ∧ (final.server 1).queue = []) (by decide +kernel) ?_
  rintro final reached ⟨idle, inserted, waiting, drained⟩
  have whole := (early_data_gapless roomy rfl 1 (earlyFrames 5) (serveEarly 5) final reached (by decide +kernel)).2
    (by simp [idle, ReceiverPhase.flow]) inserted (by simp [waiting])
  simpa [waiting, drained] using whole

/-- The sixth early frame is dropped, and the frame behind it is written. -/
theorem sixth_early_frame_lost : ∃ final, Transition.run (step roomy)
    { State.start with upWire := earlyFrames 6 } (serveEarly 6) = some final ∧
      (final.server 1).received = [0, 1, 2, 3, 4, 5, 7] ∧ (final.server 1).written = [0, 1, 2, 3, 4, 7] := by
  decide +kernel

end Rvpn.Mux
