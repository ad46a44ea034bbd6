import Rvpn.Mux.UplinkOrder

/-! The two per-flow queues that drop when full count messages, while the credits count bytes. -/

namespace Rvpn.Mux

namespace ClientFlow

variable {cfg : Config} {f : FlowId} {flow next : ClientFlow} {action : ClientAction}
  {output : Option Frame}

theorem Moves.wsToLocal_length (moves : Moves cfg f flow action next output) :
    next.wsToLocal.length ≤ flow.wsToLocal.length := by
  cases moves with
  | relayRecv data rest idle waiting => simp [waiting]
  | loopStall =>
    unfold removeFlowState
    split <;> exact Nat.le_refl _
  | _ => exact Nat.le_refl _

theorem Moves.data_output (moves : Moves cfg f flow action next (some (.data g payload))) : action = .loopSend := by
  cases moves
  rfl

theorem removeFlowState_wsToLocal (flow : ClientFlow) :
    flow.removeFlowState.wsToLocal = flow.wsToLocal := by
  unfold removeFlowState
  split <;> rfl

theorem wsToLocal_receive (flow : ClientFlow) (frame : Frame) :
    (flow.receive frame).1.wsToLocal.length ≤ flow.wsToLocal.length + dataCount [frame] := by
  have receives := flow.receives frame
  generalize (flow.receive frame).1 = next at receives
  cases receives <;> simp [removeFlowState_wsToLocal]

end ClientFlow

namespace ServerFlow

variable {cfg : Config} {f : FlowId} {flow next : ServerFlow} {action : ServerAction}
  {output : Option ServerOutput}

theorem Moves.queue_length (moves : Moves cfg f flow action next output) :
    next.queue.length ≤ flow.queue.length := by
  cases moves with
  | writerRecv data rest idle waiting => simp [waiting]
  | _ => exact Nat.le_refl _

theorem Moves.data_output (moves : Moves cfg f flow action next (some (.data payload))) : action = .relayPush := by
  cases moves
  rfl

theorem Dispatched.queue_length {tunEnabled overflown : Bool} {data : Bytes}
    (outcome : Dispatched tunEnabled flow data next overflown) :
    next.queue.length ≤ flow.queue.length + 1 := by
  cases outcome <;> simp

theorem removeFlow_queue (flow : ServerFlow) : flow.removeFlow.queue = flow.queue := by
  unfold removeFlow
  split <;> rfl

end ServerFlow

namespace FlowView

def uplinkFrames (view : FlowView) : Nat := dataCount view.up + view.server.queue.length

def downlinkFrames (view : FlowView) : Nat :=
  view.tx.length + dataCount view.down + view.client.wsToLocal.length

/-- A data frame is sent while there is room for it at the far end, whatever happens to
the frames already under way. -/
def Paced (view : FlowView) (move : FlowAction) : Prop :=
  (move = .client .loopSend → view.uplinkFrames < flowUplinkQueueCap) ∧
  (move = .server .relayPush → view.downlinkFrames < flowChannelCap)

instance (view : FlowView) : DecidablePred view.Paced := fun _ => inferInstanceAs (Decidable (_ ∧ _))

end FlowView

/-- The flow's frames under way fit into the queues at the far ends. -/
structure Fits (f : FlowId) (view : FlowView) : Prop where
  born : Born f view
  uplink : view.uplinkFrames ≤ flowUplinkQueueCap
  downlink : view.downlinkFrames ≤ flowChannelCap

namespace Fits

variable {cfg : Config} {f : FlowId} {view next : FlowView} {move : FlowAction}

theorem start : Fits f .start where
  born := .start
  uplink := Nat.zero_le _
  downlink := Nat.zero_le _

theorem dataCount_sendUp (view : FlowView) (frame : Frame) :
    dataCount (view.sendUp frame) ≤ dataCount view.up + dataCount [frame] := by
  unfold FlowView.sendUp
  split <;> simp

theorem mono (fits : Fits f view) (born : Born f next)
    (uplink : next.uplinkFrames ≤ view.uplinkFrames)
    (downlink : next.downlinkFrames ≤ view.downlinkFrames) : Fits f next :=
  ⟨born, Nat.le_trans uplink fits.uplink, Nat.le_trans downlink fits.downlink⟩

theorem moves (fits : Fits f view) (paced : view.Paced move) (moves : FlowMoves cfg f view move next) :
    Fits f next := by
  have born := fits.born.moves moves
  have ⟨birth, uplink, downlink⟩ := fits
  simp only [FlowView.uplinkFrames, FlowView.downlinkFrames] at uplink downlink
  cases moves with
  | clientSilent action flow moves =>
    have shrunk := moves.wsToLocal_length
    exact fits.mono born (Nat.le_refl _) (Nat.add_le_add_left shrunk _)
  | clientSend action flow frame moves =>
    have shrunk := moves.wsToLocal_length
    have grown := dataCount_sendUp view frame
    refine ⟨born, ?_, ?_⟩
    · cases frame with
      | control message =>
        simp only [FlowView.uplinkFrames, dataCount_control, dataCount_nil] at grown ⊢
        omega
      | data g payload =>
        obtain rfl := moves.data_output
        have room := paced.1 rfl
        simp only [FlowView.uplinkFrames, dataCount_data, dataCount_nil] at room grown ⊢
        omega
    · simp only [FlowView.downlinkFrames]
      omega
  | clientReceive frame rest arrived =>
    have grown := view.client.wsToLocal_receive frame
    refine ⟨born, uplink, ?_⟩
    rw [arrived, ← List.singleton_append, dataCount_append] at downlink
    simp only [FlowView.downlinkFrames]
    omega
  | clientClose =>
    have grown := dataCount_sendUp view (.control (.closeFlow f))
    exact fits.mono born (Nat.add_le_add_right grown _) (Nat.le_refl _)
  | shutdown =>
    refine fits.mono born (Nat.le_refl _) (Nat.add_le_add_left (Nat.le_of_eq ?_) _)
    rw [view.client.removeFlowState_wsToLocal]
  | serverSilent action flow moves | serverControl action flow message moves =>
    exact fits.mono born (Nat.add_le_add_left moves.queue_length _) (Nat.le_refl _)
  | serverData action flow payload moves =>
    have shrunk := moves.queue_length
    obtain rfl := moves.data_output
    have room := paced.2 rfl
    refine ⟨born, Nat.le_trans (Nat.add_le_add_left shrunk _) uplink, ?_⟩
    simp only [FlowView.downlinkFrames, List.length_append, List.length_singleton] at room ⊢
    omega
  | receiveData crowded payload rest arrived =>
    have grown := (ServerFlow.dispatched cfg.tunEnabled view.server payload).queue_length
    refine ⟨born, ?_, downlink⟩
    rw [arrived, dataCount_data] at uplink
    simp only [FlowView.uplinkFrames]
    omega
  | receiveCreate target port rest arrived | refuseCreate target port rest error arrived
  | receiveIgnored crowded message rest arrived =>
    rw [arrived, dataCount_control] at uplink
    exact ⟨born, uplink, downlink⟩
  | receiveClose crowded rest arrived =>
    rw [arrived, dataCount_control] at uplink
    refine ⟨born, ?_, downlink⟩
    simpa only [FlowView.uplinkFrames, view.server.removeFlow_queue] using uplink
  | receiveUpdate crowded n rest arrived =>
    obtain ⟨credits, granted⟩ := view.server.grantCredits_eq n
    rw [arrived, dataCount_control] at uplink
    rw [granted] at born ⊢
    exact ⟨born, uplink, downlink⟩
  | connected =>
    refine ⟨born, Nat.le_trans ?_ uplink, downlink⟩
    simp [FlowView.uplinkFrames, ServerFlow.spawn]
  | flush data frames flushing => exact absurd flushing (birth.not_flushing _)
  | takeControl message rest waiting =>
    refine ⟨born, uplink, ?_⟩
    simpa [FlowView.downlinkFrames] using downlink
  | takeData payload rest waiting =>
    refine ⟨born, uplink, ?_⟩
    rw [waiting, List.length_cons] at downlink
    simp only [FlowView.downlinkFrames, dataCount_append, dataCount_data, dataCount_nil]
    omega
  | sessionEnd =>
    refine ⟨born, ?_, downlink⟩
    simpa only [FlowView.uplinkFrames, view.server.removeFlow_queue] using uplink
  | _ => exact ⟨born, uplink, downlink⟩

end Fits

namespace State

/-- `handle_flow_data` is about to find the uplink queue of `f` full: on the frame the
receive loop takes next, or on one it flushes. -/
def UplinkFull (f : FlowId) (state : State) : Prop :=
  ∃ payload, ((state.server f).handleFlowData payload).2 = true ∧
    (state.rx = .idle ∧ state.upWire.head? = some (.data f payload) ∨
      ∃ frames, state.rx = .flushing f (payload :: frames))

/-- `dispatch_data_frame` is about to find the dispatch channel of `f` full. -/
def DownlinkFull (f : FlowId) (state : State) : Prop :=
  state.clientRx = none ∧ (∃ payload, state.downWire.head? = some (.data f payload)) ∧
    (state.client f).registered = true ∧ (state.client f).relay ≠ .done ∧
    flowChannelCap ≤ (state.client f).wsToLocal.length

end State

theorem ServerFlow.full_of_handleFlowData {flow : ServerFlow} (full : (flow.handleFlowData data).2 = true) :
    flowUplinkQueueCap ≤ flow.queue.length := by
  unfold handleFlowData at full
  split at full
  · split at full
    · cases full
    · split at full
      · cases full
      · rename_i many
        exact Nat.le_of_not_lt many
  · cases full

/-- In every run in which the flow's data frames are paced, neither queue is ever found
full. -/
theorem queues_never_full (cfg : Config) (f : FlowId) {actions : List Action} {final : State}
    (paced : Transition.Meets (step cfg) (State.Guarded f FlowView.Paced) State.start actions)
    (reached : Transition.run (step cfg) State.start actions = some final) :
    ¬State.UplinkFull f final ∧ ¬State.DownlinkFull f final := by
  have fits : Fits f (final.view f) :=
    State.run_view_of_guarded (fun _ _ _ holds paced moves => Fits.moves holds paced moves)
      Fits.start paced reached
  have uplink := fits.uplink
  have downlink := fits.downlink
  constructor
  · rintro ⟨payload, full, ⟨idle, head⟩ | ⟨frames, flushing⟩⟩
    · have many : flowUplinkQueueCap ≤ (final.view f).server.queue.length :=
        ServerFlow.full_of_handleFlowData full
      obtain ⟨rest, arrived⟩ := List.head?_eq_some_iff.mp head
      have underway : dataCount (final.view f).up ≠ 0 := by simp [State.view, arrived]
      simp only [FlowView.uplinkFrames] at uplink
      omega
    · refine fits.born.not_flushing (payload :: frames) ?_
      rw [State.view, flushing]
      exact State.rxOf_self rfl
  · rintro ⟨ready, ⟨payload, head⟩, registered, alive, full⟩
    have many : flowChannelCap ≤ (final.view f).client.wsToLocal.length := full
    obtain ⟨rest, arrived⟩ := List.head?_eq_some_iff.mp head
    have underway : dataCount (final.view f).down ≠ 0 := by simp [State.view, arrived]
    simp only [FlowView.downlinkFrames] at downlink
    omega

/-- Nothing is found full in a run that sends one frame each way. -/
theorem echo_never_full : ∃ final,
    Transition.run (step roomy) State.start (openFlow 1 ++ echoByte 1) = some final ∧
      ¬State.UplinkFull 1 final ∧ ¬State.DownlinkFull 1 final := by
  refine Transition.exists_of_evaluated (p := fun _ => True) (by decide +kernel) fun final reached _ => ?_
  exact queues_never_full roomy 1 (by decide +kernel) reached

/-- 65 frames of one byte each fill the uplink queue before the writer runs, and 257 fill the dispatch channel before
the client's relay does. -/
theorem one_byte_frames_fill_queues :
    (∃ final, Transition.run (step roomy) State.start
      (openFlow 1 ++ [.client 1 (.appWrite (List.replicate 65 0))] ++
        (List.replicate 65 (sendChunk 1 1)).flatten ++
        List.replicate 64 (.receiver .receive)) = some final ∧ State.UplinkFull 1 final) ∧
    ∃ final, Transition.run (step roomy) State.start
      (openFlow 1 ++ [.sender .pollControl, .server 1 (.targetWrite (List.replicate 257 0))] ++
        (List.replicate 257 (forwardChunk 1 1)).flatten ++
        List.replicate 257 .clientReceive) = some final ∧ State.DownlinkFull 1 final := by
  constructor
  · refine Transition.exists_of_evaluated (p := fun state => state.rx = .idle ∧ state.upWire.head? = some (.data 1 [0]) ∧
      ((state.server 1).handleFlowData [0]).2 = true) (by decide +kernel) fun final _ facts => ?_
    exact ⟨[0], facts.2.2, .inl ⟨facts.1, facts.2.1⟩⟩
  · refine Transition.exists_of_evaluated (p := fun state => state.clientRx = none ∧
      state.downWire.head? = some (.data 1 [0]) ∧ (state.client 1).registered = true ∧ (state.client 1).relay ≠ .done ∧
      flowChannelCap ≤ (state.client 1).wsToLocal.length) (by decide +kernel) fun final _ facts => ?_
    exact ⟨facts.1, ⟨[0], facts.2.1⟩, facts.2.2⟩

end Rvpn.Mux
