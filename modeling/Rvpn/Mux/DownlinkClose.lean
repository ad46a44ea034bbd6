import Rvpn.Mux.UplinkClose

/-! The end of a flow's downlink: the `CloseFlow` can overtake data still on `tx`. -/

namespace Rvpn.Mux

/-- The payload that the relay holds while `tx` is full. -/
def ServerRelayPhase.held : ServerRelayPhase → Bytes
  | .sending data => data
  | .absent | .gate | .waiting | .reading _ | .removing | .closing | .done => []

namespace ClientFlow

variable {cfg : Config} {f : FlowId} {flow next : ClientFlow} {action : ClientAction}
  {output : Option Frame}

def Shut (flow : ClientFlow) : Prop := flow.phase = .running ∧ flow.registered = false

/-- The client keeps reading: its tasks return only once the channel is closed. -/
structure Listening (flow : ClientFlow) : Prop where
  returned : flow.relay = .done → flow.Shut
  dropped : flow.closing = true → flow.Shut
  exited : flow.loop = .exited → flow.Shut
  unstalled : flow.loop ≠ .stalled
  gate : flow.credits.closed = true → flow.Shut

section

variable (moves : Moves cfg f flow action next output)
include moves

theorem Moves.shut (shut : flow.Shut) :
    next.Shut ∧ next.delivered = flow.delivered := by
  obtain ⟨running, removed⟩ := shut
  cases moves with
  | create target port allocated => simp [running] at allocated
  | register created => simp [running] at created
  | loopStall => simp [Shut, removeFlowState, running, removed]
  | _ => exact ⟨⟨running, removed⟩, rfl⟩

theorem Moves.unshut (kept : action ≠ .loopStall)
    (shut : next.Shut) : flow.Shut := by
  cases moves with
  | create => cases shut.1
  | register => cases shut.2
  | loopStall => exact absurd rfl kept
  | _ => exact shut

theorem Moves.delivered_eq :
    next.delivered = flow.delivered := by
  cases moves with
  | loopStall =>
    unfold removeFlowState
    split <;> rfl
  | _ => rfl

theorem Moves.listening (tasks : flow.TasksAfterOpen)
    (listening : flow.Listening) (kept : action ≠ .loopStall ∧ action ≠ .loopFail)
    (reading : action = .relayEof ∨ action = .relayFail → flow.registered = false) : next.Listening := by
  have ⟨returned, dropped, exited, unstalled, gate⟩ := listening
  have running : flow.relay ≠ .absent → flow.phase = .running := by
    intro present
    by_contra early
    exact present (tasks early).2.2.1
  cases moves with
  | create target port allocated =>
    have open_ : ¬flow.Shut := by simp [Shut, allocated]
    exact ⟨fun done => (open_ (returned done)).elim, fun dropping => (open_ (dropped dropping)).elim,
      fun gone => (open_ (exited gone)).elim, unstalled, fun closed => (open_ (gate closed)).elim⟩
  | register created =>
    have absent := tasks (by simp [created])
    exact ⟨by simp, by simp [absent.2.2.2], by simp, by simp, by simp⟩
  | relayEof idle =>
    have shut : flow.Shut := ⟨running (by simp [idle]), reading (.inl rfl)⟩
    exact ⟨fun _ => shut, fun _ => shut, exited, unstalled, gate⟩
  | relayFail busy =>
    have present : flow.relay ≠ .absent := by rcases busy with idle | ⟨size, left, writing⟩ <;> simp_all
    have shut : flow.Shut := ⟨running present, reading (.inr rfl)⟩
    exact ⟨fun _ => shut, fun _ => shut, exited, unstalled, gate⟩
  | relaySendClosed sending gone => exact ⟨fun _ => exited gone, fun _ => exited gone, exited, unstalled, gate⟩
  | relayClosed idle drained removed =>
    have shut : flow.Shut := ⟨running (by simp [idle]), removed⟩
    exact ⟨fun _ => shut, fun _ => shut, exited, unstalled, gate⟩
  | relayRead | relaySend | relayGrant => exact ⟨by simp, dropped, exited, unstalled, gate⟩
  | relayRecv | relayWrite =>
    exact ⟨fun done => absurd done (writeAll_ne_done _ _), dropped, exited, unstalled, gate⟩
  | loopRecv | loopSend =>
    exact ⟨returned, dropped, fun gone => absurd gone (resume_ne_gone _).2, (resume_ne_gone _).1, gate⟩
  | loopPark | loopConsume | loopWake => exact ⟨returned, dropped, by simp, by simp, gate⟩
  | loopWakeClosed parked closed => exact ⟨returned, dropped, fun _ => gate closed, by simp, gate⟩
  | loopEnd idle drained done => exact ⟨returned, dropped, fun _ => returned done, by simp, gate⟩
  | loopStall => exact absurd rfl kept.1
  | loopFail => exact absurd rfl kept.2
  | loopClose stalled => exact absurd stalled unstalled
  | dropClose => exact ⟨returned, by simp, exited, unstalled, gate⟩
  | _ => exact ⟨returned, dropped, exited, unstalled, gate⟩

end

/-- A `CloseFlow` comes from a flow whose channel is closed. -/
theorem Moves.closes_shut (moves : Moves cfg f flow action next (some frame)) (listening : flow.Listening)
    (closes : frame.isClose = true) : flow.Shut := by
  cases moves with
  | dropClose closing => exact listening.dropped closing
  | loopClose stalled => exact absurd stalled listening.unstalled
  | _ => cases closes

theorem Listening.removeFlowState (listening : flow.Listening) (tasks : flow.TasksAfterOpen) :
    flow.removeFlowState.Listening := by
  unfold ClientFlow.removeFlowState
  split
  · rename_i registered
    have running : flow.phase = .running := by
      by_contra early
      have unregistered := (tasks early).1
      simp [registered] at unregistered
    exact ⟨fun _ => ⟨running, rfl⟩, fun _ => ⟨running, rfl⟩, fun _ => ⟨running, rfl⟩, listening.unstalled,
      fun _ => ⟨running, rfl⟩⟩
  · exact listening

theorem removeFlowState_delivered (flow : ClientFlow) : flow.removeFlowState.delivered = flow.delivered := by
  unfold removeFlowState
  split <;> rfl

theorem Listening.receive (listening : flow.Listening) (tasks : flow.TasksAfterOpen)
    (fits : frame.isData = true → flow.registered = true ∧ flow.relay ≠ .done ∧
      flow.wsToLocal.length < flowChannelCap) :
    (flow.receive frame).1.Listening ∧ (flow.receive frame).2 = false ∧
    (flow.receive frame).1.delivered = flow.delivered ++ frame.payload ∧
    ((flow.receive frame).1.Shut → flow.Shut ∨ frame.endsFlow = true) := by
  have ⟨returned, dropped, exited, unstalled, gate⟩ := listening
  cases frame with
  | data g payload =>
    have ⟨registered, reading, room⟩ := fits rfl
    have taken : flow.receive (.data g payload) =
        ({ flow with wsToLocal := flow.wsToLocal ++ [payload],
                     delivered := flow.delivered ++ payload }, false) := by
      simp [ClientFlow.receive, dispatchDataFrame, registered, reading, room]
    rw [taken]
    exact ⟨⟨returned, dropped, exited, unstalled, gate⟩, rfl, rfl, .inl⟩
  | control message =>
    cases message with
    | closeFlow | flowFailed =>
      exact ⟨listening.removeFlowState tasks, rfl, by simp [ClientFlow.receive, handleControlMessage,
        removeFlowState_delivered], fun _ => .inr rfl⟩
    | windowUpdate g n =>
      simp only [ClientFlow.receive, handleControlMessage, grantCredits]
      split <;> exact ⟨⟨returned, dropped, exited, unstalled, gate⟩, trivial, by simp, .inl⟩
    | _ => exact ⟨listening, rfl, by simp [ClientFlow.receive, handleControlMessage], .inl⟩

theorem receive_shut (shut : flow.Shut) (frame : Frame) :
    (flow.receive frame).1.Shut ∧ (flow.receive frame).1.delivered = flow.delivered := by
  have removed := shut.2
  cases frame with
  | data g payload => simp [ClientFlow.receive, dispatchDataFrame, removed, shut]
  | control message =>
    cases message <;>
      simp [ClientFlow.receive, handleControlMessage, ClientFlow.removeFlowState, grantCredits, removed, shut]

end ClientFlow

namespace ServerFlow

variable {cfg : Config} {f : FlowId} {flow next : ServerFlow} {action : ServerAction}
  {output : Option ServerOutput}

/-- What the target sent is forwarded, with the relay or still in the socket; the relay stops at the end of the stream
only, and nobody aborts it. -/
structure Streams (flow : ServerFlow) : Prop where
  whole : flow.targetSent = flow.forwarded ++ flow.relay.held ++ flow.targetOut
  ended : flow.relay = .removing ∨ flow.relay = .closing ∨ flow.relay = .done →
    flow.targetOut = [] ∧ flow.targetClosed = true
  running : flow.relayAborted = false
  writing : flow.writer ≠ .failed ∧ flow.writer ≠ .closing

theorem Streams.forwarded_eq (streams : flow.Streams) (done : flow.relay = .done) :
    flow.forwarded = flow.targetSent ∧ flow.targetClosed = true := by
  have ⟨drained, closed⟩ := streams.ended (.inr (.inr done))
  have whole := streams.whole
  rw [done, drained] at whole
  exact ⟨by simpa [ServerRelayPhase.held] using whole.symm, closed⟩

theorem Moves.streams (moves : Moves cfg f flow action next output) (streams : flow.Streams)
    (kept : action ≠ .writerFail ∧ action ≠ .relayStall ∧ action ≠ .relayError) : next.Streams := by
  have ⟨whole, ended, running, writing⟩ := streams
  cases moves with
  | writerRecv | writerWrite => exact ⟨whole, ended, running, (writeAll_ne _ _).1, (writeAll_ne _ _).2.1⟩
  | writerFail => exact absurd rfl kept.1
  | writerGrant | writerEnd | writerCancel => exact ⟨whole, ended, running, by simp⟩
  | writerRemove failed | writerQuit failed => exact absurd failed writing.1
  | writerClose closing => exact absurd closing writing.2
  | relayPark gate =>
    exact ⟨by simpa [gate, ServerRelayPhase.held] using whole, by simp, running, writing⟩
  | relayGate gate =>
    exact ⟨by simpa [gate, ServerRelayPhase.held, readPhase] using whole, by simp [readPhase], running, writing⟩
  | relayWake waiting =>
    exact ⟨by simpa [waiting, ServerRelayPhase.held, readPhase] using whole, by simp [readPhase], running,
      writing⟩
  | relayStall => exact absurd rfl kept.2.1
  | relayError => exact absurd rfl kept.2.2
  | relayRead n reading =>
    obtain ⟨cap, reading, -⟩ := reading
    refine ⟨?_, by simp, running, writing⟩
    rw [reading] at whole
    simpa [ServerRelayPhase.held] using whole
  | relayEof reading drained closed =>
    obtain ⟨cap, reading⟩ := reading
    exact ⟨by simpa [reading, ServerRelayPhase.held] using whole, fun _ => ⟨drained, closed⟩, running, writing⟩
  | relayPush data sending =>
    exact ⟨by simpa [sending, ServerRelayPhase.held] using whole, by simp, running, writing⟩
  | relayRemove removing | relayAlone removing =>
    exact ⟨by simpa [removing, ServerRelayPhase.held] using whole, fun _ => ended (.inl removing), running,
      writing⟩
  | relayClose closing =>
    exact ⟨by simpa [closing, ServerRelayPhase.held] using whole, fun _ => ended (.inr (.inl closing)), running,
      writing⟩
  | relayCancel aborted => simp [running] at aborted
  | targetRead => exact ⟨whole, ended, running, writing⟩
  | targetWrite bytes connected unclosed =>
    refine ⟨?_, ?_, running, writing⟩
    · simp [whole]
    · intro stopped
      have closed := (ended stopped).2
      simp [unclosed] at closed
  | targetClose => exact ⟨whole, fun stopped => ⟨(ended stopped).1, rfl⟩, running, writing⟩

theorem Moves.targetSent_eq (moves : Moves cfg f flow action next output) (closed : flow.targetClosed = true) :
    next.targetSent = flow.targetSent ∧ next.targetClosed = true := by
  cases moves with
  | targetWrite bytes connected unclosed => simp [closed] at unclosed
  | targetClose => exact ⟨rfl, rfl⟩
  | _ => exact ⟨rfl, closed⟩

theorem Moves.ends_done (moves : Moves cfg f flow action next (some (.control message)))
    (streams : flow.Streams) (ends : message.endsFlow = true) : next.relay = .done := by
  cases moves with
  | writerGrant => cases ends
  | writerClose closing => exact absurd closing streams.writing.2
  | relayClose => rfl

theorem Moves.relay_done (moves : Moves cfg f flow action next output) (done : flow.relay = .done) :
    next.relay = .done ∧ ∀ payload, output ≠ some (.data payload) := by
  cases moves <;> simp_all

theorem Moves.forwarded_eq (moves : Moves cfg f flow action next output) :
    next.forwarded = flow.forwarded ++ match output with
      | some (.data payload) => payload
      | _ => [] := by
  cases moves <;> simp

theorem Dispatched.target_eq {tunEnabled overflown : Bool} {data : Bytes}
    (outcome : Dispatched tunEnabled flow data next overflown) :
    next.targetSent = flow.targetSent ∧ next.targetClosed = flow.targetClosed := by
  cases outcome <;> exact ⟨rfl, rfl⟩

theorem removeFlow_target (flow : ServerFlow) : flow.removeFlow.targetSent = flow.targetSent ∧
    flow.removeFlow.targetClosed = flow.targetClosed := by
  unfold removeFlow
  split <;> exact ⟨rfl, rfl⟩

theorem Dispatched.streams {tunEnabled overflown : Bool} {data : Bytes}
    (outcome : Dispatched tunEnabled flow data next overflown) (streams : flow.Streams)
    (room : flow.queue.length < flowUplinkQueueCap) :
    next.Streams ∧ next.forwarded = flow.forwarded ∧ next.relay = flow.relay ∧ overflown = false := by
  have ⟨whole, ended, running, writing⟩ := streams
  cases outcome with
  | overflown inserted working full => exact absurd room (Nat.not_lt_of_le full)
  | _ => exact ⟨⟨whole, ended, running, writing⟩, rfl, rfl, rfl⟩

end ServerFlow

namespace FlowView

/-- The moves that end a flow for a reason other than the target's close: the flow is not
set up, the transport or the session fails, a credit gate stalls, the target's socket
fails. -/
def downlinkTeardowns : List FlowAction :=
  [.connectFailed, .shutdown, .upFail, .sessionEnd, .client .loopStall, .server .writerFail,
    .server .relayStall, .server .relayError]

/-- The target's close reaches the client after all data, which it takes: a `CloseFlow` is taken off the control
channel with none of the flow's data on `tx`; a data frame arrives at a registered flow with room in its channel; the
client's relay reads until that channel is closed; the uplink queue does not overflow; and nothing else ends the flow.
-/
def DeliversOrderly (view : FlowView) (move : FlowAction) : Prop :=
  (move = .takeControl → view.control.head?.any ControlMessage.endsFlow = true → view.tx = []) ∧
  (move = .clientReceive → view.down.head?.any Frame.isData = true →
    view.client.registered = true ∧ view.client.relay ≠ .done ∧
      view.client.wsToLocal.length < flowChannelCap) ∧
  (∀ crowded, move = .receive crowded →
    (view.up.head?.any Frame.isCreate = true → crowded = false) ∧
    (view.up.head?.any Frame.isData = true → view.server.queue.length < flowUplinkQueueCap)) ∧
  (move = .client .relayEof ∨ move = .client .relayFail → view.client.registered = false) ∧
  move ∉ downlinkTeardowns

instance (view : FlowView) : DecidablePred view.DeliversOrderly :=
  fun _ => inferInstanceAs (Decidable (_ ∧ _ ∧ _ ∧ _ ∧ _))

end FlowView

/-- The flow exists, the transport works, and its client reads until its channel is closed. -/
structure Attentive (f : FlowId) (view : FlowView) : Prop where
  born : Born f view
  online : view.upOpen = true
  listening : view.client.Listening
  unclosing : view.closing = false

namespace Attentive

variable {cfg : Config} {f : FlowId} {view next : FlowView} {move : FlowAction}

theorem start : Attentive f .start where
  born := .start
  online := rfl
  listening := ⟨by simp [FlowView.start, ClientFlow.fresh], by simp [FlowView.start, ClientFlow.fresh],
    by simp [FlowView.start, ClientFlow.fresh], by simp [FlowView.start, ClientFlow.fresh],
    by simp [FlowView.start, ClientFlow.fresh]⟩
  unclosing := rfl

theorem clientMoves (attentive : Attentive f view) (orderly : view.DeliversOrderly (.client action))
    (offline : action = .loopFail → view.upOpen = false) (moves : view.client.Moves cfg f action flow output) :
    flow.Listening := by
  have ⟨_, _, _, reading, kept⟩ := orderly
  refine moves.listening attentive.born.tasks attentive.listening ⟨?_, ?_⟩ ?_
  · rintro rfl
    exact kept (by simp [FlowView.downlinkTeardowns])
  · intro failing
    have online := attentive.online
    simp [offline failing] at online
  · rintro (rfl | rfl)
    · exact reading (.inl rfl)
    · exact reading (.inr rfl)

theorem received (attentive : Attentive f view) (orderly : view.DeliversOrderly .clientReceive)
    (arrived : view.down = frame :: rest) :
    (view.client.receive frame).1.Listening ∧ (view.client.receive frame).2 = false ∧
    (view.client.receive frame).1.delivered = view.client.delivered ++ frame.payload ∧
    ((view.client.receive frame).1.Shut → view.client.Shut ∨ frame.endsFlow = true) := by
  refine attentive.listening.receive attentive.born.tasks fun isData => ?_
  exact orderly.2.1 rfl (by simpa [arrived] using isData)

theorem moves (attentive : Attentive f view) (orderly : view.DeliversOrderly move)
    (moves : FlowMoves cfg f view move next) : Attentive f next := by
  have born := attentive.born.moves moves
  have kept := orderly.2.2.2.2
  cases moves with
  | allocate unopened =>
    have open_ : ¬view.client.Shut := by simp [ClientFlow.Shut, unopened]
    have listening := attentive.listening
    exact { attentive with
      born, listening := ⟨fun done => (open_ (listening.returned done)).elim,
        fun dropping => (open_ (listening.dropped dropping)).elim, fun gone => (open_ (listening.exited gone)).elim,
        listening.unstalled, fun closed => (open_ (listening.gate closed)).elim⟩ }
  | clientSilent action flow moves offline =>
    exact { attentive with born, listening := attentive.clientMoves orderly offline moves }
  | clientSend action flow frame moves =>
    have offline : action = .loopFail → view.upOpen = false := by
      rintro rfl
      cases moves
    exact { attentive with born, listening := attentive.clientMoves orderly offline moves }
  | clientReceive frame rest arrived ready =>
    have ⟨listening, unclosing, _⟩ := attentive.received orderly arrived
    exact { attentive with born, listening, unclosing }
  | clientClose closing => simp [attentive.unclosing] at closing
  | shutdown | upFail => exact absurd (by simp [FlowView.downlinkTeardowns]) kept
  | _ => exact { attentive with born }

end Attentive

/-- While a flow's channel is open, what its server forwarded is what was delivered, what is on the wire and what is
on `tx`, in this order, and a message that ends the flow comes last. -/
structure Streaming (f : FlowId) (view : FlowView) : Prop where
  streams : view.server.Streams
  carried : view.server.forwarded = view.client.delivered ++ payloads view.down ++ view.tx.flatten
  unasked : ∀ frame ∈ view.up, frame.isClose = false
  calm : view.rx = .idle ∨ view.rx = .connecting f ∨ view.rx = .spawned f ∨ view.rx = .created f
  announced : (∃ message ∈ view.control, message.endsFlow = true) ∨
    (∃ frame ∈ view.down, frame.endsFlow = true) → view.server.relay = .done
  last : NoDataAfter Frame.endsFlow view.down
  emptied : (∃ frame ∈ view.down, frame.endsFlow = true) → view.tx = []

namespace FlowMoves

variable {cfg : Config} {f : FlowId} {view next : FlowView} {move : FlowAction}

theorem shut (moves : FlowMoves cfg f view move next) (shut : view.client.Shut) :
    next.client.Shut ∧ next.client.delivered = view.client.delivered := by
  cases moves with
  | allocate unopened => simp [ClientFlow.Shut, unopened] at shut
  | clientSilent action flow moves | clientSend action flow frame moves => exact moves.shut shut
  | clientReceive frame => exact ClientFlow.receive_shut shut frame
  | shutdown =>
    have same : view.client.removeFlowState = view.client := by
      simp [ClientFlow.removeFlowState, shut.2]
    exact ⟨same.symm ▸ shut, congrArg ClientFlow.delivered same⟩
  | _ => exact ⟨shut, rfl⟩

theorem targetSent_eq (moves : FlowMoves cfg f view move next) (born : Born f view)
    (closed : view.server.targetClosed = true) :
    next.server.targetSent = view.server.targetSent ∧ next.server.targetClosed = true := by
  cases moves with
  | serverSilent action flow moves | serverData action flow payload moves
  | serverControl action flow message moves =>
    exact moves.targetSent_eq closed
  | receiveData crowded payload =>
    have ⟨sent, flag⟩ := (view.server.dispatched cfg.tunEnabled payload).target_eq
    exact ⟨sent, flag.trans closed⟩
  | receiveClose | sessionEnd =>
    have ⟨sent, flag⟩ := view.server.removeFlow_target
    exact ⟨sent, flag.trans closed⟩
  | receiveUpdate crowded n =>
    obtain ⟨credits, granted⟩ := view.server.grantCredits_eq n
    rw [granted]
    exact ⟨rfl, closed⟩
  | connected connecting =>
    rw [born.fresh_of_connecting connecting] at closed
    cases closed
  | flush data frames flushing => exact absurd flushing (born.not_flushing _)
  | _ => exact ⟨rfl, closed⟩

theorem closes (moves : FlowMoves cfg f view move next) (attentive : Attentive f view)
    (orderly : view.DeliversOrderly move) (open_ : ¬view.client.Shut) (shut : next.client.Shut) :
    next.server = view.server ∧ next.client.delivered = view.client.delivered ∧
    ∃ frame rest, view.down = frame :: rest ∧ frame.endsFlow = true := by
  have kept := orderly.2.2.2.2
  cases moves with
  | allocate => cases shut.1
  | clientSilent action flow moves | clientSend action flow frame moves =>
    refine absurd (moves.unshut ?_ shut) open_
    rintro rfl
    exact kept (by simp [FlowView.downlinkTeardowns])
  | clientReceive frame rest arrived =>
    have ⟨_, _, delivered, closing⟩ := attentive.received orderly arrived
    have ends : frame.endsFlow = true := (closing shut).resolve_left open_
    refine ⟨rfl, ?_, frame, rest, arrived, ends⟩
    cases frame with
    | data g payload => cases ends
    | control message => simpa using delivered
  | shutdown => exact absurd (by simp [FlowView.downlinkTeardowns]) kept
  | _ => exact absurd shut open_

end FlowMoves

namespace Streaming

variable {cfg : Config} {f : FlowId} {view next : FlowView} {move : FlowAction}

theorem delivered_eq (streaming : Streaming f view) (arrived : view.down = frame :: rest)
    (ends : frame.endsFlow = true) :
    view.client.delivered = view.server.targetSent ∧ view.server.targetClosed = true := by
  have present : ∃ other ∈ view.down, other.endsFlow = true := ⟨frame, by simp [arrived], ends⟩
  have ⟨forwarded, closed⟩ := streaming.streams.forwarded_eq (streaming.announced (.inr present))
  have silent : payloads view.down = [] := by
    have last := streaming.last
    rw [arrived] at last ⊢
    cases frame with
    | data g payload => cases ends
    | control message => simpa using last.1 ends
  have carried := streaming.carried
  rw [silent, streaming.emptied present] at carried
  exact ⟨by simpa using carried.symm.trans forwarded, closed⟩

theorem ofClient (streaming : Streaming f view) (delivered : flow.delivered = view.client.delivered)
    (unasked : ∀ frame ∈ up, frame.isClose = false) :
    Streaming f { view with client := flow, up } :=
  { streaming with carried := delivered.symm ▸ streaming.carried, unasked }

theorem ofServer (streaming : Streaming f view) (streams : server.Streams)
    (forwarded : server.forwarded = view.server.forwarded) (relay : server.relay = view.server.relay)
    (taken : ∀ frame ∈ up, frame ∈ view.up)
    (calm : rx = .idle ∨ rx = .connecting f ∨ rx = .spawned f ∨ rx = .created f) :
    Streaming f { view with server, up, rx } :=
  { streaming with
    streams, carried := forwarded.trans streaming.carried, calm
    unasked := fun frame member => streaming.unasked frame (taken frame member)
    announced := fun ends => relay.trans (streaming.announced ends) }

theorem clientReceive {closing : Bool} (streaming : Streaming f view) (arrived : view.down = frame :: rest)
    (delivered : flow.delivered = view.client.delivered ++ frame.payload) :
    Streaming f { view with client := flow, down := rest, closing } := by
  have later : (∃ other ∈ rest, other.endsFlow = true) → ∃ other ∈ view.down, other.endsFlow = true :=
    fun ⟨other, member, ends⟩ => ⟨other, by simp [arrived, member], ends⟩
  have ⟨carried, last⟩ := And.intro streaming.carried streaming.last
  rw [arrived] at carried last
  refine { streaming with
    carried := ?_, announced := fun ends => streaming.announced (ends.imp_right later), last := last.2
    emptied := fun ends => streaming.emptied (later ends) }
  simpa [delivered] using carried

section

variable (streaming : Streaming f view)
include streaming

theorem streams_moves (kept : .server action ∉ FlowView.downlinkTeardowns)
    (moves : view.server.Moves cfg f action flow output) : flow.Streams := by
  refine moves.streams streaming.streams ⟨?_, ?_, ?_⟩ <;> rintro rfl <;>
    exact kept (by simp [FlowView.downlinkTeardowns])

theorem serverControl (kept : .server action ∉ FlowView.downlinkTeardowns)
    (moves : view.server.Moves cfg f action flow (some (.control message))) :
    Streaming f { view with server := flow, control := view.control ++ [message] } := by
  have ended ends := (moves.relay_done (streaming.announced ends)).1
  refine { streaming with streams := streaming.streams_moves kept moves, carried := ?_, announced := ?_ }
  · simpa [moves.forwarded_eq] using streaming.carried
  · rintro (⟨other, member, ends⟩ | sent)
    · rcases List.mem_append.mp member with old | new
      · exact ended (.inl ⟨other, old, ends⟩)
      · rw [List.mem_singleton.mp new] at ends
        exact moves.ends_done streaming.streams ends
    · exact ended (.inr sent)

theorem serverData (kept : .server action ∉ FlowView.downlinkTeardowns)
    (moves : view.server.Moves cfg f action flow (some (.data payload))) :
    Streaming f { view with server := flow, tx := view.tx ++ [payload] } := by
  -- a relay that still forwards has announced nothing
  have quiet ends : False := (moves.relay_done (streaming.announced ends)).2 payload rfl
  refine { streaming with
    streams := streaming.streams_moves kept moves, carried := ?_, announced := fun ends => (quiet ends).elim
    emptied := fun ends => (quiet (.inr ends)).elim }
  simp [moves.forwarded_eq, streaming.carried]

theorem takeControl (orderly : view.DeliversOrderly .takeControl)
    (waiting : view.control = message :: rest) :
    Streaming f { view with control := rest, down := view.down ++ [.control message] } := by
  have before : (∃ frame ∈ view.down ++ [.control message], frame.endsFlow = true) →
      (∃ frame ∈ view.down, frame.endsFlow = true) ∨ message.endsFlow = true := by
    rintro ⟨frame, member, ends⟩
    rcases List.mem_append.mp member with old | new
    · exact .inl ⟨frame, old, ends⟩
    · rw [List.mem_singleton.mp new] at ends
      exact .inr ends
  refine { streaming with
    carried := by simpa using streaming.carried, announced := ?_, last := streaming.last.append fun _ => rfl, emptied := ?_ }
  · rintro (⟨other, member, ends⟩ | sent)
    · exact streaming.announced (.inl ⟨other, by simp [waiting, member], ends⟩)
    · rcases before sent with old | ends
      · exact streaming.announced (.inr old)
      · exact streaming.announced (.inl ⟨message, by simp [waiting], ends⟩)
  · intro sent
    rcases before sent with old | ends
    · exact streaming.emptied old
    · exact orderly.1 rfl (by simpa [waiting] using ends)

theorem takeData (waiting : view.tx = payload :: rest) :
    Streaming f { view with tx := rest, down := view.down ++ [.data f payload] } := by
  have unsent : ¬∃ frame ∈ view.down, frame.endsFlow = true := by
    intro sent
    simp [streaming.emptied sent] at waiting
  have still : ¬∃ frame ∈ view.down ++ [.data f payload], frame.endsFlow = true := by
    rintro ⟨frame, member, ends⟩
    rcases List.mem_append.mp member with old | new
    · exact unsent ⟨frame, old, ends⟩
    · rw [List.mem_singleton.mp new] at ends
      cases ends
  refine { streaming with
    carried := ?_, announced := fun ends => streaming.announced (ends.imp_right fun sent => absurd sent still)
    last := streaming.last.append fun sent => absurd sent unsent, emptied := fun sent => absurd sent still }
  simpa [waiting] using streaming.carried

theorem moves (attentive : Attentive f view) (orderly : view.DeliversOrderly move)
    (open_ : ¬view.client.Shut) (moves : FlowMoves cfg f view move next) : Streaming f next := by
  have ⟨_, _, taken, _, kept⟩ := orderly
  cases moves with
  | allocate => exact streaming.ofClient rfl streaming.unasked
  | clientSilent action flow moves => exact streaming.ofClient moves.delivered_eq streaming.unasked
  | clientSend action flow frame moves =>
    refine streaming.ofClient moves.delivered_eq ?_
    simp only [FlowView.sendUp, attentive.online]
    intro other member
    rcases List.mem_append.mp member with old | new
    · exact streaming.unasked other old
    · rw [List.mem_singleton.mp new]
      by_contra closes
      exact open_ (moves.closes_shut attentive.listening (by simpa using closes))
  | clientReceive frame rest arrived =>
    exact streaming.clientReceive arrived (attentive.received orderly arrived).2.2.1
  | clientClose closing => simp [attentive.unclosing] at closing
  | serverSilent action flow moves =>
    refine { streaming with
      streams := streaming.streams_moves kept moves, carried := ?_
      announced := fun ends => (moves.relay_done (streaming.announced ends)).1 }
    simpa [moves.forwarded_eq] using streaming.carried
  | serverData action flow payload moves => exact streaming.serverData kept moves
  | serverControl action flow message moves => exact streaming.serverControl kept moves
  | receiveData crowded payload rest arrived =>
    have room := (taken crowded rfl).2 (by simp [arrived, Frame.isData])
    obtain ⟨streams, forwarded, relay, fitting⟩ :=
      (view.server.dispatched cfg.tunEnabled payload).streams streaming.streams room
    refine streaming.ofServer streams forwarded relay (by simp +contextual [arrived]) (.inl ?_)
    simp [fitting, afterData, flushNext]
  | receiveCreate target port rest arrived =>
    exact streaming.ofServer streaming.streams rfl rfl (by simp +contextual [arrived]) (.inr (.inl rfl))
  | refuseCreate target port rest error arrived =>
    have uncrowded := (taken true rfl).1 (by simp [arrived, Frame.isCreate])
    cases uncrowded
  | receiveClose crowded rest arrived =>
    have close := streaming.unasked (.control (.closeFlow f)) (by simp [arrived])
    cases close
  | receiveUpdate crowded n rest arrived =>
    obtain ⟨credits, granted⟩ := view.server.grantCredits_eq n
    rw [granted]
    exact streaming.ofServer { streaming.streams with } rfl rfl (by simp +contextual [arrived]) streaming.calm
  | receiveIgnored crowded message rest arrived =>
    exact streaming.ofServer streaming.streams rfl rfl (by simp +contextual [arrived]) streaming.calm
  | connected connecting =>
    have fresh := attentive.born.fresh_of_connecting connecting
    have unspawned : view.server.relay ≠ .done := by simp [fresh, ServerFlow.fresh]
    refine { streaming with
      streams := ?_, calm := .inr (.inr (.inl rfl)), announced := fun ends => absurd (streaming.announced ends) unspawned }
    exact ⟨by simp [fresh, ServerFlow.fresh, ServerFlow.spawn, ServerRelayPhase.held],
      by simp [ServerFlow.spawn], rfl, by simp [ServerFlow.spawn]⟩
  | insertFlow =>
    exact streaming.ofServer { streaming.streams with } rfl rfl (fun _ member => member) (.inr (.inr (.inr rfl)))
  | replyCreated created =>
    have nothing := attentive.born.pending_of_created created
    refine { streaming with
      streams := { streaming.streams with }, calm := .inl (by simp [nothing, flushNext])
      announced := fun ends => streaming.announced (ends.imp_left ?_) }
    rintro ⟨other, member, ends⟩
    rcases List.mem_append.mp member with old | new
    · exact ⟨other, old, ends⟩
    · rw [List.mem_singleton.mp new] at ends
      cases ends
  | replyOverflown _ busy | reply _ busy | flush _ _ busy =>
    have calm := streaming.calm
    simp [busy] at calm
  | takeControl message rest waiting => exact streaming.takeControl orderly waiting
  | takeData payload rest waiting => exact streaming.takeData waiting
  | _ => exact absurd (by simp [FlowView.downlinkTeardowns]) kept

end

end Streaming

/-- The downlink of a flow: in order while its channel is open, complete once it is
closed. -/
structure Downlink (f : FlowId) (view : FlowView) : Prop where
  attentive : Attentive f view
  streaming : ¬view.client.Shut → Streaming f view
  delivered : view.client.Shut → view.client.delivered = view.server.targetSent ∧
    view.server.targetClosed = true

namespace Downlink

variable {cfg : Config} {f : FlowId} {view next : FlowView} {move : FlowAction}

theorem start : Downlink f .start where
  attentive := .start
  streaming := fun _ => ⟨⟨rfl, by simp [FlowView.start, ServerFlow.fresh], rfl,
    by simp [FlowView.start, ServerFlow.fresh]⟩, rfl, by simp [FlowView.start], .inl rfl,
    by simp [FlowView.start], trivial, fun _ => rfl⟩
  delivered := by simp [FlowView.start, ClientFlow.Shut, ClientFlow.fresh]

theorem moves (downlink : Downlink f view) (orderly : view.DeliversOrderly move)
    (moves : FlowMoves cfg f view move next) : Downlink f next := by
  have attentive := downlink.attentive.moves orderly moves
  by_cases shut : view.client.Shut
  · have ⟨complete, closed⟩ := downlink.delivered shut
    have ⟨still, delivered⟩ := moves.shut shut
    have ⟨sent, closed'⟩ := moves.targetSent_eq downlink.attentive.born closed
    exact ⟨attentive, fun open_ => absurd still open_,
      fun _ => ⟨delivered.trans (complete.trans sent.symm), closed'⟩⟩
  · have streaming := downlink.streaming shut
    refine ⟨attentive, fun _ => streaming.moves downlink.attentive orderly shut moves, fun closing => ?_⟩
    have ⟨server, delivered, frame, rest, arrived, ends⟩ := moves.closes downlink.attentive orderly shut closing
    rw [server, delivered]
    exact streaming.delivered_eq arrived ends

end Downlink

/-- If the target's close is orderly, a closed flow channel has been given exactly what the target sent before it
closed its side. -/
theorem delivered_eq_of_orderly_close (cfg : Config) (f : FlowId) {actions : List Action} {final : State}
    (orderly : Transition.Meets (step cfg) (State.Guarded f FlowView.DeliversOrderly) State.start actions)
    (reached : Transition.run (step cfg) State.start actions = some final)
    (shut : (final.client f).Shut) :
    (final.client f).delivered = (final.server f).targetSent ∧ (final.server f).targetClosed = true := by
  have downlink : Downlink f (final.view f) :=
    State.run_view_of_guarded (fun _ _ _ holds orderly moves => Downlink.moves holds orderly moves)
      Downlink.start orderly reached
  exact downlink.delivered shut

/-- The target sends two bytes and closes; its data is on the wire before the relay ends. -/
def orderlyEnd : List Action :=
  openFlow 1 ++ ([.sender .pollControl, .server 1 (.targetWrite [1, 2]), .server 1 .targetClose] : List Action) ++
  forwardChunk 1 2 ++
  ([.server 1 .relayGate, .server 1 .relayEof, .server 1 .relayRemove, .server 1 .relayClose,
    .sender .pollControl, .clientReceive, .clientReceive, .clientReceive] : List Action)

theorem orderlyEnd_delivered : ∃ final,
    Transition.run (step roomy) State.start orderlyEnd = some final ∧
      (final.client 1).delivered = [1, 2] ∧ (final.server 1).targetClosed = true := by
  refine Transition.exists_of_evaluated (p := fun state => (state.client 1).phase = .running ∧
    (state.client 1).registered = false ∧ (state.server 1).targetSent = [1, 2]) (by decide +kernel) ?_
  rintro final reached ⟨running, removed, sent⟩
  have whole := delivered_eq_of_orderly_close roomy 1 (by decide +kernel) reached ⟨running, removed⟩
  exact ⟨whole.1.trans sent, whole.2⟩

/-- With `run_ws_sender` slower than the relay, the `CloseFlow` on the control channel overtakes the data on `tx`, and
the client drops the data as that of an unknown flow. -/
def overtakingClose : List Action :=
  openFlow 1 ++ ([.server 1 (.targetWrite [1, 2]), .server 1 .targetClose, .server 1 .relayGate,
    .server 1 (.relayRead 2), .server 1 .relayPush, .server 1 .relayGate, .server 1 .relayEof,
    .server 1 .relayRemove, .server 1 .relayClose, .sender .pollControl, .sender .pollControl,
    .sender .pollControl, .sender .pollData, .clientReceive, .clientReceive, .clientReceive] : List Action)

theorem overtakingClose_loses_data :
    (Transition.run (step roomy) State.start overtakingClose).map
      (fun state => (((state.server 1).targetSent, (state.server 1).forwarded, state.downWire),
        (state.client 1).phase, (state.client 1).registered, (state.client 1).delivered)) =
      some (([1, 2], [1, 2], []), .running, false, []) := by
  decide +kernel

end Rvpn.Mux
