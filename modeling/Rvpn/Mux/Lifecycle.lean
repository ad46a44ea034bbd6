import Rvpn.Mux.FlowView

/-! How a flow comes into being: `CreateFlow` is its first frame, so no payload is ever buffered ahead of the flow.
-/

namespace Rvpn.Mux

namespace ClientFlow

/-- The tasks of a flow exist only once `open_flow` has registered it. -/
def TasksAfterOpen (flow : ClientFlow) : Prop :=
  flow.phase ≠ .running →
    flow.registered = false ∧ flow.loop = .absent ∧ flow.relay = .absent ∧ flow.closing = false

variable {cfg : Config} {f : FlowId} {flow next : ClientFlow} {action : ClientAction}
  {output : Option Frame}

theorem Moves.tasksAfterOpen (moves : Moves cfg f flow action next output)
    (holds : flow.TasksAfterOpen) : next.TasksAfterOpen := by
  intro early
  cases moves with
  | create target port allocated => exact holds (by simp [allocated])
  | register created => exact absurd rfl early
  | loopStall parked =>
    obtain ⟨data, parked⟩ := parked
    have absent := (holds (by simpa using early)).2.1
    simp [parked] at absent
  | _ =>
    have absent := holds early
    simp_all

/-- Before registration the only frame a flow sends is its `CreateFlow`. -/
theorem Moves.early_output (moves : Moves cfg f flow action next (some frame)) (holds : flow.TasksAfterOpen)
    (early : flow.phase ≠ .running) :
    flow.phase = .allocated ∧ next.phase = .created ∧ ∃ target port,
      frame = .control (.createFlow f target port) := by
  have absent := holds early
  cases moves with
  | _ => simp_all

theorem Moves.phase_silent (moves : Moves cfg f flow action next none) :
    (flow.phase = .unopened ∨ flow.phase = .allocated → next.phase = .unopened ∨ next.phase = .allocated) ∧
    (flow.phase = .created ∨ flow.phase = .running → next.phase = .created ∨ next.phase = .running) := by
  cases moves <;> simp_all [finishRelay]

/-- Once registered, a flow sends no further `CreateFlow` and stays registered. -/
theorem Moves.running_output (moves : Moves cfg f flow action next (some frame))
    (running : flow.phase = .running) : frame.isCreate = false ∧ next.phase = .running := by
  cases moves <;> simp_all [Frame.isCreate]

theorem tasksAfterOpen_removeFlowState (holds : flow.TasksAfterOpen) :
    flow.removeFlowState.TasksAfterOpen := by
  intro early
  have absent := holds (by simpa using early)
  simp [removeFlowState, absent]

theorem receive_early (holds : flow.TasksAfterOpen) (early : flow.phase ≠ .running) (frame : Frame) :
    flow.receive frame = (flow, false) := by
  have unregistered := (holds early).1
  cases frame with
  | data g payload => simp [receive, dispatchDataFrame, unregistered]
  | control message =>
    cases message <;> simp [receive, handleControlMessage, removeFlowState, grantCredits, unregistered]

theorem tasksAfterOpen_receive (holds : flow.TasksAfterOpen) (frame : Frame) :
    (flow.receive frame).1.TasksAfterOpen := by
  intro early
  rw [phase_receive] at early
  rw [receive_early holds early]
  exact holds early

end ClientFlow

namespace ServerFlow

variable {cfg : Config} {f : FlowId} {flow next : ServerFlow} {action : ServerAction}
  {output : Option ServerOutput}

theorem Moves.of_fresh (moves : Moves cfg f .fresh action next output) :
    next = .fresh ∧ output = none := by
  cases moves <;> simp_all [fresh]

section

variable (moves : Moves cfg f flow action next output)
include moves

theorem Moves.received_eq :
    next.received = flow.received ∧ next.enqueued = flow.enqueued ∧ next.pending = flow.pending := by
  cases moves <;> exact ⟨rfl, rfl, rfl⟩

theorem Moves.entry_eq (out : flow.entry ≠ .inserted) :
    next.entry = flow.entry := by
  cases moves <;> first | rfl | contradiction

theorem Moves.writer_done (done : flow.writer = .done) :
    next.writer = .done := by
  cases moves <;> simp_all

end

theorem removeFlow_received (flow : ServerFlow) : flow.removeFlow.received = flow.received ∧
    flow.removeFlow.enqueued = flow.enqueued ∧ flow.removeFlow.pending = flow.pending := by
  unfold removeFlow
  split <;> exact ⟨rfl, rfl, rfl⟩

theorem removeFlow_of_ne (out : flow.entry ≠ .inserted) : flow.removeFlow = flow := by
  simp [removeFlow, out]

end ServerFlow

/-- The stages of a flow: not yet requested, `CreateFlow` on the wire, `CreateFlow` being
served, served. -/
inductive Lifecycle (f : FlowId) (view : FlowView) : Prop where
  | before (early : view.client.phase = .unopened ∨ view.client.phase = .allocated)
      (silent : view.up = []) (fresh : view.server = .fresh) (idle : view.rx = .idle)
      (unclosed : view.closing = false)
  | requested (target : String) (port : UInt16) (rest : List Frame)
      (late : view.client.phase = .created ∨ view.client.phase = .running)
      (first : view.up = .control (.createFlow f target port) :: rest)
      (once : ∀ frame ∈ rest, frame.isCreate = false) (fresh : view.server = .fresh)
      (idle : view.rx = .idle)
  | opening (late : view.client.phase = .created ∨ view.client.phase = .running)
      (once : ∀ frame ∈ view.up, frame.isCreate = false)
      (served : view.rx = .connecting f ∧ view.server = .fresh ∨
        view.rx = .spawned f ∧ view.server.entry = .absent ∨ view.rx = .created f)
      (unread : view.server.received = [] ∧ view.server.enqueued = [] ∧ view.server.pending = [])
  | opened (late : view.client.phase = .created ∨ view.client.phase = .running)
      (once : ∀ frame ∈ view.up, frame.isCreate = false)
      (served : view.rx = .idle ∨ view.rx = .overflown f [] ∨
        ∃ error, view.rx = .replying (.flowFailed f error))

structure Born (f : FlowId) (view : FlowView) : Prop where
  tasks : view.client.TasksAfterOpen
  life : Lifecycle f view

namespace Lifecycle

variable {cfg : Config} {f : FlowId} {view : FlowView}

theorem congr (life : Lifecycle f view) (phase : other.client.phase = view.client.phase)
    (up : other.up = view.up) (server : other.server = view.server) (rx : other.rx = view.rx)
    (closing : view.closing = false → other.closing = false) : Lifecycle f other := by
  cases life with
  | before early silent fresh idle unclosed =>
    exact .before (phase ▸ early) (up.trans silent) (server.trans fresh) (rx.trans idle) (closing unclosed)
  | requested target port rest late first once fresh idle =>
    exact .requested target port rest (phase ▸ late) (up.trans first) once (server.trans fresh)
      (rx.trans idle)
  | opening late once served unread =>
    exact .opening (phase ▸ late) (up ▸ once) (by rwa [rx, server]) (by rwa [server])
  | opened late once served => exact .opened (phase ▸ late) (up ▸ once) (by rwa [rx])

theorem setClient (life : Lifecycle f view)
    (early : view.client.phase = .unopened ∨ view.client.phase = .allocated →
      flow.phase = .unopened ∨ flow.phase = .allocated)
    (late : view.client.phase = .created ∨ view.client.phase = .running →
      flow.phase = .created ∨ flow.phase = .running) :
    Lifecycle f { view with client := flow } := by
  cases life with
  | before before silent fresh idle unclosed => exact .before (early before) silent fresh idle unclosed
  | requested target port rest after first once fresh idle =>
    exact .requested target port rest (late after) first once fresh idle
  | opening after once served unread => exact .opening (late after) once served unread
  | opened after once served => exact .opened (late after) once served

/-- A frame other than `CreateFlow` goes on the wire after the request. -/
theorem sendUp (life : Lifecycle f view) (plain : frame.isCreate = false)
    (late : view.client.phase = .created ∨ view.client.phase = .running) :
    Lifecycle f { view with up := view.sendUp frame } := by
  have kept : ∀ {frames : List Frame}, (∀ other ∈ frames, other.isCreate = false) →
      ∀ other ∈ frames ++ [frame], other.isCreate = false := by
    intro frames once other member
    rcases List.mem_append.mp member with old | new
    · exact once other old
    · rw [List.mem_singleton.mp new]
      exact plain
  unfold FlowView.sendUp
  split
  · cases life with
    | before early => rcases late with late | late <;> simp [late] at early
    | requested target port rest after first once fresh idle =>
      exact .requested target port (rest ++ [frame]) after (by simp [first]) (kept once) fresh idle
    | opening after once served unread => exact .opening after (kept once) served unread
    | opened after once served => exact .opened after (kept once) served
  · exact life

theorem setServer (life : Lifecycle f view) (moves : view.server.Moves cfg f action flow output) :
    Lifecycle f { view with server := flow } := by
  have kept : view.server = .fresh → flow = .fresh := by
    intro fresh
    rw [fresh] at moves
    exact moves.of_fresh.1
  cases life with
  | before early silent fresh idle unclosed => exact .before early silent (kept fresh) idle unclosed
  | requested target port rest late first once fresh idle =>
    exact .requested target port rest late first once (kept fresh) idle
  | opening late once served unread =>
    refine .opening late once ?_ ?_
    · rcases served with ⟨connecting, fresh⟩ | ⟨spawned, absent⟩ | created
      · exact .inl ⟨connecting, kept fresh⟩
      · exact .inr (.inl ⟨spawned, (moves.entry_eq (by simp [absent])).trans absent⟩)
      · exact .inr (.inr created)
    · obtain ⟨received, enqueued, pending⟩ := moves.received_eq
      exact ⟨received.trans unread.1, enqueued.trans unread.2.1, pending.trans unread.2.2⟩
  | opened late once served => exact .opened late once served

end Lifecycle

namespace Born

variable {cfg : Config} {f : FlowId} {view next : FlowView} {move : FlowAction}

theorem start : Born f .start where
  tasks := fun _ => ⟨rfl, rfl, rfl, rfl⟩
  life := .before (.inl rfl) rfl rfl rfl rfl

end Born

namespace Lifecycle

variable {cfg : Config} {f : FlowId} {view : FlowView}

/-- The receive loop takes a frame of the flow: its `CreateFlow`, while the flow is
fresh, or another frame after that. -/
theorem of_arrived (life : Lifecycle f view) (arrived : view.up = frame :: rest) (idle : view.rx = .idle) :
    (view.client.phase = .created ∨ view.client.phase = .running) ∧
    (∀ other ∈ rest, other.isCreate = false) ∧
    (frame.isCreate = true → view.server = .fresh) := by
  cases life with
  | before early silent => simp [silent] at arrived
  | requested target port others late first once fresh =>
    obtain ⟨rfl, rfl⟩ := List.cons.inj (first.symm.trans arrived)
    exact ⟨late, once, fun _ => fresh⟩
  | opening late once served unread => simp [idle] at served
  | opened late once served =>
    have plain : frame.isCreate = false := once frame (by simp [arrived])
    refine ⟨late, fun other member => once other (by simp [arrived, member]), ?_⟩
    simp [plain]

end Lifecycle

namespace Born

variable {cfg : Config} {f : FlowId} {view next : FlowView} {move : FlowAction}

section

variable (born : Born f view)
include born

/-- The receive loop has dealt with a frame other than `CreateFlow`. -/
theorem received (arrived : view.up = frame :: rest) (idle : view.rx = .idle)
    (served : rx = .idle ∨ rx = .overflown f [] ∨ ∃ error, rx = .replying (.flowFailed f error)) :
    Born f { view with server, up := rest, rx } := by
  obtain ⟨late, once, -⟩ := born.life.of_arrived arrived idle
  exact ⟨born.tasks, .opened late once served⟩

/-- A frame that no `CreateFlow` can be goes on the wire. -/
theorem clientSend (moves : view.client.Moves cfg f action flow (some frame))
    (online : frame.isData = true ∨ frame.isCreate = true → view.upOpen = true) :
    Born f { view with client := flow, up := view.sendUp frame } := by
  refine ⟨moves.tasksAfterOpen born.tasks, ?_⟩
  by_cases running : view.client.phase = .running
  · obtain ⟨plain, still⟩ := moves.running_output running
    have sent := born.life.sendUp plain (.inr running)
    exact sent.setClient (by simp [running]) (fun _ => .inr still)
  · obtain ⟨allocated, created, target, port, rfl⟩ := moves.early_output born.tasks running
    cases born.life with
    | before early silent fresh idle unclosed =>
      refine .requested target port [] (.inl created) ?_ (by simp) fresh idle
      simp [FlowView.sendUp, online (.inr rfl), silent]
    | requested target port rest late | opening late | opened late => simp [allocated] at late

theorem moves (moves : FlowMoves cfg f view move next) : Born f next := by
  cases moves with
  | allocate unopened =>
    refine ⟨fun _ => born.tasks (by simp [unopened]), born.life.setClient (fun _ => .inr rfl) ?_⟩
    simp [unopened]
  | clientSilent action flow moves =>
    exact ⟨moves.tasksAfterOpen born.tasks, born.life.setClient moves.phase_silent.1 moves.phase_silent.2⟩
  | clientSend action flow frame moves online => exact born.clientSend moves online
  | clientReceive frame rest arrived ready =>
    refine ⟨ClientFlow.tasksAfterOpen_receive born.tasks frame, ?_⟩
    have same := view.client.phase_receive frame
    cases born.life with
    | before early silent fresh idle =>
      have waiting : view.client.phase ≠ .running := by rcases early with early | early <;> simp [early]
      have ignored := ClientFlow.receive_early born.tasks waiting frame
      exact .before (same ▸ early) silent fresh idle (by rw [ignored])
    | requested target port others late first once fresh idle =>
      exact .requested target port others (same ▸ late) first once fresh idle
    | opening late once served unread => exact .opening (same ▸ late) once served unread
    | opened late once served => exact .opened (same ▸ late) once served
  | clientClose closing =>
    have late : view.client.phase = .created ∨ view.client.phase = .running := by
      cases born.life with
      | before early silent fresh idle unclosed => simp [closing] at unclosed
      | requested target port rest late => exact late
      | opening late => exact late
      | opened late => exact late
    have plain : (Frame.control (.closeFlow f)).isCreate = false := rfl
    exact ⟨born.tasks, (born.life.sendUp plain late).congr rfl rfl rfl rfl fun _ => rfl⟩
  | shutdown =>
    have same := view.client.phase_removeFlowState
    exact ⟨ClientFlow.tasksAfterOpen_removeFlowState born.tasks,
      born.life.setClient (same ▸ id) (same ▸ id)⟩
  | upFail | takeControl | takeData => exact ⟨born.tasks, born.life.congr rfl rfl rfl rfl id⟩
  | serverSilent action flow moves => exact ⟨born.tasks, born.life.setServer moves⟩
  | serverData action flow payload moves | serverControl action flow message moves =>
    exact ⟨born.tasks, (born.life.setServer moves).congr rfl rfl rfl rfl id⟩
  | receiveData crowded payload rest arrived idle =>
    refine born.received arrived idle ?_
    cases (view.server.dispatchData cfg.tunEnabled payload).2 with
    | false => exact .inl rfl
    | true => exact .inr (.inl rfl)
  | receiveCreate target port rest arrived idle =>
    obtain ⟨late, once, fresh⟩ := born.life.of_arrived arrived idle
    have unread : view.server = .fresh := fresh rfl
    exact ⟨born.tasks, .opening late once (.inl ⟨rfl, unread⟩) (by simp [unread, ServerFlow.fresh])⟩
  | refuseCreate target port rest error arrived idle =>
    exact born.received arrived idle (.inr (.inr ⟨error, rfl⟩))
  | receiveClose crowded rest arrived idle | receiveUpdate crowded n rest arrived idle
  | receiveIgnored crowded message rest arrived idle =>
    exact born.received arrived idle (.inl idle)
  | connected connecting =>
    cases born.life with
    | opening late once served unread =>
      exact ⟨born.tasks, .opening late once (.inr (.inl ⟨rfl, rfl⟩)) unread⟩
    | _ => simp_all
  | connectFailed connecting =>
    cases born.life with
    | opening late once served unread => exact ⟨born.tasks, .opened late once (.inl rfl)⟩
    | _ => simp_all
  | insertFlow spawned =>
    cases born.life with
    | opening late once served unread =>
      exact ⟨born.tasks, .opening late once (.inr (.inr rfl)) unread⟩
    | _ => simp_all
  | replyCreated created =>
    cases born.life with
    | opening late once served unread =>
      refine ⟨born.tasks, .opened late once (.inl ?_)⟩
      simp [unread.2.2, flushNext]
    | _ => simp_all
  | replyOverflown frames overflown =>
    cases born.life with
    | opened late once served =>
      have none : frames = [] := by simpa [overflown] using served
      exact ⟨born.tasks, .opened late once (.inl (by simp [none, flushNext]))⟩
    | _ => simp_all
  | reply message replying =>
    cases born.life with
    | opened late once served => exact ⟨born.tasks, .opened late once (.inl rfl)⟩
    | _ => simp_all
  | flush data frames flushing =>
    cases born.life with
    | _ => simp_all
  | sessionEnd =>
    refine ⟨born.tasks, ?_⟩
    cases born.life with
    | before early silent fresh idle unclosed =>
      exact .before early silent (by rw [fresh]; rfl) idle unclosed
    | requested target port rest late first once fresh idle =>
      exact .requested target port rest late first once (by rw [fresh]; rfl) idle
    | opening late once served unread =>
      refine .opening late once ?_ ?_
      · rcases served with ⟨connecting, fresh⟩ | ⟨spawned, absent⟩ | created
        · exact .inl ⟨connecting, by rw [fresh]; rfl⟩
        · exact .inr (.inl ⟨spawned, by rwa [ServerFlow.removeFlow_of_ne (by simp [absent])]⟩)
        · exact .inr (.inr created)
      · obtain ⟨received, enqueued, pending⟩ := view.server.removeFlow_received
        exact ⟨received.trans unread.1, enqueued.trans unread.2.1, pending.trans unread.2.2⟩
    | opened late once served => exact .opened late once served

theorem fresh_of_connecting (connecting : view.rx = .connecting f) :
    view.server = .fresh := by
  cases born.life with
  | before early silent fresh => exact fresh
  | requested target port rest late first once fresh => exact fresh
  | opening late once served => simpa [connecting] using served
  | opened late once served => simp [connecting] at served

theorem unread_of_spawned (spawned : view.rx = .spawned f) :
    view.server.entry = .absent ∧ view.server.received = [] ∧ view.server.enqueued = [] := by
  cases born.life with
  | before early silent fresh | requested target port rest late first once fresh => simp [fresh, ServerFlow.fresh]
  | opening late once served unread =>
    have absent : view.server.entry = .absent := by simpa [spawned] using served
    exact ⟨absent, unread.1, unread.2.1⟩
  | opened late once served => simp [spawned] at served

theorem pending_of_created (created : view.rx = .created f) :
    view.server.pending = [] := by
  cases born.life with
  | _ => simp_all

theorem failed_of_replying (replying : view.rx = .replying message) :
    ∃ error, message = .flowFailed f error := by
  cases born.life <;> simp_all

theorem not_flushing (frames : List Bytes) : view.rx ≠ .flushing f frames := by
  intro flushing
  cases born.life <;> simp_all

end

end Born

/-- A `CreateFlow` on the wire is its flow's first frame and its only one, the server has nothing of the flow before
it, and `pending_flows` never has a frame of it to flush. -/
theorem createFlow_comes_first (cfg : Config) (f : FlowId) : Transition.Always (step cfg) State.start fun state =>
    (∀ before after target port, (state.view f).up = before ++ .control (.createFlow f target port) :: after →
      before = [] ∧ (∀ frame ∈ after, frame.isCreate = false) ∧ state.server f = .fresh) ∧
    ∀ frames, state.rx ≠ .flushing f frames := by
  intro actions final reached
  have born : Born f (final.view f) := State.run_view (fun _ _ _ holds moves => holds.moves moves) .start reached
  refine ⟨fun before after target port sent => ?_, fun frames flushing => born.not_flushing frames ?_⟩
  · have present : Frame.control (.createFlow f target port) ∈ (final.view f).up := by simp [sent]
    cases born.life with
    | before early silent => simp [silent] at present
    | requested target' port' rest late first once fresh =>
      rw [first] at sent
      cases before with
      | nil =>
        cases sent
        exact ⟨rfl, once, fresh⟩
      | cons other before =>
        obtain ⟨-, rfl⟩ := List.cons.inj sent
        cases once (.control (.createFlow f target port)) (by simp)
    | opening late once | opened late once => cases once _ present
  · simp [State.view, State.rxOf, ReceiverPhase.flow, flushing]

end Rvpn.Mux
