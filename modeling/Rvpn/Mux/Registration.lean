import Rvpn.Mux.Lifecycle

/-! When the server's frames find their flow: `open_flow` sends `CreateFlow` before it registers the flow. -/

namespace Rvpn.Mux

namespace ClientFlow

/-- `open_flow` has drawn the flow's id, and the flow has not been taken out of `flow_states`. -/
def stillOpen (flow : ClientFlow) : Bool :=
  flow.phase = .allocated || flow.phase = .created || flow.registered

end ClientFlow

/-- The server takes the `CreateFlow` of a flow off the wire only when the client has registered it. -/
def servesRegistered (state : State) : Action → Bool
  | .receiver .receive =>
    match state.upWire with
    | .control (.createFlow f _ _) :: _ => (state.client f).phase = .running
    | _ => true
  | _ => true

def FlowView.ServesRegistered (view : FlowView) (move : FlowAction) : Prop :=
  ∀ crowded, move = .receive crowded → ∀ frame rest, view.up = frame :: rest → frame.isCreate = true →
    view.client.phase = .running

/-- Until it is registered a flow has sent its request at most, and the server knows nothing of it. -/
structure Unanswered (view : FlowView) : Prop where
  fresh : view.server = .fresh
  idle : view.rx = .idle
  unclosed : view.closing = false
  requests : ∀ frame ∈ view.up, frame.isCreate = true
  tx : view.tx = []
  control : view.control = []
  down : view.down = []

structure Registered (view : FlowView) : Prop where
  tasks : view.client.TasksAfterOpen
  unanswered : view.client.phase ≠ .running → Unanswered view

namespace Registered

variable {cfg : Config} {f : FlowId} {view next : FlowView} {move : FlowAction}

theorem start : Registered .start where
  tasks := fun _ => ⟨rfl, rfl, rfl, rfl⟩
  unanswered := fun _ => ⟨rfl, rfl, rfl, nofun, rfl, rfl, rfl⟩

theorem arrived (registered : Registered view) (arrived : view.up = frame :: rest)
    (served : frame.isCreate = true → view.client.phase = .running) : view.client.phase = .running := by
  by_contra early
  exact early (served ((registered.unanswered early).requests frame (by simp [arrived])))

theorem clientSend (registered : Registered view) (moves : view.client.Moves cfg f action flow (some frame)) :
    Registered { view with client := flow, up := view.sendUp frame } := by
  refine ⟨moves.tasksAfterOpen registered.tasks, fun early => ?_⟩
  have before : view.client.phase ≠ .running := fun running => early (moves.running running)
  obtain ⟨-, -, target, port, rfl⟩ := moves.early_output registered.tasks before
  have unanswered := registered.unanswered before
  refine { unanswered with requests := fun other member => ?_ }
  have sent : other ∈ view.up ++ [.control (.createFlow f target port)] := by
    simp only [FlowView.sendUp] at member
    split at member
    · exact member
    · exact List.mem_append_left _ member
  rcases List.mem_append.mp sent with old | new
  · exact unanswered.requests other old
  · cases List.mem_singleton.mp new
    rfl

theorem moves (registered : Registered view) (moves : FlowMoves cfg f view move next)
    (served : view.ServesRegistered move) : Registered next := by
  have running_of (answered : ¬ Unanswered view) : view.client.phase = .running :=
    by_contra fun early => answered (registered.unanswered early)
  cases moves with
  | allocate unopened =>
    have unanswered := registered.unanswered (by simp [unopened])
    exact ⟨fun _ => registered.tasks (by simp [unopened]), fun _ => { unanswered with }⟩
  | clientSilent action flow moves =>
    refine ⟨moves.tasksAfterOpen registered.tasks, fun early => ?_⟩
    exact { registered.unanswered fun running => early (moves.running running) with }
  | clientSend action flow frame moves online => exact registered.clientSend moves
  | clientReceive frame rest arrived ready =>
    have running := running_of fun unanswered => by simp [unanswered.down] at arrived
    refine ⟨ClientFlow.tasksAfterOpen_receive registered.tasks frame, fun early => ?_⟩
    exact absurd ((view.client.phase_receive frame).trans running) early
  | clientClose closing =>
    have running := running_of fun unanswered => by simp [unanswered.unclosed] at closing
    exact ⟨registered.tasks, fun early => absurd running early⟩
  | shutdown =>
    refine ⟨ClientFlow.tasksAfterOpen_removeFlowState registered.tasks, fun early => ?_⟩
    rw [ClientFlow.phase_removeFlowState] at early
    exact { registered.unanswered early with }
  | upFail => exact ⟨registered.tasks, fun early => { registered.unanswered early with }⟩
  | serverSilent action flow moves =>
    refine ⟨registered.tasks, fun early => ?_⟩
    have unanswered := registered.unanswered early
    rw [unanswered.fresh] at moves
    exact { unanswered with fresh := moves.of_fresh.1 }
  | serverData action flow payload moves | serverControl action flow message moves =>
    have running := running_of fun unanswered => by
      rw [unanswered.fresh] at moves
      cases moves.of_fresh.2
    exact ⟨registered.tasks, fun early => absurd running early⟩
  | receiveData _ _ _ arrived | receiveCreate _ _ _ arrived | refuseCreate _ _ _ _ arrived
  | receiveClose _ _ arrived | receiveUpdate _ _ _ arrived | receiveIgnored _ _ _ arrived =>
    have running := registered.arrived arrived (served _ rfl _ _ arrived)
    exact ⟨registered.tasks, fun early => absurd running early⟩
  | connected busy | connectFailed busy | insertFlow busy | replyCreated busy | replyOverflown _ busy
  | reply _ busy | flush _ _ busy =>
    have running := running_of fun unanswered => by simp [unanswered.idle] at busy
    exact ⟨registered.tasks, fun early => absurd running early⟩
  | takeControl message rest waiting =>
    have running := running_of fun unanswered => by simp [unanswered.control] at waiting
    exact ⟨registered.tasks, fun early => absurd running early⟩
  | takeData payload rest waiting =>
    have running := running_of fun unanswered => by simp [unanswered.tx] at waiting
    exact ⟨registered.tasks, fun early => absurd running early⟩
  | sessionEnd =>
    refine ⟨registered.tasks, fun early => ?_⟩
    have unanswered := registered.unanswered early
    exact { unanswered with fresh := by simp [unanswered.fresh, ServerFlow.removeFlow, ServerFlow.fresh] }

end Registered

theorem State.up_of_head {state : State} {f : FlowId} {frame : Frame} {rest : List Frame}
    (first : state.upWire = frame :: rest) (own : frame.flow = some f) :
    ∃ others, (state.view f).up = frame :: others := by
  refine ⟨rest.filter fun frame => frame.flow = some f, ?_⟩
  simp [State.view, first, own]

theorem State.guarded_of_servesRegistered {state : State} {action : Action} (f : FlowId)
    (served : servesRegistered state action = true) :
    State.Guarded f FlowView.ServesRegistered state action := by
  rintro move label crowded rfl frame rest arrived creates
  have receives : action = .receiver .receive ∧ (state.upWire.head?.bind Frame.flow) = some f := by
    cases action with
    | receiver action | sender action => cases action <;> simp_all [State.observe]
    | _ => simp_all [State.observe]
  obtain ⟨rfl, own⟩ := receives
  obtain ⟨first, head, own⟩ := Option.bind_eq_some_iff.mp own
  obtain ⟨others, wire⟩ := List.head?_eq_some_iff.mp head
  obtain ⟨later, up⟩ := State.up_of_head wire own
  obtain ⟨rfl, -⟩ := List.cons.inj (arrived.symm.trans up)
  cases frame with
  | data g payload => cases creates
  | control message =>
    cases message with
    | createFlow g target port =>
      cases own
      show (state.client f).phase = .running
      simpa [servesRegistered, wire] using served
    | _ => cases creates

/-- If the server takes a `CreateFlow` off the wire only when its flow is registered, the frame that the client's
receive loop takes next is not one of a flow that is open but unknown. -/
theorem open_flow_known {cfg : Config} {actions : List Action} {final : State}
    (served : Transition.Meets (step cfg) (fun state action => servesRegistered state action = true) .start actions)
    (reached : Transition.run (step cfg) .start actions = some final) {f : FlowId} {frame : Frame} {rest : List Frame}
    (arrived : final.downWire = frame :: rest) (own : frame.flow = some f)
    (stillOpen : (final.client f).stillOpen = true) : (final.client f).registered = true := by
  have guarded : Transition.Meets (step cfg) (State.Guarded f FlowView.ServesRegistered) .start actions :=
    served.mono fun _ _ => State.guarded_of_servesRegistered f
  have registered : Registered (final.view f) :=
    State.run_view_of_guarded (fun _ _ _ holds served moves => Registered.moves holds moves served) Registered.start
      guarded reached
  have running : (final.client f).phase = .running := by
    by_contra early
    have silent := (registered.unanswered early).down
    simp [State.view, arrived, own] at silent
  simpa [ClientFlow.stillOpen, running] using stillOpen

namespace RegistrationSample

/-- The target's first byte comes to the client after the server's `FlowCreated`. -/
def firstByte : List Action :=
  ([.server 1 (.targetWrite [7]), .sender .pollControl] : List Action) ++ forwardChunk 1 1 ++
    ([.clientReceive] : List Action)

def orderly : List Action := openFlow 1 ++ firstByte

/-- The server answers while `open_flow` is still on its way to `flow_states`. -/
def eager : List Action :=
  ([.openFlow, .client 1 (.create "example" 80), .receiver .receive, .receiver .connected,
    .receiver .insertFlow, .receiver .reply] : List Action) ++ firstByte

end RegistrationSample

/-- The first byte finds its flow. -/
theorem orderly_flow_known :
    ∃ final, Transition.run (step roomy) .start RegistrationSample.orderly = some final ∧
      final.downWire = [.data 1 [7]] ∧ (final.client 1).registered = true := by
  refine Transition.exists_of_evaluated (p := fun final => final.downWire = [.data 1 [7]] ∧
    (final.client 1).stillOpen = true) (by decide +kernel) fun final reached facts => ?_
  exact ⟨facts.1, open_flow_known (by decide +kernel) reached facts.1 rfl facts.2⟩

/-- The first byte comes for a flow that is open and unknown, and the flow that is then registered
never gets it. -/
theorem eager_byte_discarded :
    (Transition.run (step roomy) .start RegistrationSample.eager).map
        (fun final => (final.downWire, (final.client 1).stillOpen, (final.client 1).registered)) =
      some ([.data 1 [7]], true, false) ∧
    (Transition.run (step roomy) .start (RegistrationSample.eager ++ [.clientReceive, .client 1 .register])).map
        (fun final => (final.downWire, (final.client 1).registered, (final.client 1).wsToLocal)) =
      some ([], true, []) := by
  decide +kernel

end Rvpn.Mux
