import Rvpn.Mux.Socks5Tunnel

/-! What is left of a flow in `flow_states`: after the application has dropped it, and after the
receive loop has ended. -/

namespace Rvpn.Mux

namespace ClientFlow

variable {cfg : Config} {f : FlowId} {flow next : ClientFlow} {action : ClientAction} {output : Option Frame}

structure Closed (flow : ClientFlow) : Prop where
  unregistered : flow.registered = false
  settled : flow.phase = .unopened ∨ flow.phase = .running

/-- What has left `flow_states` has its credit gate closed. -/
def Gated (flow : ClientFlow) : Prop := flow.phase = .running → flow.registered = true ∨ flow.credits.closed = true

@[simp] theorem registered_removeFlowState (flow : ClientFlow) : flow.removeFlowState.registered = false := by
  unfold removeFlowState
  split
  · rfl
  · rename_i unregistered
    exact Bool.eq_false_iff.mpr unregistered

@[simp] theorem relay_removeFlowState (flow : ClientFlow) : flow.removeFlowState.relay = flow.relay := by
  unfold removeFlowState
  split <;> rfl

theorem Moves.closed (moves : Moves cfg f flow action next output) (closed : flow.Closed) : next.Closed := by
  obtain ⟨unregistered, settled⟩ := closed
  cases moves with
  | create target port allocated => simp [allocated] at settled
  | register created => simp [created] at settled
  | loopStall parked => exact ⟨registered_removeFlowState flow, by rwa [phase_removeFlowState]⟩
  | _ => exact ⟨unregistered, settled⟩

theorem Closed.removeFlowState (closed : flow.Closed) : flow.removeFlowState.Closed :=
  ⟨registered_removeFlowState flow, by rw [phase_removeFlowState]; exact closed.settled⟩

theorem Closed.receive (closed : flow.Closed) (frame : Frame) : (flow.receive frame).1.Closed := by
  have receives := flow.receives frame
  generalize (flow.receive frame).1 = next at receives ⊢
  cases receives with
  | unregister => exact closed.removeFlowState
  | _ => exact ⟨closed.unregistered, closed.settled⟩

theorem Gated.removeFlowState (gated : flow.Gated) : flow.removeFlowState.Gated := by
  intro running
  rw [phase_removeFlowState] at running
  unfold ClientFlow.removeFlowState
  split
  · exact .inr rfl
  · exact gated running

theorem Moves.gated (moves : Moves cfg f flow action next output) (gated : flow.Gated) : next.Gated := by
  cases moves with
  | create target port allocated => exact nofun
  | register created => exact fun _ => .inl rfl
  | loopStall parked => exact gated.removeFlowState
  | _ => exact gated

theorem Gated.receive (gated : flow.Gated) (frame : Frame) : (flow.receive frame).1.Gated := by
  have receives := flow.receives frame
  generalize (flow.receive frame).1 = next at receives ⊢
  cases receives with
  | unregister => exact gated.removeFlowState
  | _ => exact gated

/-- The relay returns, and the application's handle of the flow is dropped with it. -/
def drops (flow : ClientFlow) : ClientAction → Bool
  | .relayEof | .relayFail | .relayClosed => true
  | .relaySend => flow.loop = .exited
  | _ => false

theorem Moves.dropped (moves : Moves cfg f flow action next output) (done : next.relay = .done)
    (registered : next.registered = true) :
    flow.registered = true ∧ (flow.relay = .done ∨ flow.drops action = true) := by
  cases moves with
  | relayEof | relayFail | relayClosed => exact ⟨registered, .inr rfl⟩
  | relaySendClosed sending exited => exact ⟨registered, .inr (by simp [drops, exited])⟩
  | register | relayRead | relaySend | relayGrant => cases done
  | relayRecv | relayWrite =>
    simp only [writeAll] at done
    split at done <;> cases done
  | loopStall parked =>
    cases (registered_removeFlowState flow).symm.trans registered
  | _ => exact ⟨registered, .inl done⟩

/-- Only `open_flow` registers a flow. -/
theorem Moves.registered (moves : Moves cfg f flow action next output) (registered : next.registered = true) :
    flow.registered = true ∨ action = .register := by
  cases moves with
  | register => exact .inr rfl
  | loopStall parked => cases (registered_removeFlowState flow).symm.trans registered
  | _ => exact .inl registered

theorem receive_registered (registered : (flow.receive frame).1.registered = true) :
    flow.registered = true ∧ ∀ g, frame ≠ .control (.closeFlow g) := by
  cases frame with
  | data g payload =>
    simp only [ClientFlow.receive, dispatchDataFrame] at registered
    split at registered
    · exact ⟨registered, by simp⟩
    · rename_i known
      exact ⟨Bool.of_not_eq_false known, by simp⟩
  | control message =>
    cases message with
    | closeFlow g | flowFailed g error => simp [ClientFlow.receive, handleControlMessage] at registered
    | windowUpdate g n =>
      simp only [ClientFlow.receive, handleControlMessage, grantCredits] at registered
      split at registered
      · rename_i known
        exact ⟨known, by simp⟩
      · exact ⟨registered, by simp⟩
    | _ => exact ⟨registered, by simp⟩

theorem relay_receive (flow : ClientFlow) (frame : Frame) : (flow.receive frame).1.relay = flow.relay := by
  have receives := flow.receives frame
  generalize (flow.receive frame).1 = next at receives ⊢
  cases receives with
  | unregister => exact relay_removeFlowState flow
  | _ => rfl

end ClientFlow

namespace FlowMoves

variable {cfg : Config} {f : FlowId} {view next : FlowView} {move : FlowAction}

section

variable (moves : FlowMoves cfg f view move next)
include moves

theorem closed (other : move ≠ .allocate) (closed : view.client.Closed) : next.client.Closed :=
  moves.client_preserved (fun same => absurd same other) (fun moves => moves.closed closed) closed.receive
    closed.removeFlowState closed

theorem gated (gated : view.client.Gated) : next.client.Gated :=
  moves.client_preserved (fun _ _ => nofun) (fun moves => moves.gated gated) gated.receive gated.removeFlowState gated

theorem registered (registered : next.client.registered = true) :
    view.client.registered = true ∨ move = .client .register := by
  cases moves with
  | clientSilent action flow moves | clientSend action flow frame moves =>
    exact (moves.registered registered).imp_right (congrArg _)
  | clientReceive frame => exact .inl (ClientFlow.receive_registered registered).1
  | shutdown => simp at registered
  | _ => exact .inl registered

theorem tasksAfterOpen (tasks : view.client.TasksAfterOpen) : next.client.TasksAfterOpen :=
  moves.client_preserved (fun _ unopened _ => tasks (by simp [unopened])) (fun moves => moves.tasksAfterOpen tasks)
    (ClientFlow.tasksAfterOpen_receive tasks) (ClientFlow.tasksAfterOpen_removeFlowState tasks) tasks

end

end FlowMoves

/-- The server's `CloseFlow` is on its way to the client. -/
def FlowView.CloseUnderway (f : FlowId) (view : FlowView) : Prop :=
  .closeFlow f ∈ view.control ∨ .control (.closeFlow f) ∈ view.down

/-- A flow is dropped when it has been taken out, or when the server's `CloseFlow` is on its way. -/
def FlowView.DropsEnded (f : FlowId) (view : FlowView) (move : FlowAction) : Prop :=
  ∀ action, move = .client action → view.client.drops action = true → view.client.registered = true →
    view.CloseUnderway f

/-- A dropped flow that is still registered has a `CloseFlow` on its way to it. -/
def Parted (f : FlowId) (view : FlowView) : Prop :=
  view.client.relay = .done → view.client.registered = true → view.CloseUnderway f

theorem Parted.client (parted : Parted f view) (moves : view.client.Moves cfg f action next.client output)
    (ended : view.DropsEnded f (.client action)) (control : next.control = view.control)
    (down : next.down = view.down) :
    Parted f next := by
  intro done registered
  obtain ⟨known, dropped⟩ := moves.dropped done registered
  unfold FlowView.CloseUnderway
  rw [control, down]
  rcases dropped with already | drops
  · exact parted already known
  · exact ended action rfl drops known

theorem Parted.moves (parted : Parted f view) (moves : FlowMoves cfg f view move next)
    (ended : view.DropsEnded f move) : Parted f next := by
  cases moves with
  | clientSilent action flow moves | clientSend action flow frame moves => exact parted.client moves ended rfl rfl
  | clientReceive frame rest arrived ready =>
    intro done registered
    obtain ⟨known, other⟩ := ClientFlow.receive_registered registered
    refine (parted (by rwa [ClientFlow.relay_receive] at done) known).imp_right fun member => ?_
    rw [arrived] at member
    rcases List.mem_cons.mp member with first | later
    · exact absurd first.symm (other f)
    · exact later
  | shutdown =>
    intro _ registered
    simp at registered
  | serverControl | replyCreated | replyOverflown | reply =>
    exact fun done registered => (parted done registered).imp_left (List.mem_append_left _)
  | takeControl message rest waiting =>
    intro done registered
    rcases parted done registered with waits | arrives
    · rw [waiting] at waits
      rcases List.mem_cons.mp waits with rfl | later
      · exact .inr (List.mem_append_right _ (List.mem_singleton.mpr rfl))
      · exact .inl later
    · exact .inr (List.mem_append_left _ arrives)
  | takeData payload rest waiting =>
    exact fun done registered => (parted done registered).imp_right (List.mem_append_left _)
  | _ => exact parted

namespace State

variable {cfg : Config} {f g : FlowId} {state next : State} {action : Action}

theorem observe_client (label : observe f state action = some (.client move)) :
    action = .client f move := by
  cases action with
  | receiver action | sender action => cases action <;> simp_all [observe]
  | _ => simp_all [observe]

theorem registered_of_step (numbered : state.Numbered) (taken : step cfg state action = some next)
    (registered : (next.client f).registered = true) :
    (state.client f).registered = true ∨ action = .client f .register := by
  rcases view_step numbered taken with ⟨-, same⟩ | ⟨move, label, moves⟩
  · exact .inl ((congrArg (fun flow => flow.client.registered) same).symm.trans registered)
  · refine (FlowMoves.registered moves registered).imp_right fun same => ?_
    exact observe_client (same ▸ label)

theorem closed_of_step (numbered : state.Numbered) (taken : step cfg state action = some next)
    (other : action ≠ .openFlow) (closed : (state.client f).Closed) : (next.client f).Closed := by
  rcases view_step numbered taken with ⟨-, unseen⟩ | ⟨move, label, moves⟩
  · have same : next.client f = state.client f := congrArg FlowView.client unseen
    exact same ▸ closed
  · exact FlowMoves.closed moves (fun allocates => other (observe_allocate (allocates ▸ label))) closed

theorem mem_flowStates : f ∈ state.flowStates ↔ f < state.nextFlowId ∧ (state.client f).registered = true := by
  simp [flowStates]

theorem mem_flowStates_of_registered (numbered : state.Numbered) (tasks : (state.client f).TasksAfterOpen)
    (registered : (state.client f).registered = true) : f ∈ state.flowStates := by
  refine mem_flowStates.mpr ⟨?_, registered⟩
  by_contra undrawn
  have unopened := numbered f (Nat.le_of_not_lt undrawn)
  cases (tasks (by simp [unopened])).1.symm.trans registered

theorem flowStates_subset (numbered : state.Numbered) (taken : step cfg state action = some next)
    (other : action ≠ .openFlow) (silent : ∀ g, action ≠ .client g .register) : next.flowStates ⊆ state.flowStates := by
  intro g member
  obtain ⟨drawn, registered⟩ := mem_flowStates.mp member
  rw [nextFlowId_of_step taken other] at drawn
  rcases registered_of_step numbered taken registered with before | registers
  · exact mem_flowStates.mpr ⟨drawn, before⟩
  · exact absurd registers (silent g)

theorem flowStates_openFlow (numbered : state.Numbered) (taken : step cfg state .openFlow = some next)
    (fresh : ∀ g, (state.client g).TasksAfterOpen) : next.flowStates = state.flowStates := by
  have kept (g) : (next.client g).registered = (state.client g).registered := by
    cases taken
    simp only [setClient, Function.update_apply]
    split
    · rename_i same
      subst same
      rfl
    · rfl
  have drawn : next.nextFlowId = state.nextFlowId + 1 := by
    cases taken
    rfl
  ext g
  rw [mem_flowStates, mem_flowStates, kept, drawn]
  refine and_congr_left fun registered => ⟨fun inside => ?_, Nat.lt_succ_of_lt⟩
  refine Nat.lt_of_le_of_ne (Nat.le_of_lt_succ inside) fun same => ?_
  have unopened := numbered g (Nat.le_of_eq same.symm)
  cases (fresh g (by simp [unopened])).1.symm.trans registered

theorem created_of_register (taken : step cfg state (.client g .register) = some next) :
    (state.client g).phase = .created ∧ ∃ flow, flow.registered = true ∧ next = state.setClient g flow := by
  rcases clientStep_cases taken with ⟨flow, moves, -, rfl⟩ | ⟨flow, frame, moves, -, rfl⟩
  · cases moves with
    | register created => exact ⟨created, _, rfl, rfl⟩
  · cases moves

theorem flowStates_register (numbered : state.Numbered) (taken : step cfg state (.client g .register) = some next)
    (fresh : (state.client g).TasksAfterOpen) :
    g ∉ state.flowStates ∧ next.flowStates = insert g state.flowStates := by
  obtain ⟨created, flow, registered, rfl⟩ := created_of_register taken
  have drawn : g < state.nextFlowId := by
    by_contra undrawn
    cases created.symm.trans (numbered g (Nat.le_of_not_lt undrawn))
  refine ⟨fun member => ?_, ?_⟩
  · have absent := (fresh (by simp [created])).1
    cases absent.symm.trans (mem_flowStates.mp member).2
  · ext other
    rw [Finset.mem_insert, mem_flowStates, mem_flowStates]
    by_cases same : other = g
    · subst same
      simp [setClient, drawn, registered]
    · simp [setClient, same]

/-- The server's `CloseFlow` for the flow waits on the control channel or is on the wire. -/
def closeUnderway (state : State) (f : FlowId) : Bool :=
  state.control.contains (.closeFlow f) || state.downWire.contains (.control (.closeFlow f))

theorem closeUnderway_iff : state.closeUnderway f = true ↔ (view f state).CloseUnderway f := by
  simp [closeUnderway, FlowView.CloseUnderway, view, ControlMessage.flow]

/-- No `open_flow` is between its look at `alive` and the registration. -/
def noneOpening (state : State) : Bool :=
  (List.range state.nextFlowId).all fun f => (state.client f).phase ≠ .allocated && (state.client f).phase ≠ .created

theorem settled_of_noneOpening (numbered : state.Numbered) (calm : state.noneOpening = true) (f : FlowId) :
    (state.client f).phase = .unopened ∨ (state.client f).phase = .running := by
  rcases Nat.lt_or_ge f state.nextFlowId with drawn | undrawn
  · have settled := List.all_eq_true.mp calm f (List.mem_range.mpr drawn)
    simp only [Bool.and_eq_true, decide_eq_true_eq] at settled
    cases phase : (state.client f).phase with
    | unopened => exact .inl rfl
    | running => exact .inr rfl
    | allocated => exact absurd phase settled.1
    | created => exact absurd phase settled.2
  · exact .inl (numbered f undrawn)

end State

namespace Socks5Tunnel

variable {cfg : Config} {tunnel next : Socks5Tunnel} {action : TunnelAction}

/-- A registered flow is dropped only when the server's `CloseFlow` is on its way, and `shutdown` clears `flow_states`
while no flow is being opened. -/
def dropsEnded (tunnel : Socks5Tunnel) : TunnelAction → Bool
  | .mux (.client f action) =>
    !((tunnel.mux.client f).drops action && (tunnel.mux.client f).registered) || tunnel.mux.closeUnderway f
  | .shutdownClear => tunnel.counting = [] && tunnel.mux.noneOpening
  | _ => true

theorem guarded_of_dropsEnded (f : FlowId) (met : dropsEnded tunnel action = true) (found : Action)
    (same : task action = some found) : State.Guarded f (FlowView.DropsEnded f) tunnel.mux found := by
  intro move label act isClient drops registered
  subst isClient
  cases State.observe_client label
  cases action with
  | mux other =>
    cases same
    rw [← State.closeUnderway_iff]
    have drops : (tunnel.mux.client f).drops act = true := drops
    have registered : (tunnel.mux.client f).registered = true := registered
    simpa [dropsEnded, drops, registered] using met
  | _ => cases same

/-- `flow_count` is the number of entries less those still to be counted, until `shutdown` empties
both. -/
structure Mirrored (tunnel : Socks5Tunnel) : Prop where
  tracked : ∀ f, State.Tracked f (fun view => view.client.TasksAfterOpen ∧ Parted f view) tunnel.mux
  dead : tunnel.shutdown ≠ .uncalled → tunnel.alive = false
  emptied : tunnel.shutdown = .cleared ∨ tunnel.shutdown = .returned →
    tunnel.counting = [] ∧ ∀ f, (tunnel.mux.client f).Closed
  balance : tunnel.shutdown ≠ .cleared →
    tunnel.added + tunnel.counting.length = tunnel.mux.flowStates.card + tunnel.subtracted

theorem Mirrored.numbered (mirrored : Mirrored tunnel) : tunnel.mux.Numbered := (mirrored.tracked 0).1

theorem Mirrored.tasks (mirrored : Mirrored tunnel) (f : FlowId) : (tunnel.mux.client f).TasksAfterOpen :=
  (mirrored.tracked f).2.1

theorem flowStates_eq_empty (closed : ∀ f, (tunnel.mux.client f).Closed) : tunnel.mux.flowStates = ∅ := by
  refine Finset.eq_empty_of_forall_notMem fun f member => ?_
  cases (closed f).unregistered.symm.trans (State.mem_flowStates.mp member).2

section

variable (mirrored : Mirrored tunnel)
include mirrored

theorem Mirrored.tracked_step (met : dropsEnded tunnel action = true)
    (taken : step cfg tunnel action = some next) (f : FlowId) :
    State.Tracked f (fun view => view.client.TasksAfterOpen ∧ Parted f view) next.mux := by
  refine Socks5Tunnel.tracked_step ?_ (mirrored.tracked f) taken (guarded_of_dropsEnded f met)
  intro view move after holds ended moves
  exact ⟨moves.tasksAfterOpen holds.1, holds.2.moves moves ended⟩

theorem Mirrored.mux {action : Action} (met : dropsEnded tunnel (.mux action) = true)
    (taken : step cfg tunnel (.mux action) = some next) : Mirrored next := by
  have tracked := mirrored.tracked_step met taken
  obtain ⟨admitted, taken⟩ := Option.ite_none_right_eq_some.mp taken
  obtain ⟨state, stepped, rfl⟩ := Option.map_eq_some_iff.mp taken
  have other : action ≠ .openFlow := by
    rintro rfl
    cases admitted
  by_cases registers : ∃ g, action = .client g .register
  · obtain ⟨g, rfl⟩ := registers
    obtain ⟨absent, inserted⟩ := State.flowStates_register mirrored.numbered stepped (mirrored.tasks g)
    have kept : tunnel.mux.flowStates \ state.flowStates = ∅ := by
      rw [inserted, Finset.sdiff_eq_empty_iff_subset]
      exact Finset.subset_insert g _
    refine ⟨tracked, mirrored.dead, fun ended => ?_, fun steady => ?_⟩
    · have settled := ((mirrored.emptied ended).2 g).settled
      simp [(State.created_of_register stepped).1] at settled
    · have balance := mirrored.balance steady
      show tunnel.added + (g :: tunnel.counting).length =
        state.flowStates.card + (tunnel.subtracted + (tunnel.mux.flowStates \ state.flowStates).card)
      rw [kept, inserted, Finset.card_insert_of_notMem absent, List.length_cons, Finset.card_empty]
      omega
  · have silent : ∀ g, action ≠ .client g .register := fun g same => registers ⟨g, same⟩
    have fewer := State.flowStates_subset mirrored.numbered stepped other silent
    have same : registering action = [] := by
      unfold registering
      split
      · exact absurd rfl (silent _)
      · rfl
    refine ⟨tracked, mirrored.dead, fun ended => ?_, fun steady => ?_⟩
    · obtain ⟨counted, closed⟩ := mirrored.emptied ended
      refine ⟨by simp [follow, same, counted], fun f => ?_⟩
      exact State.closed_of_step mirrored.numbered stepped other (closed f)
    · have balance := mirrored.balance steady
      have split := Finset.card_sdiff_add_card_eq_card fewer
      show tunnel.added + (registering action ++ tunnel.counting).length =
        state.flowStates.card + (tunnel.subtracted + (tunnel.mux.flowStates \ state.flowStates).card)
      rw [same, List.nil_append]
      omega

theorem Mirrored.shutdownClear (met : dropsEnded tunnel .shutdownClear = true)
    (taken : step cfg tunnel .shutdownClear = some next) : Mirrored next := by
  have tracked := mirrored.tracked_step met taken
  obtain ⟨begun, taken⟩ := Option.ite_none_right_eq_some.mp taken
  obtain ⟨state, stepped, rfl⟩ := Option.map_eq_some_iff.mp taken
  simp only [dropsEnded, Bool.and_eq_true, decide_eq_true_eq] at met
  refine ⟨tracked, fun _ => mirrored.dead (by simp [begun]), fun _ => ⟨met.1, fun f => ?_⟩, fun steady => absurd rfl steady⟩
  cases stepped
  refine ⟨ClientFlow.registered_removeFlowState _, ?_⟩
  rw [ClientFlow.phase_removeFlowState]
  exact State.settled_of_noneOpening mirrored.numbered met.2 f

theorem Mirrored.openFlow (taken : step cfg tunnel .openFlow = some next) :
    Mirrored next := by
  have tracked := mirrored.tracked_step rfl taken
  obtain ⟨alive, taken⟩ := Option.ite_none_right_eq_some.mp taken
  obtain ⟨state, stepped, rfl⟩ := Option.map_eq_some_iff.mp taken
  refine ⟨tracked, mirrored.dead, fun ended => ?_, fun steady => ?_⟩
  · have called : tunnel.shutdown ≠ .uncalled := by
      intro uncalled
      rcases ended with ended | ended <;> cases uncalled.symm.trans ended
    cases alive.symm.trans (mirrored.dead called)
  · rw [State.flowStates_openFlow mirrored.numbered stepped mirrored.tasks]
    exact mirrored.balance steady

theorem Mirrored.count (taken : step cfg tunnel (.count f) = some next) :
    Mirrored next := by
  obtain ⟨member, rfl⟩ := Transition.of_guard taken
  refine ⟨mirrored.tracked, mirrored.dead, fun ended => ?_, fun steady => ?_⟩
  · simp [(mirrored.emptied ended).1] at member
  · have balance := mirrored.balance steady
    have positive := List.length_pos_of_mem member
    show tunnel.added + 1 + (tunnel.counting.erase f).length = tunnel.mux.flowStates.card + tunnel.subtracted
    rw [List.length_erase_of_mem member]
    omega

theorem Mirrored.shutdownReset (taken : step cfg tunnel .shutdownReset = some next) :
    Mirrored next := by
  obtain ⟨cleared, rfl⟩ := Transition.of_guard taken
  obtain ⟨counted, closed⟩ := mirrored.emptied (.inl cleared)
  refine ⟨mirrored.tracked, fun _ => mirrored.dead (by simp [cleared]), fun _ => ⟨counted, closed⟩, fun _ => ?_⟩
  rw [counted, flowStates_eq_empty closed]
  rfl

theorem Mirrored.step (met : dropsEnded tunnel action = true)
    (taken : step cfg tunnel action = some next) : Mirrored next := by
  cases action with
  | openFlow => exact mirrored.openFlow taken
  | mux action => exact mirrored.mux met taken
  | count f => exact mirrored.count taken
  | shutdownClear => exact mirrored.shutdownClear met taken
  | shutdownReset => exact mirrored.shutdownReset taken
  | receiveEnd | markDead | cleanUp =>
    obtain ⟨-, rfl⟩ := Transition.of_guard taken
    exact { mirrored with dead := fun called => by simp [mirrored.dead called] }
  | shutdownBegin =>
    obtain ⟨uncalled, rfl⟩ := Transition.of_guard taken
    exact ⟨mirrored.tracked, fun _ => rfl, by simp, fun _ => mirrored.balance (by simp [uncalled])⟩

end

theorem Mirrored.new : Mirrored new where
  tracked f := State.start_tracked ⟨fun _ => ⟨rfl, rfl, rfl, rfl⟩, nofun⟩
  dead := nofun
  emptied := by simp [Socks5Tunnel.new]
  balance _ := rfl

/-- Every `CloseFlow` for the flow has been sent and handled. -/
def settled (state : State) (f : FlowId) : Bool :=
  !(state.client f).closing && !state.upWire.contains (.control (.closeFlow f)) && !state.closeUnderway f

theorem Mirrored.unregistered (mirrored : Mirrored tunnel) (dropped : (tunnel.mux.client f).relay = .done)
    (settled : settled tunnel.mux f = true) : (tunnel.mux.client f).registered = false := by
  by_contra registered
  have underway := (mirrored.tracked f).2.2 dropped (Bool.of_not_eq_false registered)
  rw [← State.closeUnderway_iff] at underway
  simp [Socks5Tunnel.settled, underway] at settled

theorem Mirrored.activeFlowCount (mirrored : Mirrored tunnel) (counted : tunnel.counting = [])
    (steady : tunnel.shutdown ≠ .cleared) :
    tunnel.activeFlowCount = BitVec.ofNat 64 tunnel.mux.flowStates.card := by
  have balance := mirrored.balance steady
  rw [counted, List.length_nil, Nat.add_zero] at balance
  rw [Socks5Tunnel.activeFlowCount, balance, BitVec.ofNat_add, BitVec.add_sub_cancel]

/-- If a registered flow is dropped only when the server's `CloseFlow` is on its way: once the `CloseFlow` frames of
the dropped flows are handled, none of them is in `flow_states`, `flow_count` is the number of entries, and it is zero
if no other flow is there. -/
theorem dropped_flows_cleaned {cfg : Config} {actions : List TunnelAction} {final : Socks5Tunnel}
    (met : Transition.Meets (step cfg) (fun tunnel action => dropsEnded tunnel action = true) new actions)
    (reached : Transition.run (step cfg) new actions = some final)
    (settled : ∀ f < final.mux.nextFlowId, (final.mux.client f).relay = .done → settled final.mux f = true)
    (counted : final.counting = []) (steady : final.shutdown ≠ .cleared) :
    (∀ f, (final.mux.client f).relay = .done → f ∉ final.mux.flowStates) ∧
    final.activeFlowCount = BitVec.ofNat 64 final.mux.flowStates.card ∧
    ((∀ f ∈ final.mux.flowStates, (final.mux.client f).relay = .done) → final.activeFlowCount = 0) := by
  have preserved : ∀ tunnel action next, Mirrored tunnel → dropsEnded tunnel action = true →
      step cfg tunnel action = some next → Mirrored next :=
    fun tunnel action next mirrored met taken => mirrored.step met taken
  have mirrored := Transition.run_preserves_of_meets preserved Mirrored.new met reached
  have gone (f) (dropped : (final.mux.client f).relay = .done) : f ∉ final.mux.flowStates := by
    intro member
    obtain ⟨drawn, registered⟩ := State.mem_flowStates.mp member
    cases (mirrored.unregistered dropped (settled f drawn dropped)).symm.trans registered
  have mirror := mirrored.activeFlowCount counted steady
  refine ⟨gone, mirror, fun idle => ?_⟩
  have empty : final.mux.flowStates = ∅ :=
    Finset.eq_empty_of_forall_notMem fun f member => gone f (idle f member) member
  rw [mirror, empty]
  rfl

namespace TunnelSample

def openOne : List TunnelAction :=
  [.openFlow, .mux (.client 1 (.create "example" 80)), .mux (.client 1 .register), .count 1,
    .mux (.receiver .receive), .mux (.receiver .connected), .mux (.receiver .insertFlow), .mux (.receiver .reply)]

/-- The target ends, and the server's `CloseFlow` takes the flow out. -/
def targetEnds : List TunnelAction :=
  [.mux (.server 1 .targetClose), .mux (.server 1 .relayGate), .mux (.server 1 .relayEof),
    .mux (.server 1 .relayRemove), .mux (.server 1 .relayClose), .mux (.sender .pollControl),
    .mux (.sender .pollControl), .mux .clientReceive, .mux .clientReceive]

/-- The application drops the flow, and the server handles its `CloseFlow`. -/
def dropOne (last : ClientAction) : List TunnelAction :=
  [.mux (.client 1 .appClose), .mux (.client 1 last), .mux (.client 1 .dropClose), .mux (.receiver .receive)]

def loopEnds : List TunnelAction := [.receiveEnd false, .markDead, .cleanUp]

def closedFirst : List TunnelAction := openOne ++ targetEnds ++ dropOne .relayClosed

end TunnelSample

/-- The server has closed the flow before the application drops it, and nothing is left of it. -/
theorem closed_first_cleaned :
    ∃ final, Transition.run (step roomy) new TunnelSample.closedFirst = some final ∧
      (final.mux.client 1).relay = .done ∧ 1 ∉ final.mux.flowStates ∧ final.activeFlowCount = 0 := by
  refine Transition.exists_of_evaluated (p := fun final =>
    (∀ f < final.mux.nextFlowId, (final.mux.client f).relay = .done → settled final.mux f = true) ∧
      final.counting = [] ∧ final.shutdown = .uncalled ∧
      (∀ f ∈ final.mux.flowStates, (final.mux.client f).relay = .done) ∧ (final.mux.client 1).relay = .done)
    (by decide +kernel) ?_
  rintro final reached ⟨settled, counted, uncalled, idle, dropped⟩
  have cleaned := dropped_flows_cleaned (by decide +kernel) reached settled counted (by simp [uncalled])
  exact ⟨dropped, cleaned.1 1 dropped, cleaned.2.2 idle⟩

/-- The application drops an open flow, both sides handle its `CloseFlow`, and the entry stays: the tunnel never has
no active flow. -/
theorem dropped_flow_stays :
    (Transition.run (step roomy) new (TunnelSample.openOne ++ TunnelSample.dropOne .relayEof)).map (fun final =>
      ((final.mux.client 1).relay, settled final.mux 1, decide (1 ∈ final.mux.flowStates), final.activeFlowCount)) =
      some (.done, true, true, 1) := by
  decide +kernel

/-! ### The end of the receive loop -/

/-- The receive loop ends while no flow is open or being opened, and none is begun before the tunnel is
marked dead. -/
def endsIdle (tunnel : Socks5Tunnel) : TunnelAction → Bool
  | .receiveEnd _ => tunnel.mux.flowStates = ∅ && tunnel.mux.noneOpening
  | .openFlow => tunnel.loop = .receiving
  | _ => true

structure Ended (tunnel : Socks5Tunnel) : Prop where
  tracked : ∀ f, State.Tracked f (fun view => view.client.TasksAfterOpen ∧ view.client.Gated) tunnel.mux
  closed : tunnel.loop ≠ .receiving → ∀ f, (tunnel.mux.client f).Closed

theorem Ended.step (ended : Ended tunnel) (met : endsIdle tunnel action = true)
    (taken : step cfg tunnel action = some next) : Ended next := by
  have tracked (f) : State.Tracked f (fun view => view.client.TasksAfterOpen ∧ view.client.Gated) next.mux := by
    have condition (other) (_ : task action = some other) :
        State.Guarded f (fun _ _ => True) tunnel.mux other := fun _ _ => trivial
    refine Socks5Tunnel.tracked_step ?_ (ended.tracked f) taken condition
    intro view move after holds _ moves
    exact ⟨moves.tasksAfterOpen holds.1, moves.gated holds.2⟩
  have numbered : tunnel.mux.Numbered := (ended.tracked 0).1
  refine ⟨tracked, fun past f => ?_⟩
  cases action with
  | openFlow =>
    obtain ⟨-, taken⟩ := Option.ite_none_right_eq_some.mp taken
    obtain ⟨state, stepped, rfl⟩ := Option.map_eq_some_iff.mp taken
    exact absurd (of_decide_eq_true met) past
  | mux action =>
    obtain ⟨admitted, taken⟩ := Option.ite_none_right_eq_some.mp taken
    obtain ⟨state, stepped, rfl⟩ := Option.map_eq_some_iff.mp taken
    refine State.closed_of_step numbered stepped ?_ (ended.closed past f)
    rintro rfl
    cases admitted
  | shutdownClear =>
    obtain ⟨-, taken⟩ := Option.ite_none_right_eq_some.mp taken
    obtain ⟨state, stepped, rfl⟩ := Option.map_eq_some_iff.mp taken
    exact State.closed_of_step numbered stepped nofun (ended.closed past f)
  | receiveEnd desync =>
    obtain ⟨-, rfl⟩ := Transition.of_guard taken
    simp only [endsIdle, Bool.and_eq_true, decide_eq_true_eq] at met
    have settled := State.settled_of_noneOpening numbered met.2 f
    refine ⟨Bool.eq_false_iff.mpr fun registered => ?_, settled⟩
    have member := State.mem_flowStates_of_registered numbered (ended.tracked f).2.1 registered
    simp [met.1] at member
  | cleanUp =>
    obtain ⟨⟨returned, -⟩, rfl⟩ := Transition.of_guard taken
    exact ended.closed (by simp [returned]) f
  | count | markDead | shutdownBegin | shutdownReset =>
    obtain ⟨-, rfl⟩ := Transition.of_guard taken
    exact ended.closed past f

theorem Ended.new : Ended new where
  tracked _ := State.start_tracked ⟨fun _ => ⟨rfl, rfl, rfl, rfl⟩, nofun⟩
  closed := nofun

/-- If the receive loop ends while no flow is open: after the clean-up no flow is in `flow_states`, every gate is
closed, and neither a relay nor a parked sending loop waits. -/
theorem no_flow_open_after_end {cfg : Config} {actions : List TunnelAction} {final : Socks5Tunnel}
    (met : Transition.Meets (step cfg) (fun tunnel action => endsIdle tunnel action = true) new actions)
    (reached : Transition.run (step cfg) new actions = some final) (cleaned : final.loop = .cleaned) (f : FlowId) :
    (final.mux.client f).registered = false ∧
    ((final.mux.client f).phase = .running → (final.mux.client f).credits.closed = true) ∧
    ((final.mux.client f).relay = .idle → (final.mux.client f).wsToLocal = [] →
      ((final.mux.client f).step cfg f .relayClosed).isSome = true) ∧
    (∀ data, (final.mux.client f).loop = .parked data → (final.mux.client f).phase = .running →
      ((final.mux.client f).step cfg f .loopWake).isSome = true) := by
  have preserved : ∀ tunnel action next, Ended tunnel → endsIdle tunnel action = true →
      step cfg tunnel action = some next → Ended next :=
    fun tunnel action next ended met taken => ended.step met taken
  have ended := Transition.run_preserves_of_meets preserved Ended.new met reached
  have closed := (ended.closed (by simp [cleaned]) f).unregistered
  have gate (running : (final.mux.client f).phase = .running) : (final.mux.client f).credits.closed = true := by
    rcases (ended.tracked f).2.2 running with registered | shut
    · cases closed.symm.trans registered
    · exact shut
  refine ⟨closed, gate, fun idle drained => ?_, fun data parked running => ?_⟩
  · simp [ClientFlow.step, idle, drained, closed]
  · simp only [ClientFlow.step, parked, gate running]
    split <;> rfl

/-- The only flow is gone when the receive loop ends. -/
theorem closed_first_after_end :
    ∃ final, Transition.run (step roomy) new (TunnelSample.closedFirst ++ TunnelSample.loopEnds) = some final ∧
      final.loop = .cleaned ∧ (final.mux.client 1).registered = false ∧
      (final.mux.client 1).credits.closed = true := by
  refine Transition.exists_of_evaluated (p := fun final => final.loop = .cleaned ∧ (final.mux.client 1).phase = .running)
    (by decide +kernel) fun final reached facts => ?_
  have closed := no_flow_open_after_end (by decide +kernel) reached facts.1 1
  exact ⟨facts.1, closed.1, closed.2.1 facts.2⟩

/-- The receive loop ends under an open flow: its gate stays open, its channel too, and its relay waits
for a frame that cannot come. -/
theorem open_flow_left_after_end :
    (Transition.run (step roomy) new (TunnelSample.openOne ++ TunnelSample.loopEnds)).map (fun final =>
      (final.loop, (final.mux.client 1).registered, (final.mux.client 1).credits.closed,
        ((final.mux.client 1).step roomy 1 .relayClosed).isSome)) = some (.cleaned, true, false, false) := by
  decide +kernel

end Socks5Tunnel

end Rvpn.Mux
