import Rvpn.Mux.Credits

/-! What a flow's senders have sent and what they have been granted, kept along a run outside the state. -/

namespace Rvpn.Mux

open Transition

/-- Bytes of one direction of a flow: what its sender took from the counter, what it put on
the wire, and what the `WindowUpdate`s that it processed gave back. -/
structure Account where
  consumed : Nat
  sent : Nat
  granted : Nat
  deriving DecidableEq, Repr

def Account.opening : Account where
  consumed := 0
  sent := 0
  granted := 0

/-- What a task of the client's flow takes from the counter: `flow_to_ws_loop` alone does. -/
def ClientFlow.consumes (flow : ClientFlow) : ClientAction → Nat
  | .loopConsume =>
    match flow.loop with
    | .holding data => flow.credits.consumable data.length
    | _ => 0
  | _ => 0

def ClientFlow.sends (flow : ClientFlow) : ClientAction → Nat
  | .loopSend => flow.loop.spent.length
  | _ => 0

/-- What `spawn_flow_relay` takes from the counter: `try_consume(bytes_read)`. -/
def ServerAction.consumes : ServerAction → Nat
  | .relayRead n => n
  | _ => 0

namespace FlowView

/-- The client's account; `handle_control_message` grants while the flow is registered. -/
def recordUplink (view : FlowView) (move : FlowAction) (account : Account) : Account :=
  match move with
  | .client action =>
    { account with consumed := account.consumed + view.client.consumes action
                   sent := account.sent + view.client.sends action }
  | .clientReceive =>
    if view.client.registered then { account with granted := account.granted + creditsOn (view.down.take 1) }
    else account
  | _ => account

/-- The server's account: `run_ws_sender` puts the relay's data on the wire, and
`handle_control` grants while the flow is in the map. -/
def recordDownlink (view : FlowView) (move : FlowAction) (account : Account) : Account :=
  match move with
  | .server action => { account with consumed := account.consumed + action.consumes }
  | .takeData => { account with sent := account.sent + (view.tx.take 1).flatten.length }
  | .receive _ =>
    if view.server.entry = .inserted then { account with granted := account.granted + creditsOn (view.up.take 1) }
    else account
  | _ => account

end FlowView

namespace State

def recorded (record : FlowView → FlowAction → Account → Account) (f : FlowId) (state : State) (action : Action)
    (account : Account) : Account :=
  match observe f state action with
  | some move => record (state.view f) move account
  | none => account

theorem run_recorded {cfg : Config} {f : FlowId} {record : FlowView → FlowAction → Account → Account}
    {invariant : FlowView → Account → Prop}
    (preserved : ∀ view move next account, invariant view account → FlowMoves cfg f view move next →
      invariant next (record view move account))
    (initially : invariant .start .opening) {actions : List Action} {final : State}
    (reached : run (step cfg) .start actions = some final) :
    invariant (view f final) (history (recorded record f) (step cfg) .start actions .opening) := by
  let tracked (state : State) (account : Account) : Prop := state.Numbered ∧ invariant (view f state) account
  have started : tracked State.start .opening := ⟨start_numbered, view_start ▸ initially⟩
  refine (history_preserves ?_ started reached).2
  intro state action next account ⟨numbered, holds⟩ taken
  refine ⟨step_numbered numbered taken, ?_⟩
  unfold recorded
  rcases view_step numbered taken with ⟨label, same⟩ | ⟨move, label, moves⟩
  · rw [label, same]
    exact holds
  · rw [label]
    exact preserved _ move _ account holds moves

end State

def uplinkAccount (cfg : Config) (f : FlowId) (actions : List Action) : Account :=
  history (State.recorded FlowView.recordUplink f) (step cfg) .start actions .opening

def downlinkAccount (cfg : Config) (f : FlowId) (actions : List Action) : Account :=
  history (State.recorded FlowView.recordDownlink f) (step cfg) .start actions .opening

namespace FlowSendCredits

theorem available_grant (credits : FlowSendCredits) (within : credits.available + n ≤ initialFlowWindow) :
    (credits.grant n).available = credits.available + n := by
  exact Nat.min_eq_left (Nat.le_trans within (by decide))

end FlowSendCredits

/-- Only a `WindowUpdate` brings credits. -/
theorem Frame.credit_eq_zero (frame : Frame) (plain : ∀ f n, frame ≠ .control (.windowUpdate f n)) :
    frame.credit = 0 := by
  cases frame with
  | data f payload => rfl
  | control message =>
    cases message with
    | windowUpdate f n => exact absurd rfl (plain f n)
    | _ => rfl

namespace ClientFlow

variable {cfg : Config} {f : FlowId} {flow next : ClientFlow} {action : ClientAction} {output : Option Frame}

@[simp] theorem available_removeFlowState (flow : ClientFlow) :
    flow.removeFlowState.credits.available = flow.credits.available := by
  unfold removeFlowState
  split <;> rfl

@[simp] theorem loop_removeFlowState (flow : ClientFlow) : flow.removeFlowState.loop = flow.loop := by
  unfold removeFlowState
  split <;> rfl

theorem consumes_of_absent (absent : flow.loop = .absent) (action : ClientAction) : flow.consumes action = 0 := by
  cases action with
  | loopConsume => simp [consumes, absent]
  | _ => rfl

theorem Moves.available_add_consumes (moves : Moves cfg f flow action next output) (opened : action ≠ .register) :
    next.credits.available + flow.consumes action = flow.credits.available := by
  cases moves with
  | register => exact absurd rfl opened
  | loopPark data holding exhausted => simp [consumes, holding, exhausted]
  | loopConsume data holding => simpa [consumes, holding] using flow.credits.available_tryConsume data.length
  | loopStall => simp [consumes]
  | _ => rfl

theorem Moves.spent_add_sends_le (moves : Moves cfg f flow action next output) :
    next.loop.spent.length + flow.sends action ≤ flow.loop.spent.length + flow.consumes action := by
  cases moves with
  | loopConsume data holding =>
    simpa [consumes, sends, holding] using Nat.min_le_left _ _
  | loopSend frame rest sending => simp [sends]
  | register | loopRecv | loopPark | loopWake | loopStall => simp [sends]
  | loopWakeClosed | loopClose | loopFail | loopEnd => simp [sends, LoopPhase.spent]
  | _ => exact Nat.le_refl _

/-- A `WindowUpdate` for a registered flow raises the counter by its size. Nothing else that comes in touches it or
the sending loop. -/
theorem receive_counter (flow : ClientFlow) (frame : Frame)
    (within : flow.credits.available + frame.credit ≤ initialFlowWindow) :
    (flow.receive frame).1.credits.available =
      flow.credits.available + (if flow.registered then frame.credit else 0) ∧
    (flow.receive frame).1.loop = flow.loop := by
  have receives := flow.receives frame
  generalize (flow.receive frame).1 = next at receives
  cases receives with
  | ignore quiet =>
    refine ⟨?_, rfl⟩
    split <;> rename_i registered
    · rw [frame.credit_eq_zero (quiet registered), Nat.add_zero]
    · rfl
  | queue => simp
  | unregister plain => simp [frame.credit_eq_zero plain]
  | grant registered =>
    rw [if_pos registered]
    exact ⟨flow.credits.available_grant within, rfl⟩

end ClientFlow

namespace ServerFlow

variable {cfg : Config} {f : FlowId} {flow next : ServerFlow} {action : ServerAction} {output : Option ServerOutput}

@[simp] theorem available_removeFlow (flow : ServerFlow) :
    flow.removeFlow.credits.available = flow.credits.available := by
  unfold removeFlow
  split <;> rfl

theorem Dispatched.available {tunEnabled overflown : Bool} {data : Bytes}
    (outcome : Dispatched tunEnabled flow data next overflown) :
    next.credits.available = flow.credits.available := by
  cases outcome <;> rfl

theorem available_grantCredits (flow : ServerFlow) (within : flow.credits.available + n ≤ initialFlowWindow) :
    (flow.grantCredits n).credits.available = flow.credits.available + if flow.entry = .inserted then n else 0 := by
  unfold grantCredits
  split
  · exact flow.credits.available_grant within
  · rfl

theorem Moves.available_add_consumes (moves : Moves cfg f flow action next output) (within : flow.ReadsWithin) :
    next.credits.available + action.consumes = flow.credits.available := by
  cases moves with
  | relayRead n reading positive =>
    obtain ⟨cap, reading, capped⟩ := reading
    have enough := Nat.le_trans capped (within cap reading)
    have taken := flow.credits.available_tryConsume n
    rwa [FlowSendCredits.consumable, Nat.min_eq_right enough] at taken
  | _ => rfl

/-- What goes on `tx` has been consumed before. -/
theorem Moves.held_add_bytesOut_le (moves : Moves cfg f flow action next output) :
    next.relay.held.length + bytesOut output ≤ flow.relay.held.length + action.consumes := by
  cases moves with
  | relayRead n =>
    simp only [ServerRelayPhase.held, ServerAction.consumes, bytesOut, List.length_take]
    omega
  | relayPush data sending => simp [sending, ServerRelayPhase.held, bytesOut]
  | relayGate | relayWake => simp [readPhase, ServerRelayPhase.held, bytesOut]
  | relayPark | relayStall | relayEof | relayError | relayRemove | relayAlone | relayClose | relayCancel =>
    simp [ServerRelayPhase.held, bytesOut]
  | _ => exact Nat.le_refl _

end ServerFlow

structure UplinkBalanced (f : FlowId) (view : FlowView) (account : Account) : Prop where
  funded : Funded f view
  counter : view.client.credits.available + account.consumed = initialFlowWindow + account.granted
  sent : account.sent + view.client.loop.spent.length ≤ account.consumed
  unopened : view.client.phase ≠ .running → view.client.credits.available = initialFlowWindow

namespace UplinkBalanced

variable {cfg : Config} {f : FlowId} {view next : FlowView} {move : FlowAction} {account : Account}

theorem start : UplinkBalanced f .start .opening where
  funded := .start
  counter := rfl
  sent := Nat.le_refl _
  unopened := fun _ => rfl

section

variable (balanced : UplinkBalanced f view account)
include balanced

theorem of_eq (funded : Funded f next)
    (available : next.client.credits.available = view.client.credits.available)
    (loop : next.client.loop = view.client.loop) (phase : next.client.phase = view.client.phase) :
    UplinkBalanced f next account where
  funded := funded
  counter := available ▸ balanced.counter
  sent := loop ▸ balanced.sent
  unopened := fun early => available.trans (balanced.unopened (phase ▸ early))

theorem ofClient (funded : Funded f { view with client := flow, up })
    (moves : view.client.Moves cfg f action flow output) :
    UplinkBalanced f { view with client := flow, up } (view.recordUplink (.client action) account) := by
  have counter := balanced.counter
  have sent := balanced.sent
  have spent := moves.spent_add_sends_le
  by_cases register : action = .register
  · subst register
    cases moves with
    | register created =>
      have renewed := balanced.unopened (by simp [created])
      refine ⟨funded, ?_, ?_, fun early => absurd rfl early⟩
      · simp only [FlowView.recordUplink, ClientFlow.consumes, FlowSendCredits.available_new]
        omega
      · simp only [FlowView.recordUplink, ClientFlow.sends, spent_idle, List.length_nil]
        omega
  · have taken := moves.available_add_consumes register
    refine ⟨funded, by grind [FlowView.recordUplink], by grind [FlowView.recordUplink], fun early => ?_⟩
    have before : view.client.phase ≠ .running := fun running => early (moves.running running)
    have idle := ClientFlow.consumes_of_absent (balanced.funded.born.tasks before).2.1 action
    have renewed := balanced.unopened before
    simp only
    omega

theorem clientReceive (funded : Funded f { view with client := (view.client.receive frame).1, down := rest, closing })
    (arrived : view.down = frame :: rest) :
    UplinkBalanced f { view with client := (view.client.receive frame).1, down := rest, closing }
      (view.recordUplink .clientReceive account) := by
  have within : view.client.credits.available + frame.credit ≤ initialFlowWindow := by
    have budget := balanced.funded.uplink
    simp only [ClientFlow.uplinkHeld, FlowView.uplinkUnderway, arrived, creditsOn_cons] at budget
    omega
  obtain ⟨available, loop⟩ := view.client.receive_counter frame within
  have phase := view.client.phase_receive frame
  by_cases registered : view.client.registered = true
  · have counter := balanced.counter
    have granted : view.recordUplink .clientReceive account =
        { account with granted := account.granted + frame.credit } := by
      simp [FlowView.recordUplink, registered, arrived]
    rw [granted]
    refine ⟨funded, by grind, loop ▸ balanced.sent, fun early => ?_⟩
    have absent := (balanced.funded.born.tasks (phase ▸ early)).1
    simp [registered] at absent
  · have ignored : view.recordUplink .clientReceive account = account := by
      simp [FlowView.recordUplink, registered]
    rw [ignored]
    exact balanced.of_eq funded (by simpa [registered] using available) loop phase

theorem moves (moves : FlowMoves cfg f view move next) :
    UplinkBalanced f next (view.recordUplink move account) := by
  have funded := balanced.funded.moves moves
  cases moves with
  | allocate unopened =>
    exact ⟨funded, balanced.counter, balanced.sent, fun _ => balanced.unopened (by simp [unopened])⟩
  | clientSilent action flow moves | clientSend action flow frame moves => exact balanced.ofClient funded moves
  | clientReceive frame rest arrived => exact balanced.clientReceive funded arrived
  | shutdown => exact balanced.of_eq funded (by simp) (by simp) (by simp)
  | _ => exact balanced.of_eq funded rfl rfl rfl

end

end UplinkBalanced

/-- The server's account agrees with its counter; what is on `tx` has been consumed and not
sent yet. -/
structure DownlinkBalanced (f : FlowId) (view : FlowView) (account : Account) : Prop where
  funded : Funded f view
  counter : view.server.credits.available + account.consumed = initialFlowWindow + account.granted
  sent : account.sent + view.tx.flatten.length + view.server.relay.held.length ≤ account.consumed

namespace DownlinkBalanced

variable {cfg : Config} {f : FlowId} {view next : FlowView} {move : FlowAction} {account : Account}

theorem start : DownlinkBalanced f .start .opening where
  funded := .start
  counter := rfl
  sent := Nat.le_refl _

theorem of_eq (balanced : DownlinkBalanced f view account) (funded : Funded f next)
    (available : next.server.credits.available = view.server.credits.available) (tx : next.tx = view.tx)
    (relay : next.server.relay = view.server.relay) : DownlinkBalanced f next account where
  funded := funded
  counter := available ▸ balanced.counter
  sent := by rw [tx, relay]; exact balanced.sent

theorem ofServer {action : ServerAction} {flow : ServerFlow} {output : Option ServerOutput} {tx : List Bytes}
    {control : List ControlMessage} (balanced : DownlinkBalanced f view account)
    (funded : Funded f { view with server := flow, tx, control })
    (moves : view.server.Moves cfg f action flow output)
    (carried : tx.flatten.length = view.tx.flatten.length + ServerFlow.bytesOut output) :
    DownlinkBalanced f { view with server := flow, tx, control } (view.recordDownlink (.server action) account) := by
  have counter := balanced.counter
  have sent := balanced.sent
  have taken := moves.available_add_consumes balanced.funded.within
  have held := moves.held_add_bytesOut_le
  exact ⟨funded, by grind [FlowView.recordDownlink], by grind [FlowView.recordDownlink]⟩

theorem received {crowded : Bool} (balanced : DownlinkBalanced f view account)
    (funded : Funded f { view with server, up := rest, rx }) (arrived : view.up = frame :: rest)
    (relay : server.relay = view.server.relay) (available : server.credits.available =
      view.server.credits.available + if view.server.entry = .inserted then frame.credit else 0) :
    DownlinkBalanced f { view with server, up := rest, rx } (view.recordDownlink (.receive crowded) account) := by
  have counter := balanced.counter
  have recorded : view.recordDownlink (.receive crowded) account =
      { account with granted := account.granted + if view.server.entry = .inserted then frame.credit else 0 } := by
    simp only [FlowView.recordDownlink, arrived]
    split <;> simp
  rw [recorded]
  exact ⟨funded, by grind, by simpa only [relay] using balanced.sent⟩

section

variable (balanced : DownlinkBalanced f view account)
include balanced

/-- `run_ws_sender` puts the flow's next data on the wire. -/
theorem takeData (funded : Funded f { view with tx := rest, down })
    (waiting : view.tx = payload :: rest) :
    DownlinkBalanced f { view with tx := rest, down } (view.recordDownlink .takeData account) := by
  have sent := balanced.sent
  rw [waiting, List.flatten_cons, List.length_append] at sent
  have recorded : view.recordDownlink .takeData account = { account with sent := account.sent + payload.length } := by
    simp [FlowView.recordDownlink, waiting]
  rw [recorded]
  refine ⟨funded, balanced.counter, ?_⟩
  simp only
  omega

theorem moves (moves : FlowMoves cfg f view move next) :
    DownlinkBalanced f next (view.recordDownlink move account) := by
  have funded := balanced.funded.moves moves
  have born := balanced.funded.born
  cases moves with
  | serverSilent action flow moves | serverControl action flow message moves =>
    exact balanced.ofServer funded moves rfl
  | serverData action flow payload moves => exact balanced.ofServer funded moves (by simp [ServerFlow.bytesOut])
  | receiveData crowded payload rest arrived =>
    have outcome := view.server.dispatched cfg.tunEnabled payload
    exact balanced.received funded arrived outcome.held.2.2.1 (by simp [outcome.available])
  | receiveCreate target port rest arrived | refuseCreate target port rest error arrived =>
    exact balanced.received funded arrived rfl (by simp [ControlMessage.credit])
  | receiveClose crowded rest arrived =>
    exact balanced.received funded arrived view.server.removeFlow_held.2.2.1 (by simp [ControlMessage.credit])
  | receiveUpdate crowded n rest arrived =>
    have within : view.server.credits.available + n ≤ initialFlowWindow := by
      have budget := balanced.funded.downlink
      simp only [ServerFlow.downlinkHeld, FlowView.downlinkUnderway, arrived, creditsOn_cons, credit_control,
        ControlMessage.credit] at budget
      omega
    exact balanced.received funded arrived (view.server.grantCredits_held n).2.2.1
      (view.server.available_grantCredits within)
  | receiveIgnored crowded message rest arrived idle ignored =>
    refine balanced.received funded arrived rfl ?_
    rcases ignored with ⟨g, ⟨port, rfl⟩ | ⟨error, rfl⟩⟩ <;> simp [ControlMessage.credit]
  | connected connecting =>
    obtain ⟨-, counter, sent⟩ := balanced
    rw [born.fresh_of_connecting connecting] at counter sent
    exact ⟨funded, counter, sent⟩
  | flush data frames flushing => exact absurd flushing (born.not_flushing _)
  | takeData payload rest waiting => exact balanced.takeData funded waiting
  | sessionEnd => exact balanced.of_eq funded (by simp) rfl view.server.removeFlow_held.2.2.1
  | _ => exact balanced.of_eq funded rfl rfl rfl

end

end DownlinkBalanced

/-- A sender keeps to its window: what it has sent beyond the grants is a window at most. Its
counter holds the window with the grants and without what was consumed, cut off neither at
zero nor at its width, and never more than the window. -/
structure WithinWindow (credits : FlowSendCredits) (account : Account) : Prop where
  outstanding : account.sent ≤ initialFlowWindow + account.granted
  exact : credits.available + account.consumed = initialFlowWindow + account.granted
  bounded : credits.available ≤ initialFlowWindow

/-- Both senders of every flow keep to their windows, at every moment of every run. -/
theorem senders_within_window (cfg : Config) (f : FlowId) {actions : List Action} {final : State}
    (reached : Transition.run (step cfg) State.start actions = some final) :
    WithinWindow (final.client f).credits (uplinkAccount cfg f actions) ∧
    WithinWindow (final.server f).credits (downlinkAccount cfg f actions) := by
  have up : UplinkBalanced f (final.view f) (uplinkAccount cfg f actions) :=
    State.run_recorded (fun _ _ _ _ holds moves => UplinkBalanced.moves holds moves) UplinkBalanced.start reached
  have down : DownlinkBalanced f (final.view f) (downlinkAccount cfg f actions) :=
    State.run_recorded (fun _ _ _ _ holds moves => DownlinkBalanced.moves holds moves) DownlinkBalanced.start reached
  constructor
  · have counter := up.counter
    have sent := up.sent
    have budget := up.funded.uplink
    exact ⟨by omega, counter, Nat.le_of_add_right_le (Nat.le_of_add_right_le budget)⟩
  · have counter := down.counter
    have sent := down.sent
    have budget := down.funded.downlink
    exact ⟨by omega, counter, Nat.le_of_add_right_le (Nat.le_of_add_right_le budget)⟩

/-- One byte each way, both granted back. -/
theorem echo_within_window :
    uplinkAccount roomy 1 (openFlow 1 ++ echoByte 1) = ⟨1, 1, 1⟩ ∧
    downlinkAccount roomy 1 (openFlow 1 ++ echoByte 1) = ⟨1, 1, 1⟩ ∧
    ∃ final, Transition.run (step roomy) State.start (openFlow 1 ++ echoByte 1) = some final ∧
      (final.client 1).credits.available = initialFlowWindow ∧
      (final.server 1).credits.available = initialFlowWindow := by
  have up : uplinkAccount roomy 1 (openFlow 1 ++ echoByte 1) = ⟨1, 1, 1⟩ := by decide +kernel
  have down : downlinkAccount roomy 1 (openFlow 1 ++ echoByte 1) = ⟨1, 1, 1⟩ := by decide +kernel
  refine ⟨up, down, exists_of_evaluated (p := fun _ => True) (by decide +kernel) fun final reached _ => ?_⟩
  have ⟨client, server⟩ := senders_within_window roomy 1 reached
  have held := client.exact
  have left := server.exact
  rw [up] at held
  rw [down] at left
  exact ⟨Nat.add_right_cancel held, Nat.add_right_cancel left⟩

end Rvpn.Mux
