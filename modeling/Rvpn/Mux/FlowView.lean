import Rvpn.Mux.Tunnel

/-! What one flow sees of the tunnel. Of the order in which `run_ws_sender` serves the channels the view keeps
nothing. -/

namespace Rvpn.Mux

open Transition

structure FlowView where
  client : ClientFlow
  server : ServerFlow
  up : List Frame
  down : List Frame
  tx : List Bytes
  control : List ControlMessage
  rx : ReceiverPhase
  closing : Bool
  upOpen : Bool

namespace FlowView

def start : FlowView where
  client := .fresh
  server := .fresh
  up := []
  down := []
  tx := []
  control := []
  rx := .idle
  closing := false
  upOpen := true

def sendUp (view : FlowView) (frame : Frame) : List Frame :=
  if view.upOpen then view.up ++ [frame] else view.up

end FlowView

/-- The moves of one flow. `receive` carries whether the flow map is full. -/
inductive FlowAction where
  | allocate | client (action : ClientAction) | clientReceive | clientClose | shutdown | upFail
  | server (action : ServerAction) | receive (crowded : Bool)
  | connected | connectFailed | insertFlow | reply | flush
  | takeControl | takeData | sessionEnd
  deriving DecidableEq, Repr

inductive FlowMoves (cfg : Config) (f : FlowId) (view : FlowView) : FlowAction → FlowView → Prop where
  | allocate (unopened : view.client.phase = .unopened) :
      FlowMoves cfg f view .allocate
        { view with client := { view.client with phase := .allocated } }
  | clientSilent (action : ClientAction) (flow : ClientFlow)
      (moves : view.client.Moves cfg f action flow none)
      (offline : action = .loopFail → view.upOpen = false) :
      FlowMoves cfg f view (.client action) { view with client := flow }
  | clientSend (action : ClientAction) (flow : ClientFlow) (frame : Frame)
      (moves : view.client.Moves cfg f action flow (some frame))
      (online : frame.isData = true ∨ frame.isCreate = true → view.upOpen = true) :
      FlowMoves cfg f view (.client action) { view with client := flow, up := view.sendUp frame }
  | clientReceive (frame : Frame) (rest : List Frame) (arrived : view.down = frame :: rest)
      (ready : view.closing = false) :
      FlowMoves cfg f view .clientReceive
        { view with client := (view.client.receive frame).1, down := rest,
                    closing := (view.client.receive frame).2 }
  | clientClose (closing : view.closing = true) :
      FlowMoves cfg f view .clientClose
        { view with up := view.sendUp (.control (.closeFlow f)), closing := false }
  | shutdown :
      FlowMoves cfg f view .shutdown { view with client := view.client.removeFlowState }
  | upFail : FlowMoves cfg f view .upFail { view with upOpen := false }
  | serverSilent (action : ServerAction) (flow : ServerFlow)
      (moves : view.server.Moves cfg f action flow none) :
      FlowMoves cfg f view (.server action) { view with server := flow }
  | serverData (action : ServerAction) (flow : ServerFlow) (payload : Bytes)
      (moves : view.server.Moves cfg f action flow (some (.data payload))) :
      FlowMoves cfg f view (.server action)
        { view with server := flow, tx := view.tx ++ [payload] }
  | serverControl (action : ServerAction) (flow : ServerFlow) (message : ControlMessage)
      (moves : view.server.Moves cfg f action flow (some (.control message))) :
      FlowMoves cfg f view (.server action)
        { view with server := flow, control := view.control ++ [message] }
  | receiveData (crowded : Bool) (payload : Bytes) (rest : List Frame)
      (arrived : view.up = .data f payload :: rest) (idle : view.rx = .idle) :
      FlowMoves cfg f view (.receive crowded)
        { view with
          server := (view.server.dispatchData cfg.tunEnabled payload).1
          up := rest
          rx := afterData f [] (view.server.dispatchData cfg.tunEnabled payload).2 }
  | receiveCreate (target : String) (port : UInt16) (rest : List Frame)
      (arrived : view.up = .control (.createFlow f target port) :: rest) (idle : view.rx = .idle) :
      FlowMoves cfg f view (.receive false) { view with up := rest, rx := .connecting f }
  | refuseCreate (target : String) (port : UInt16) (rest : List Frame) (error : String)
      (arrived : view.up = .control (.createFlow f target port) :: rest) (idle : view.rx = .idle) :
      FlowMoves cfg f view (.receive true)
        { view with up := rest, rx := .replying (.flowFailed f error) }
  | receiveClose (crowded : Bool) (rest : List Frame)
      (arrived : view.up = .control (.closeFlow f) :: rest) (idle : view.rx = .idle) :
      FlowMoves cfg f view (.receive crowded)
        { view with server := view.server.removeFlow, up := rest }
  | receiveUpdate (crowded : Bool) (n : Nat) (rest : List Frame)
      (arrived : view.up = .control (.windowUpdate f n) :: rest) (idle : view.rx = .idle) :
      FlowMoves cfg f view (.receive crowded)
        { view with server := view.server.grantCredits n, up := rest }
  | receiveIgnored (crowded : Bool) (message : ControlMessage) (rest : List Frame)
      (arrived : view.up = .control message :: rest) (idle : view.rx = .idle)
      (ignored : ∃ g, (∃ port, message = .flowCreated g port) ∨ ∃ error, message = .flowFailed g error) :
      FlowMoves cfg f view (.receive crowded) { view with up := rest }
  | connected (connecting : view.rx = .connecting f) :
      FlowMoves cfg f view .connected { view with server := view.server.spawn, rx := .spawned f }
  | connectFailed (connecting : view.rx = .connecting f) :
      FlowMoves cfg f view .connectFailed { view with rx := .idle }
  | insertFlow (spawned : view.rx = .spawned f) :
      FlowMoves cfg f view .insertFlow { view with server := view.server.insert, rx := .created f }
  | replyCreated (created : view.rx = .created f) :
      FlowMoves cfg f view .reply
        { view with
          server := { view.server with pending := [] }
          control := view.control ++ [.flowCreated f none]
          rx := flushNext f (view.server.pending.take maxFlushFrames) }
  | replyOverflown (frames : List Bytes) (overflown : view.rx = .overflown f frames) :
      FlowMoves cfg f view .reply
        { view with control := view.control ++ [.closeFlow f], rx := flushNext f frames }
  | reply (message : ControlMessage) (replying : view.rx = .replying message) :
      FlowMoves cfg f view .reply { view with control := view.control ++ [message], rx := .idle }
  | flush (data : Bytes) (frames : List Bytes) (flushing : view.rx = .flushing f (data :: frames)) :
      FlowMoves cfg f view .flush
        { view with
          server := (view.server.handleFlowData data).1
          rx := afterData f frames (view.server.handleFlowData data).2 }
  | takeControl (message : ControlMessage) (rest : List ControlMessage)
      (waiting : view.control = message :: rest) :
      FlowMoves cfg f view .takeControl
        { view with control := rest, down := view.down ++ [.control message] }
  | takeData (payload : Bytes) (rest : List Bytes) (waiting : view.tx = payload :: rest) :
      FlowMoves cfg f view .takeData
        { view with tx := rest, down := view.down ++ [.data f payload] }
  | sessionEnd :
      FlowMoves cfg f view .sessionEnd { view with server := view.server.removeFlow }

/-- What the client's tasks, what comes in and `shutdown` keep of the client's flow, every move keeps. -/
theorem FlowMoves.client_preserved {p : ClientFlow → Prop} (moves : FlowMoves cfg f view move next)
    (allocated : move = .allocate → view.client.phase = .unopened →
      p { view.client with phase := .allocated })
    (moved : ∀ {action flow output}, view.client.Moves cfg f action flow output → p flow)
    (received : ∀ frame, p (view.client.receive frame).1) (removed : p view.client.removeFlowState)
    (before : p view.client) : p next.client := by
  cases moves with
  | allocate unopened => exact allocated rfl unopened
  | clientSilent action flow moves | clientSend action flow frame moves => exact moved moves
  | clientReceive frame => exact received frame
  | shutdown => exact removed
  | _ => exact before

theorem FlowMoves.unopened (moves : FlowMoves cfg f view move next) (other : move ≠ .allocate)
    (unopened : view.client.phase = .unopened) : next.client.phase = .unopened :=
  moves.client_preserved (p := fun flow => flow.phase = .unopened) (fun same => absurd same other)
    (fun moves => moves.unopened unopened) (fun frame => (view.client.phase_receive frame).trans unopened)
    (view.client.phase_removeFlowState.trans unopened) unopened

namespace State

def rxOf (f : FlowId) (rx : ReceiverPhase) : ReceiverPhase :=
  if rx.flow = some f then rx else .idle

def view (f : FlowId) (state : State) : FlowView where
  client := state.client f
  server := state.server f
  up := state.upWire.filter fun frame => frame.flow = some f
  down := state.downWire.filter fun frame => frame.flow = some f
  tx := (state.tx.filter fun message => message.1 = f).map Prod.snd
  control := state.control.filter fun message => message.flow = some f
  rx := rxOf f state.rx
  closing := state.clientRx == some f
  upOpen := state.upOpen

def observe (f : FlowId) (state : State) : Action → Option FlowAction
  | .openFlow => if state.nextFlowId = f then some .allocate else none
  | .client g action => if g = f then some (.client action) else none
  | .ping _ => none
  | .clientReceive => if (state.downWire.head?.bind Frame.flow) = some f then some .clientReceive else none
  | .clientClose => if state.clientRx = some f then some .clientClose else none
  | .shutdown => some .shutdown
  | .upFail => some .upFail
  | .server g action => if g = f then some (.server action) else none
  | .receiver .receive =>
    if (state.upWire.head?.bind Frame.flow) = some f then
      some (.receive (maxFlowsPerSession ≤ state.flowCount))
    else none
  | .receiver .connected => if state.rx.flow = some f then some .connected else none
  | .receiver .connectFailed => if state.rx.flow = some f then some .connectFailed else none
  | .receiver .insertFlow => if state.rx.flow = some f then some .insertFlow else none
  | .receiver .reply => if state.rx.flow = some f then some .reply else none
  | .receiver .flush => if state.rx.flow = some f then some .flush else none
  | .sender .pollControl =>
    if (state.control.head?.bind ControlMessage.flow) = some f then some .takeControl else none
  | .sender .pollData => if (state.tx.head?.map Prod.fst) = some f then some .takeData else none
  | .sessionEnd => some .sessionEnd

def Numbered (state : State) : Prop :=
  ∀ f, state.nextFlowId ≤ f → (state.client f).phase = .unopened

section view

variable {cfg : Config} {f g : FlowId} {state next : State}

@[simp] theorem view_setClient_self (flow : ClientFlow) :
    view f (state.setClient f flow) = { view f state with client := flow } := by
  simp [view, setClient]

@[simp] theorem view_setServer_self (flow : ServerFlow) :
    view f (state.setServer f flow) = { view f state with server := flow } := by
  simp [view, setServer]

theorem view_setClient_of_ne (other : g ≠ f) (flow : ClientFlow) :
    view f (state.setClient g flow) = view f state := by
  simp [view, setClient, Function.update_of_ne other.symm]

theorem view_setServer_of_ne (other : g ≠ f) (flow : ServerFlow) :
    view f (state.setServer g flow) = view f state := by
  simp [view, setServer, Function.update_of_ne other.symm]

theorem view_sendUp_self (own : frame.flow = some f) :
    view f (state.sendUp frame) = { view f state with up := (view f state).sendUp frame } := by
  cases online : state.upOpen <;> simp [view, State.sendUp, FlowView.sendUp, online, own]

theorem view_sendUp_of_ne (other : frame.flow ≠ some f) :
    view f (state.sendUp frame) = view f state := by
  cases online : state.upOpen <;> simp [view, State.sendUp, online, other]

theorem view_pushControl_self (own : message.flow = some f) :
    view f (state.pushControl message) =
      { view f state with control := (view f state).control ++ [message] } := by
  simp [view, pushControl, own]

theorem view_pushControl_of_ne (other : message.flow ≠ some f) :
    view f (state.pushControl message) = view f state := by
  simp [view, pushControl, other]

theorem view_pushData_self (payload : Bytes) :
    view f (state.pushData f payload) = { view f state with tx := (view f state).tx ++ [payload] } := by
  simp [view, pushData]

theorem view_pushData_of_ne (other : g ≠ f) (payload : Bytes) :
    view f (state.pushData g payload) = view f state := by
  simp [view, pushData, other]

theorem view_setRx_self {rx : ReceiverPhase} (own : rxOf f rx = rx) :
    view f (state.setRx rx) = { view f state with rx } := by
  simp [view, setRx, own]

theorem view_setRx_of_eq {rx : ReceiverPhase} (same : rxOf f rx = rxOf f state.rx) :
    view f (state.setRx rx) = view f state := by
  simp [view, setRx, same]

theorem view_setClientRx (clientRx : Option FlowId) :
    view f (state.setClientRx clientRx) = { view f state with closing := clientRx == some f } := rfl

def Observed (cfg : Config) (f : FlowId) (before : FlowView) : Option FlowAction → FlowView → Prop
  | none, after => after = before
  | some move, after => FlowMoves cfg f before move after

theorem clientStep_cases (taken : clientStep cfg state g action = some next) :
    (∃ flow, (state.client g).Moves cfg g action flow none ∧
      (action = .loopFail → state.upOpen = false) ∧ next = state.setClient g flow) ∨
    ∃ flow frame, (state.client g).Moves cfg g action flow (some frame) ∧
      (frame.isData = true ∨ frame.isCreate = true → state.upOpen = true) ∧
      next = (state.setClient g flow).sendUp frame := by
  unfold clientStep at taken
  split at taken
  · exact absurd taken (by simp)
  · rename_i flow output stepped
    have moves := ClientFlow.moves_of_step stepped
    cases output with
    | none =>
      refine .inl ⟨flow, moves, ?_⟩
      split at taken <;> grind
    | some frame =>
      refine .inr ⟨flow, frame, moves, ?_⟩
      split at taken
      · cases moves
      · grind

theorem clientStep_observed (taken : clientStep cfg state g action = some next) :
    Observed cfg f (view f state) (observe f state (.client g action)) (view f next) := by
  by_cases own : g = f
  · subst own
    simp only [observe]
    rcases clientStep_cases taken with ⟨flow, moves, offline, rfl⟩ | ⟨flow, frame, moves, online, rfl⟩
    · rw [view_setClient_self]
      exact .clientSilent action flow moves offline
    · rw [view_sendUp_self moves.flow_output, view_setClient_self]
      exact .clientSend action flow frame moves online
  · simp only [observe, own]
    rcases clientStep_cases taken with ⟨flow, -, -, rfl⟩ | ⟨flow, frame, moves, -, rfl⟩
    · exact view_setClient_of_ne own flow
    · have other : frame.flow ≠ some f := by simpa [moves.flow_output] using own
      exact (view_sendUp_of_ne other).trans (view_setClient_of_ne own flow)

theorem serverStep_cases (taken : serverStep cfg state g action = some next) :
    (∃ flow, (state.server g).Moves cfg g action flow none ∧ next = state.setServer g flow) ∨
    (∃ flow payload, (state.server g).Moves cfg g action flow (some (.data payload)) ∧
      next = (state.setServer g flow).pushData g payload) ∨
    ∃ flow message, (state.server g).Moves cfg g action flow (some (.control message)) ∧
      next = (state.setServer g flow).pushControl message := by
  unfold serverStep at taken
  split at taken
  · exact absurd taken (by simp)
  · rename_i flow stepped
    exact .inl ⟨flow, ServerFlow.moves_of_step stepped, by grind⟩
  · rename_i flow payload stepped
    exact .inr (.inl ⟨flow, payload, ServerFlow.moves_of_step stepped, by grind⟩)
  · rename_i flow message stepped
    exact .inr (.inr ⟨flow, message, ServerFlow.moves_of_step stepped, by grind⟩)

theorem serverStep_observed (taken : serverStep cfg state g action = some next) :
    Observed cfg f (view f state) (observe f state (.server g action)) (view f next) := by
  by_cases own : g = f
  · subst own
    simp only [observe]
    rcases serverStep_cases taken with
      ⟨flow, moves, rfl⟩ | ⟨flow, payload, moves, rfl⟩ | ⟨flow, message, moves, rfl⟩
    · rw [view_setServer_self]
      exact .serverSilent action flow moves
    · rw [view_pushData_self, view_setServer_self]
      exact .serverData action flow payload moves
    · rw [view_pushControl_self moves.flow_output, view_setServer_self]
      exact .serverControl action flow message moves
  · simp only [observe, own]
    rcases serverStep_cases taken with
      ⟨flow, -, rfl⟩ | ⟨flow, payload, -, rfl⟩ | ⟨flow, message, moves, rfl⟩
    · exact view_setServer_of_ne own flow
    · exact (view_pushData_of_ne own payload).trans (view_setServer_of_ne own flow)
    · have other : message.flow ≠ some f := by simpa [moves.flow_output] using own
      exact (view_pushControl_of_ne other).trans (view_setServer_of_ne own flow)

@[simp] theorem rxOf_idle : rxOf f .idle = .idle := by
  simp [rxOf]

theorem rxOf_self {rx : ReceiverPhase} (own : rx.flow = some f) : rxOf f rx = rx := by
  simp [rxOf, own]

theorem rxOf_of_ne {rx : ReceiverPhase} (other : rx.flow ≠ some f) : rxOf f rx = .idle := by
  simp [rxOf, other]

theorem flushNext_cases (f : FlowId) (frames : List Bytes) :
    flushNext f frames = .idle ∨ flushNext f frames = .flushing f frames := by
  unfold flushNext
  split
  · exact .inl rfl
  · exact .inr rfl

theorem rxOf_flushNext (f : FlowId) (frames : List Bytes) :
    rxOf f (flushNext f frames) = flushNext f frames := by
  rcases flushNext_cases f frames with idle | flushing
  · rw [idle, rxOf_idle]
  · rw [flushing, rxOf_self rfl]

theorem rxOf_afterData (f : FlowId) (frames : List Bytes) (overflown : Bool) :
    rxOf f (afterData f frames overflown) = afterData f frames overflown := by
  cases overflown with
  | false => exact rxOf_flushNext f frames
  | true => exact rxOf_self rfl

theorem flow_flushNext_ne (other : g ≠ f) (frames : List Bytes) : (flushNext g frames).flow ≠ some f := by
  rcases flushNext_cases g frames with idle | flushing
  · simp [idle, ReceiverPhase.flow]
  · simpa [flushing, ReceiverPhase.flow] using other

theorem flow_afterData_ne (other : g ≠ f) (frames : List Bytes) (overflown : Bool) :
    (afterData g frames overflown).flow ≠ some f := by
  cases overflown with
  | false => exact flow_flushNext_ne other frames
  | true => simpa [afterData, ReceiverPhase.flow] using other

theorem dispatchFrame_of_ne {frame : Frame} (idle : state.rx = .idle) (other : frame.flow ≠ some f) :
    view f (dispatchFrame cfg state frame) = view f state := by
  have unseen (rx : ReceiverPhase) (apart : rx.flow ≠ some f) : rxOf f rx = rxOf f state.rx := by
    rw [idle, rxOf_idle, rxOf_of_ne apart]
  cases frame with
  | data g payload =>
    have apart : g ≠ f := by simpa using other
    refine Eq.trans ?_ (view_setServer_of_ne apart
      ((state.server g).dispatchData cfg.tunEnabled payload).1)
    exact view_setRx_of_eq (unseen _ (flow_afterData_ne apart _ _))
  | control message =>
    cases message with
    | createFlow g target port =>
      simp only [dispatchFrame, handleControl]
      split <;> exact view_setRx_of_eq (unseen _ other)
    | closeFlow | windowUpdate => exact view_setServer_of_ne (by simpa [ControlMessage.flow] using other) _
    | ping timestamp => exact view_setRx_of_eq (unseen _ (by simp [ReceiverPhase.flow, ControlMessage.flow]))
    | flowCreated | flowFailed | pong => rfl

theorem dispatchFrame_observed {frame : Frame} (idle : state.rx = .idle)
    (arrived : state.upWire = frame :: rest) (own : frame.flow = some f) :
    FlowMoves cfg f (view f state) (.receive (maxFlowsPerSession ≤ state.flowCount))
      (view f (dispatchFrame cfg { state with upWire := rest } frame)) := by
  have seen : (view f state).rx = .idle := by simp [view, idle]
  have head : (view f state).up = frame :: rest.filter fun frame => frame.flow = some f := by
    simp [view, arrived, own]
  cases frame with
  | data g payload =>
    cases own
    simp only [dispatchFrame, view_setRx_self (rxOf_afterData _ _ _), view_setServer_self]
    exact .receiveData _ payload _ head seen
  | control message =>
    cases message with
    | createFlow g target port =>
      cases own
      simp only [dispatchFrame, handleControl]
      split
      · rename_i crowded
        rw [view_setRx_self (rxOf_self rfl), decide_eq_true crowded]
        exact .refuseCreate target port _ _ head seen
      · rename_i crowded
        rw [view_setRx_self (rxOf_self rfl), decide_eq_false crowded]
        exact .receiveCreate target port _ head seen
    | closeFlow g =>
      cases own
      simp only [dispatchFrame, handleControl, view_setServer_self]
      exact .receiveClose _ _ head seen
    | windowUpdate g n =>
      cases own
      simp only [dispatchFrame, handleControl, view_setServer_self]
      exact .receiveUpdate _ n _ head seen
    | flowCreated g port => exact .receiveIgnored _ _ _ head seen ⟨g, .inl ⟨port, rfl⟩⟩
    | flowFailed g error => exact .receiveIgnored _ _ _ head seen ⟨g, .inr ⟨error, rfl⟩⟩
    | ping | pong => cases own

theorem receive_observed (taken : receiverStep cfg state .receive = some next) :
    Observed cfg f (view f state) (observe f state (.receiver .receive)) (view f next) := by
  simp only [receiverStep] at taken
  split at taken
  · rename_i frame rest idle arrived
    cases taken
    simp only [observe, arrived, List.head?_cons, Option.bind_some]
    by_cases own : frame.flow = some f
    · simp only [own]
      exact dispatchFrame_observed idle arrived own
    · simp only [own]
      refine (dispatchFrame_of_ne (by exact idle) own).trans ?_
      simp [view, arrived, own]
  · exact absurd taken (by simp)

/-- A step of the receive loop while it serves the flow `g`. -/
theorem served_observed {rx : ReceiverPhase} (serving : state.rx = rx) (busy : rx.flow = some g)
    (own : g = f → (view f state).rx = rx → FlowMoves cfg f (view f state) move (view f next))
    (other : g ≠ f → state.rx.flow ≠ some f → view f next = view f state) :
    Observed cfg f (view f state) (if state.rx.flow = some f then some move else none) (view f next) := by
  subst serving
  by_cases same : g = f
  · rw [if_pos (same ▸ busy)]
    exact own same (rxOf_self (same ▸ busy))
  · have elsewhere : state.rx.flow ≠ some f := by simpa [busy] using same
    rw [if_neg elsewhere]
    exact other same elsewhere

theorem view_setRx_of_ne {rx : ReceiverPhase} (apart : rx.flow ≠ some f) (elsewhere : state.rx.flow ≠ some f) :
    view f (state.setRx rx) = view f state :=
  view_setRx_of_eq (by rw [rxOf_of_ne apart, rxOf_of_ne elsewhere])

theorem replied_observed (taken : state.replied = some next) :
    Observed cfg f (view f state) (observe f state (.receiver .reply)) (view f next) := by
  unfold replied at taken
  split at taken
  · rename_i g created
    cases taken
    apply served_observed created rfl
    · rintro rfl seen
      rw [view_setRx_self (rxOf_flushNext _ _), view_pushControl_self rfl, view_setServer_self]
      exact .replyCreated seen
    · intro other elsewhere
      refine Eq.trans (view_setRx_of_ne (flow_flushNext_ne other _) (by exact elsewhere)) ?_
      rw [view_pushControl_of_ne, view_setServer_of_ne other]
      simpa [ControlMessage.flow] using other
  · rename_i g frames overflown
    cases taken
    apply served_observed overflown rfl
    · rintro rfl seen
      rw [view_setRx_self (rxOf_flushNext _ _), view_pushControl_self rfl]
      exact .replyOverflown frames seen
    · intro other elsewhere
      refine Eq.trans (view_setRx_of_ne (flow_flushNext_ne other _) (by exact elsewhere)) ?_
      rw [view_pushControl_of_ne]
      simpa [ControlMessage.flow] using other
  · rename_i message replying
    cases taken
    have busy : state.rx.flow = message.flow := by rw [replying]; rfl
    by_cases own : message.flow = some f
    · simp only [observe, busy, own]
      rw [view_setRx_self rxOf_idle, view_pushControl_self own]
      exact .reply message (by rw [view, replying]; exact rxOf_self own)
    · simp only [observe, busy, own, if_false]
      exact Eq.trans (view_setRx_of_ne (by simp [ReceiverPhase.flow]) (busy.symm ▸ own)) (view_pushControl_of_ne own)
  · exact absurd taken (by simp)

theorem receiverStep_observed (taken : receiverStep cfg state action = some next) :
    Observed cfg f (view f state) (observe f state (.receiver action)) (view f next) := by
  cases action with
  | receive => exact receive_observed taken
  | connected =>
    simp only [receiverStep] at taken
    split at taken <;> [rename_i g connecting; cases taken]
    cases taken
    apply served_observed connecting rfl
    · rintro rfl seen
      rw [view_setRx_self (rxOf_self rfl), view_setServer_self]
      exact .connected seen
    · intro other elsewhere
      refine Eq.trans (view_setRx_of_ne ?_ (by exact elsewhere)) (view_setServer_of_ne other _)
      simpa [ReceiverPhase.flow] using other
  | connectFailed =>
    simp only [receiverStep] at taken
    split at taken <;> [rename_i g connecting; cases taken]
    cases taken
    apply served_observed connecting rfl
    · rintro rfl seen
      exact .connectFailed seen
    · exact fun _ => view_setRx_of_ne (by simp [ReceiverPhase.flow])
  | insertFlow =>
    simp only [receiverStep] at taken
    split at taken <;> [rename_i g spawned; cases taken]
    cases taken
    apply served_observed spawned rfl
    · rintro rfl seen
      rw [view_setRx_self (rxOf_self rfl), view_setServer_self]
      exact .insertFlow seen
    · intro other elsewhere
      refine Eq.trans (view_setRx_of_ne ?_ (by exact elsewhere)) (view_setServer_of_ne other _)
      simpa [ReceiverPhase.flow] using other
  | reply =>
    simp only [receiverStep] at taken
    split at taken
    · exact replied_observed taken
    · cases taken
  | flush =>
    simp only [receiverStep, flushed] at taken
    split at taken <;> [rename_i g data frames flushing; cases taken]
    cases taken
    apply served_observed flushing rfl
    · rintro rfl seen
      rw [view_setRx_self (rxOf_afterData _ _ _), view_setServer_self]
      exact .flush data frames seen
    · intro other elsewhere
      exact Eq.trans (view_setRx_of_ne (flow_afterData_ne other _ _) (by exact elsewhere))
        (view_setServer_of_ne other _)

theorem senderStep_observed (taken : senderStep state action = some next) :
    Observed cfg f (view f state) (observe f state (.sender action)) (view f next) := by
  cases action with
  | pollControl =>
    simp only [senderStep] at taken
    split at taken
    · cases taken
    · split at taken
      · rename_i message rest waiting
        cases taken
        by_cases own : message.flow = some f
        · have moved : FlowMoves cfg f (view f state) .takeControl _ :=
            .takeControl message (rest.filter fun message => message.flow = some f)
              (by simp [view, waiting, own])
          simpa [observe, waiting, own, Observed, view] using moved
        · simp [observe, waiting, own, Observed, view]
      · rename_i empty
        cases taken
        simp [observe, empty, Observed, view]
  | pollData =>
    simp only [senderStep] at taken
    split at taken
    · cases taken
    · split at taken
      · rename_i g payload rest waiting
        cases taken
        by_cases own : g = f
        · subst own
          have moved : FlowMoves cfg g (view g state) .takeData _ :=
            .takeData payload ((rest.filter fun message => message.1 = g).map Prod.snd)
              (by simp [view, waiting])
          simpa [observe, waiting, Observed, view] using moved
        · simp [observe, waiting, own, Observed, view]
      · rename_i empty
        cases taken
        simp [observe, empty, Observed, view]

theorem clientReceived_observed (ready : state.clientRx = none) (arrived : state.downWire = frame :: rest) :
    Observed cfg f (view f state) (observe f state .clientReceive)
      (view f (clientReceived { state with downWire := rest } frame)) := by
  have unbusy : (view f state).closing = false := by simp [view, ready]
  have flagged : ∀ (g : FlowId) (closing : Bool),
      ((if closing then some g else none) == some f) = (closing && g == f) := by
    intro g closing
    cases closing <;> simp
  unfold clientReceived
  split
  · rename_i unlabelled
    simp [observe, arrived, unlabelled, Observed, view]
  · rename_i g labelled
    simp only [observe, arrived, List.head?_cons, Option.bind_some, labelled]
    by_cases own : g = f
    · subst own
      simp only [view_setClientRx, view_setClient_self, flagged, beq_self_eq_true, Bool.and_true]
      exact .clientReceive frame _ (by simp [view, arrived, labelled]) unbusy
    · simp only [view_setClientRx, view_setClient_of_ne own]
      simp [Observed, view, arrived, labelled, own, ready]

theorem step_observed (numbered : state.Numbered) (taken : step cfg state action = some next) :
    Observed cfg f (view f state) (observe f state action) (view f next) := by
  cases action with
  | openFlow =>
    cases taken
    by_cases own : state.nextFlowId = f
    · simp only [observe, own]
      have moved : FlowMoves cfg f (view f state) .allocate _ := .allocate (numbered f (Nat.le_of_eq own))
      simpa [Observed, view, setClient] using moved
    · simp only [observe, own]
      exact view_setClient_of_ne own _
  | client g action => exact clientStep_observed taken
  | ping timestamp =>
    cases taken
    exact view_sendUp_of_ne (by simp [ControlMessage.flow])
  | clientReceive =>
    simp only [step] at taken
    split at taken
    · rename_i frame rest ready arrived
      cases taken
      exact clientReceived_observed ready arrived
    · cases taken
  | clientClose =>
    simp only [step] at taken
    split at taken
    · rename_i g closing
      cases taken
      by_cases own : g = f
      · subst own
        simp only [observe, closing]
        rw [view_setClientRx, view_sendUp_self rfl]
        exact .clientClose (by simp [view, closing])
      · have apart : (Frame.control (.closeFlow g)).flow ≠ some f := by
          simpa [ControlMessage.flow] using own
        rw [view_setClientRx, view_sendUp_of_ne apart]
        simp [observe, closing, own, Observed, view]
    · cases taken
  | shutdown | upFail | sessionEnd =>
    cases taken
    constructor
  | server g action => exact serverStep_observed taken
  | receiver action =>
    simp only [step] at taken
    split at taken
    · cases taken
    · exact receiverStep_observed taken
  | sender action =>
    simp only [step] at taken
    split at taken
    · cases taken
    · exact senderStep_observed taken

/-- A step leaves the view of a flow as it is, or it is a move of the flow. -/
theorem view_step (numbered : state.Numbered) (taken : step cfg state action = some next) :
    (observe f state action = none ∧ view f next = view f state) ∨
      ∃ move, observe f state action = some move ∧ FlowMoves cfg f (view f state) move (view f next) := by
  have observed : Observed cfg f (view f state) (observe f state action) (view f next) :=
    step_observed numbered taken
  cases label : observe f state action with
  | none =>
    rw [label] at observed
    exact .inl ⟨rfl, observed⟩
  | some move =>
    rw [label] at observed
    exact .inr ⟨move, rfl, observed⟩

theorem nextFlowId_sendUp (frame : Frame) :
    (state.sendUp frame).nextFlowId = state.nextFlowId ∧ (state.sendUp frame).ended = state.ended := by
  unfold State.sendUp
  split <;> exact ⟨rfl, rfl⟩

theorem nextFlowId_dispatchFrame (frame : Frame) :
    (dispatchFrame cfg state frame).nextFlowId = state.nextFlowId ∧
      (dispatchFrame cfg state frame).ended = state.ended := by
  cases frame with
  | data g payload => exact ⟨rfl, rfl⟩
  | control message =>
    cases message with
    | createFlow g target port =>
      simp only [dispatchFrame, handleControl]
      split <;> exact ⟨rfl, rfl⟩
    | _ => exact ⟨rfl, rfl⟩

/-- Only `open_flow` draws an id, and only the session's end ends it. -/
theorem nextFlowId_step (taken : step cfg state action = some next)
    (other : action ≠ .openFlow ∧ action ≠ .sessionEnd) :
    next.nextFlowId = state.nextFlowId ∧ next.ended = state.ended := by
  cases action with
  | openFlow => exact absurd rfl other.1
  | sessionEnd => exact absurd rfl other.2
  | client g action =>
    rcases clientStep_cases taken with ⟨flow, -, -, rfl⟩ | ⟨flow, frame, -, -, rfl⟩
    · exact ⟨rfl, rfl⟩
    · exact nextFlowId_sendUp frame
  | server g action =>
    rcases serverStep_cases taken with ⟨flow, -, rfl⟩ | ⟨flow, payload, -, rfl⟩ | ⟨flow, message, -, rfl⟩
    all_goals exact ⟨rfl, rfl⟩
  | ping timestamp =>
    cases taken
    exact nextFlowId_sendUp _
  | clientReceive =>
    simp only [step, clientReceived] at taken
    split at taken <;> cases taken
    split <;> exact ⟨rfl, rfl⟩
  | clientClose =>
    simp only [step] at taken
    split at taken <;> cases taken
    exact nextFlowId_sendUp _
  | shutdown | upFail => cases taken; exact ⟨rfl, rfl⟩
  | receiver action =>
    simp only [step] at taken
    split at taken
    · cases taken
    · cases action with
      | receive =>
        simp only [receiverStep] at taken
        split at taken
        · cases taken
          exact nextFlowId_dispatchFrame _
        · cases taken
      | _ =>
        simp only [receiverStep, replied, flushed] at taken
        repeat' split at taken
        all_goals cases taken
        all_goals exact ⟨rfl, rfl⟩
  | sender action =>
    simp only [step] at taken
    split at taken
    · cases taken
    · cases action
      all_goals
        simp only [senderStep] at taken
        repeat' split at taken
      all_goals cases taken
      all_goals exact ⟨rfl, rfl⟩

theorem live_step (taken : step cfg state action = some next) (live : next.ended = false) :
    state.ended = false ∧ action ≠ .sessionEnd := by
  by_cases opening : action = .openFlow
  · subst opening
    cases taken
    exact ⟨live, by simp⟩
  · by_cases ending : action = .sessionEnd
    · subst ending
      cases taken
      cases live
    · exact ⟨(nextFlowId_step taken ⟨opening, ending⟩).2.symm.trans live, ending⟩

theorem view_start : view f State.start = FlowView.start := by
  simp [view, State.start, FlowView.start]

theorem start_numbered : State.start.Numbered := fun _ _ => rfl

theorem nextFlowId_of_step (taken : step cfg state action = some next) (other : action ≠ .openFlow) :
    next.nextFlowId = state.nextFlowId := by
  by_cases ending : action = .sessionEnd
  · subst ending
    cases taken
    rfl
  · exact (nextFlowId_step taken ⟨other, ending⟩).1

theorem observe_allocate (label : observe f state action = some .allocate) : action = .openFlow := by
  cases action with
  | receiver action | sender action => cases action <;> simp_all [observe]
  | _ => simp_all [observe]

theorem step_numbered (numbered : state.Numbered) (taken : step cfg state action = some next) : next.Numbered := by
  intro g undrawn
  by_cases opening : action = .openFlow
  · subst opening
    have later : state.nextFlowId < g := by
      cases taken
      exact undrawn
    have observed : Observed cfg g (view g state) (observe g state .openFlow) (view g next) :=
      step_observed numbered taken
    rw [observe, if_neg (Nat.ne_of_lt later)] at observed
    exact (congrArg (fun flow => flow.client.phase) observed).trans (numbered g (Nat.le_of_lt later))
  · rw [nextFlowId_of_step taken opening] at undrawn
    have unopened : (view g state).client.phase = .unopened := numbered g undrawn
    rcases view_step numbered taken with ⟨-, same⟩ | ⟨move, label, moves⟩
    · exact (congrArg (fun flow => flow.client.phase) same).trans unopened
    · exact FlowMoves.unopened moves (fun allocates => opening (observe_allocate (allocates ▸ label))) unopened

/-- The steps that are moves of the flow are taken from views that meet the condition. -/
def Guarded (f : FlowId) (condition : FlowView → FlowAction → Prop) (state : State) (action : Action) : Prop :=
  ∀ move, observe f state action = some move → condition (view f state) move

instance (condition : FlowView → FlowAction → Prop) [∀ view, DecidablePred (condition view)] (state : State)
    (action : Action) : Decidable (Guarded f condition state action) :=
  inferInstanceAs (Decidable (∀ move ∈ observe f state action, condition (view f state) move))

def Tracked (f : FlowId) (invariant : FlowView → Prop) (state : State) : Prop :=
  state.Numbered ∧ invariant (view f state)

theorem start_tracked (initially : invariant .start) :
    Tracked f invariant State.start :=
  ⟨start_numbered, view_start ▸ initially⟩

theorem step_tracked (preserved : ∀ view move next, invariant view → condition view move →
      FlowMoves cfg f view move next → invariant next) (tracked : Tracked f invariant state)
    (guarded : Guarded f condition state action) (taken : step cfg state action = some next) :
    Tracked f invariant next := by
  refine ⟨step_numbered tracked.1 taken, ?_⟩
  rcases view_step tracked.1 taken with ⟨-, same⟩ | ⟨move, label, moves⟩
  · exact same.symm ▸ tracked.2
  · exact preserved _ move _ tracked.2 (guarded move label) moves

/-- The invariant rule for one flow: what its moves preserve, under a condition on the view before, holds of its view
after every run. -/
theorem run_view_of_guarded {condition : FlowView → FlowAction → Prop} {invariant : FlowView → Prop}
    (preserved : ∀ view move next, invariant view → condition view move →
      FlowMoves cfg f view move next → invariant next)
    (initially : invariant .start) {actions : List Action} {final : State}
    (meets : Meets (step cfg) (Guarded f condition) .start actions)
    (reached : run (step cfg) .start actions = some final) :
    invariant (view f final) := by
  have kept : Tracked f invariant final :=
    run_preserves_of_meets (fun _ _ _ tracked guarded taken => step_tracked preserved tracked guarded taken)
      (start_tracked initially) meets reached
  exact kept.2

theorem run_view {invariant : FlowView → Prop}
    (preserved : ∀ view move next, invariant view → FlowMoves cfg f view move next → invariant next)
    (initially : invariant .start) {actions : List Action} {final : State}
    (reached : run (step cfg) .start actions = some final) :
    invariant (view f final) := by
  have always : Meets (step cfg) (Guarded f fun _ _ => True) State.start actions :=
    meets_of_forall (fun _ _ _ _ _ => trivial) _
  exact run_view_of_guarded (fun view move next holds _ moves => preserved view move next holds moves)
    initially always reached

theorem observe_sessionEnd (label : observe f state action = some .sessionEnd) :
    action = .sessionEnd := by
  cases action with
  | receiver action | sender action => cases action <;> simp_all [observe]
  | _ => simp_all [observe]

def TrackedLive (f : FlowId) (invariant : FlowView → Prop) (state : State) : Prop :=
  state.Numbered ∧ (state.ended = false → invariant (view f state))

theorem run_live_of_guarded {condition : FlowView → FlowAction → Prop} {invariant : FlowView → Prop}
    (preserved : ∀ view move next, invariant view → condition view move → move ≠ .sessionEnd →
      FlowMoves cfg f view move next → invariant next)
    (initially : invariant .start) {actions : List Action} {final : State}
    (meets : Meets (step cfg) (Guarded f condition) .start actions)
    (reached : run (step cfg) .start actions = some final) (live : final.ended = false) :
    invariant (view f final) := by
  have started : TrackedLive f invariant State.start := ⟨start_numbered, fun _ => view_start ▸ initially⟩
  have kept : TrackedLive f invariant final := by
    refine run_preserves_of_meets ?_ started meets reached
    intro state action next ⟨numbered, holds⟩ guarded taken
    refine ⟨step_numbered numbered taken, fun live => ?_⟩
    obtain ⟨alive, other⟩ := live_step taken live
    rcases view_step numbered taken with ⟨-, same⟩ | ⟨move, label, moves⟩
    · exact same.symm ▸ holds alive
    · refine preserved _ move _ (holds alive) (guarded move label) ?_ moves
      rintro rfl
      exact other (observe_sessionEnd label)
  exact kept.2 live

end view

end State

end Rvpn.Mux
