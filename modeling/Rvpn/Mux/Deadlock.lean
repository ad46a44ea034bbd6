import Rvpn.Mux.UplinkOrder

/-! The cycle of bounded queues that one flow closes: while the client's relay waits for room in `local_to_ws` it does
not read, so the server's relay gets no credits. -/

namespace Rvpn.Mux

open Transition

/-- The client's relay waits for room in `local_to_ws` with data in `ws_to_local`, and so does every other task of the
flow: the sending loop for credits, the writer for room in the target's socket or on the control channel, the target
for room to echo what it has read, the server's relay for credits or for room on `tx`. -/
structure Deadlocked (cfg : Config) (f : FlowId) (state : State) : Prop where
  relay : (∃ chunk, (state.client f).relay = .sending chunk) ∧
    flowChannelCap ≤ (state.client f).localToWs.length
  waiting : (state.client f).wsToLocal ≠ []
  loop : (∃ data, (state.client f).loop = .parked data) ∧ (state.client f).credits.available = 0
  writer : (∃ size left, (state.server f).writer = .writing size left) ∧
      cfg.targetIn ≤ (state.server f).targetIn.length ∨
    (∃ size, (state.server f).writer = .granting size) ∧ controlChannelCap ≤ state.control.length
  target : (state.server f).targetSent.length < (state.server f).targetRead.length ∧
    cfg.targetOut ≤ (state.server f).targetOut.length
  serverRelay : (state.server f).relay = .waiting ∧ (state.server f).credits.available = 0 ∨
    (∃ data, (state.server f).relay = .sending data) ∧ dataChannelCap ≤ state.tx.length

namespace FlowAction

def readSize : FlowAction → Option Nat
  | .client (.relayRead n) => some n
  | _ => none

end FlowAction

/-- The bytes that may be between the application and the server's grants: a credit
window, a byte for each place of `local_to_ws`, and one with the sending loop. -/
def uplinkSlack : Nat := initialFlowWindow + flowChannelCap + 1

/-- The relay reads from the application while `local_to_ws` has room, or while what it
has read and the server has not granted yet stays within the slack. -/
def FlowView.ReadsWithRoom (view : FlowView) (move : FlowAction) : Prop :=
  ∀ n ∈ move.readSize, view.client.localToWs.length < flowChannelCap ∨
    view.client.put.length + n ≤ view.client.granted + uplinkSlack

instance (view : FlowView) : DecidablePred view.ReadsWithRoom :=
  fun move => inferInstanceAs (Decidable (∀ n ∈ move.readSize, _))

namespace ClientFlow

variable {cfg : Config} {f : FlowId} {flow next : ClientFlow} {action : ClientAction}
  {output : Option Frame}

/-- The client's account of its uplink: the credits it was given are at hand or spent on
what it sent, no chunk is empty, and a relay that waits for room in `local_to_ws` will
get it or is within the slack. -/
structure Metered (flow : ClientFlow) : Prop where
  early : flow.phase ≠ .running → flow.sent = [] ∧ flow.granted = 0
  window : flow.loop ≠ .exited →
    initialFlowWindow + flow.granted = flow.credits.available + flow.sent.length + flow.loop.spent.length
  chunks : ∀ chunk ∈ flow.localToWs, chunk ≠ []
  held : ∀ data, flow.loop = .holding data ∨ flow.loop = .parked data → data ≠ []
  blocked : ∀ chunk, flow.relay = .sending chunk → chunk ≠ [] ∧
    (flow.localToWs.length < flowChannelCap ∨
      flow.put.length + chunk.length ≤ flow.granted + uplinkSlack)

theorem resume_held (held : resume rest = .holding data ∨ resume rest = .parked data) : data ≠ [] := by
  unfold resume at held
  split at held <;> simp_all

theorem writeAll_ne_sending (size : Nat) (left chunk : Bytes) : writeAll size left ≠ .sending chunk := by
  unfold writeAll
  split <;> simp

theorem Metered.not_jammed (metered : flow.Metered) (ordered : flow.Ordered)
    (sending : flow.relay = .sending chunk) (full : flowChannelCap ≤ flow.localToWs.length)
    (parked : flow.loop = .parked data) (exhausted : flow.credits.available = 0) : False := by
  have ⟨filled, room⟩ := metered.blocked chunk sending
  have within : flow.put.length + chunk.length ≤ flow.granted + uplinkSlack :=
    room.resolve_left (Nat.not_lt_of_le full)
  have window := metered.window (by simp [parked])
  have whole := congrArg List.length (ordered.whole (by simp [parked]))
  have queued := length_mul_le_flatten fun other member =>
    List.length_pos_iff.mpr (metered.chunks other member)
  have hand : 0 < data.length := List.length_pos_iff.mpr (metered.held data (.inr parked))
  have new : 0 < chunk.length := List.length_pos_iff.mpr filled
  simp only [parked, inHand_parked, spent_parked, List.length_append, List.length_nil] at window whole
  simp only [uplinkSlack] at within
  omega

theorem Moves.metered (moves : Moves cfg f flow action next output) (tasks : flow.TasksAfterOpen)
    (metered : flow.Metered)
    (room : ∀ n, action = .relayRead n → flow.localToWs.length < flowChannelCap ∨
      flow.put.length + n ≤ flow.granted + uplinkSlack) : next.Metered := by
  have window := metered.window
  have unsent : ∀ {frame rest : Bytes}, flow.loop = .sending frame rest → flow.phase = .running := by
    intro frame rest sending
    by_contra unopened
    simp [(tasks unopened).2.1] at sending
  cases moves with
  | create target port allocated =>
    exact { metered with early := fun _ => metered.early (by simp [allocated]) }
  | register created =>
    have ⟨nothing, ungranted⟩ := metered.early (by simp [created])
    refine ⟨by simp, fun _ => ?_, metered.chunks, by simp, by simp⟩
    simp [nothing, ungranted]
  | relayRead n idle positive enough =>
    refine { metered with blocked := ?_ }
    rintro chunk ⟨⟩
    have size : (flow.appOut.take n).length = n := List.length_take_of_le enough
    refine ⟨List.ne_nil_of_length_pos (by omega), ?_⟩
    rw [size]
    exact room n rfl
  | relaySend chunk sending =>
    refine { metered with chunks := ?_, blocked := nofun }
    exact List.forall_mem_append.mpr
      ⟨metered.chunks, List.forall_mem_singleton.mpr (metered.blocked chunk sending).1⟩
  | relayRecv | relayWrite =>
    exact { metered with blocked := fun chunk busy => absurd busy (writeAll_ne_sending _ _ _) }
  | relayGrant | relayEof | relayFail | relaySendClosed | relayClosed => exact { metered with blocked := nofun }
  | loopRecv data rest idle waiting =>
    refine { metered with window := fun _ => ?_, chunks := ?_, held := fun _ => resume_held, blocked := ?_ }
    · simpa [idle] using window (by simp [idle])
    · exact fun chunk member => metered.chunks chunk (by simp [waiting, member])
    · intro chunk sending
      refine (metered.blocked chunk sending).imp_right (.imp_left fun free => ?_)
      rw [waiting, List.length_cons] at free
      exact Nat.lt_of_succ_lt free
  | loopPark data holding =>
    refine { metered with window := fun _ => ?_, held := ?_ }
    · simpa [holding] using window (by simp [holding])
    · simpa using metered.held data (.inl holding)
  | loopConsume data holding =>
    refine { metered with window := fun _ => ?_, held := by simp }
    have taken := flow.credits.available_tryConsume data.length
    have enough := flow.credits.consumable_le data.length
    have before := window (by simp [holding])
    simp only [holding, spent_holding, spent_sending, List.length_nil, List.length_take] at before ⊢
    omega
  | loopWake data parked =>
    refine { metered with window := fun _ => ?_, held := ?_ }
    · simpa [parked] using window (by simp [parked])
    · simpa using metered.held data (.inr parked)
  | loopStall parked =>
    obtain ⟨data, parked⟩ := parked
    have before := window (by simp [parked])
    rw [parked, spent_parked] at before
    unfold removeFlowState
    split <;> exact { metered with window := fun _ => before, held := by simp }
  | loopSend frame rest sending =>
    refine { metered with
      early := fun unopened => absurd (unsent sending) unopened, window := fun _ => ?_, held := fun _ => resume_held }
    have before := window (by simp [sending])
    simp only [sending, spent_sending, spent_resume, List.length_append, List.length_nil] at before ⊢
    omega
  | loopWakeClosed | loopClose | loopFail | loopEnd => exact { metered with window := by simp, held := by simp }
  | _ => exact { metered with }

theorem metered_removeFlowState (metered : flow.Metered) : flow.removeFlowState.Metered := by
  unfold removeFlowState
  split <;> exact { metered with }

theorem metered_grantCredits (metered : flow.Metered) (tasks : flow.TasksAfterOpen) (n : Nat) :
    (flow.grantCredits n).Metered := by
  unfold grantCredits
  split
  · rename_i registered
    refine { metered with early := ?_, window := ?_, blocked := ?_ }
    · intro unopened
      simp [(tasks unopened).1] at registered
    · intro running
      have before := metered.window running
      have grown := flow.credits.available_le_grant n
      simp only
      omega
    · intro chunk sending
      refine (metered.blocked chunk sending).imp_right (.imp_right fun within => ?_)
      simp only
      omega
  · exact metered

theorem metered_receive (metered : flow.Metered) (tasks : flow.TasksAfterOpen) (frame : Frame) :
    (flow.receive frame).1.Metered := by
  have receives := flow.receives frame
  generalize (flow.receive frame).1 = next at receives
  cases receives with
  | ignore => exact metered
  | queue => exact { metered with }
  | unregister => exact metered_removeFlowState metered
  | grant registered => simpa [grantCredits, registered] using metered_grantCredits metered tasks _

end ClientFlow

structure Unjammed (f : FlowId) (view : FlowView) : Prop where
  tasks : view.client.TasksAfterOpen
  ordered : view.client.Ordered
  metered : view.client.Metered

namespace Unjammed

variable {cfg : Config} {f : FlowId} {view next : FlowView} {move : FlowAction}

theorem start : Unjammed f .start where
  tasks := fun _ => ⟨rfl, rfl, rfl, rfl⟩
  ordered := .inl rfl
  metered := ⟨fun _ => ⟨rfl, rfl⟩, fun _ => rfl, by simp [FlowView.start, ClientFlow.fresh],
    by simp [FlowView.start, ClientFlow.fresh], by simp [FlowView.start, ClientFlow.fresh]⟩

theorem ofClient (unjammed : Unjammed f view) (room : view.ReadsWithRoom (.client action))
    (moves : view.client.Moves cfg f action flow output) (same : next.client = flow) : Unjammed f next := by
  have ⟨tasks, ordered, metered⟩ := unjammed
  subst same
  refine ⟨moves.tasksAfterOpen tasks, moves.ordered tasks ordered, moves.metered tasks metered ?_⟩
  rintro n rfl
  exact room n rfl

theorem moves (unjammed : Unjammed f view) (room : view.ReadsWithRoom move)
    (moves : FlowMoves cfg f view move next) : Unjammed f next := by
  have ⟨tasks, ordered, metered⟩ := unjammed
  cases moves with
  | allocate unopened =>
    have ⟨early, window, chunks, held, blocked⟩ := metered
    exact ⟨fun _ => tasks (by simp [unopened]), ordered,
      ⟨fun _ => early (by simp [unopened]), window, chunks, held, blocked⟩⟩
  | clientSilent action flow moves | clientSend action flow frame moves => exact unjammed.ofClient room moves rfl
  | clientReceive frame =>
    exact ⟨ClientFlow.tasksAfterOpen_receive tasks frame, ClientFlow.ordered_receive ordered frame,
      ClientFlow.metered_receive metered tasks frame⟩
  | shutdown =>
    exact ⟨ClientFlow.tasksAfterOpen_removeFlowState tasks, ClientFlow.ordered_removeFlowState ordered,
      ClientFlow.metered_removeFlowState metered⟩
  | _ => exact ⟨tasks, ordered, metered⟩

end Unjammed

/-- In every run in which the client's relay reads with room, the flow is never
deadlocked. -/
theorem never_deadlocked_of_room (cfg : Config) (f : FlowId) {actions : List Action} {final : State}
    (room : Transition.Meets (step cfg) (State.Guarded f FlowView.ReadsWithRoom) State.start actions)
    (reached : Transition.run (step cfg) State.start actions = some final) : ¬Deadlocked cfg f final := by
  have unjammed : Unjammed f (final.view f) :=
    State.run_view_of_guarded (fun _ _ _ holds room moves => Unjammed.moves holds room moves)
      Unjammed.start room reached
  intro deadlocked
  obtain ⟨⟨chunk, sending⟩, full⟩ := deadlocked.relay
  obtain ⟨⟨data, parked⟩, exhausted⟩ := deadlocked.loop
  exact unjammed.metered.not_jammed unjammed.ordered sending full parked exhausted

theorem echoByte_not_deadlocked : ∃ final,
    Transition.run (step roomy) State.start (openFlow 1 ++ echoByte 1) = some final ∧ ¬Deadlocked roomy 1 final := by
  refine exists_of_evaluated (p := fun _ => True) (by decide +kernel) fun final reached _ => ?_
  exact never_deadlocked_of_room roomy 1 (by decide +kernel) reached

/-! A deadlock behind a target that echoes: 64 chunks come back unread and use up the server's credits, one more fills
each direction of the target's socket and the target itself, 64 more use up the client's credits, and one byte with
the sending loop and 256 in `local_to_ws` leave no room for the next one. -/

/-- A target that echoes reads again only after it has written back all that it read. -/
def ServerFlow.Echoes (flow : ServerFlow) : ServerAction → Prop
  | .targetRead _ => flow.targetSent = flow.targetRead
  | .targetWrite bytes => flow.targetSent ++ bytes <+: flow.targetRead
  | _ => True

instance (flow : ServerFlow) : DecidablePred flow.Echoes
  | .targetRead _ => inferInstanceAs (Decidable (flow.targetSent = flow.targetRead))
  | .targetWrite bytes => inferInstanceAs (Decidable (flow.targetSent ++ bytes <+: flow.targetRead))
  | .writerRecv | .writerWrite _ | .writerFail | .writerGrant | .writerRemove | .writerClose | .writerEnd
  | .writerCancel | .relayGate | .relayWake | .relayStall | .relayRead _ | .relayEof | .relayError
  | .relayPush | .relayRemove | .relayClose | .relayCancel | .targetClose => inferInstanceAs (Decidable True)

def State.Echoes (state : State) : Action → Prop
  | .server f action => (state.server f).Echoes action
  | _ => True

instance (state : State) : DecidablePred state.Echoes
  | .server f action => inferInstanceAs (Decidable ((state.server f).Echoes action))
  | .openFlow | .client _ _ | .ping _ | .clientReceive | .clientClose | .shutdown | .upFail | .receiver _
  | .sender _ | .sessionEnd => inferInstanceAs (Decidable True)

def piece : Nat := 4096

def tight : Config where
  appOut := piece
  appIn := piece
  targetIn := piece
  targetOut := piece
  tunEnabled := false

def block : Bytes := List.replicate piece 0

/-- A chunk goes from the application to `local_to_ws`. -/
def putting (bytes : Bytes) : List ClientAction := [.appWrite bytes, .relayRead bytes.length, .relaySend]

def uploading : List ClientAction := putting block ++ [.loopRecv, .loopConsume, .loopSend]

/-- A chunk goes from the application to the target's socket, and its grant comes back. -/
def upload : List Action :=
  uploading.map (.client 1) ++ ([.receiver .receive] : List Action) ++
  [ServerAction.writerRecv, .writerWrite piece, .writerGrant].map (.server 1) ++
  ([.sender .pollControl, .clientReceive] : List Action)

/-- The server's relay forwards a chunk to the client, whose relay leaves it unread. -/
def forward : List Action :=
  [ServerAction.relayGate, .relayRead piece, .relayPush].map (.server 1) ++
  ([.sender .pollControl, .sender .pollData, .clientReceive] : List Action)

def echoRound : List Action :=
  upload ++ [ServerAction.targetRead piece].map (.server 1) ++
  [ServerAction.targetWrite block].map (.server 1) ++ forward

/-- The server out of credits, with a chunk in each direction of the target's socket and one
with the target. -/
def fillTarget : List Action :=
  [ServerAction.relayGate].map (.server 1) ++ upload ++ [ServerAction.targetRead piece].map (.server 1) ++
  [ServerAction.targetWrite block].map (.server 1) ++ upload ++
  [ServerAction.targetRead piece].map (.server 1) ++ upload

def stuff : List Action := uploading.map (.client 1) ++ [.receiver .receive]

def parking : List ClientAction := putting [0] ++ [.loopRecv, .loopConsume]

def jam : List Action :=
  openFlow 1 ++ ([.sender .pollControl, .clientReceive] : List Action) ++
  (List.replicate 64 echoRound).flatten ++ fillTarget ++
  (stuff ++ [ServerAction.writerRecv].map (.server 1)) ++ (List.replicate 63 stuff).flatten ++
  parking.map (.client 1) ++
  (List.replicate flowChannelCap ((putting [0]).map (.client 1))).flatten ++
  [ClientAction.appWrite [0], .relayRead 1].map (.client 1)

namespace ServerFlow

variable {flow next : ServerFlow}

/-- The target has read and sent the same as before. -/
def SameTarget (flow next : ServerFlow) : Prop :=
  next.targetRead = flow.targetRead ∧ next.targetSent = flow.targetSent

theorem Moves.sameTarget (moves : Moves cfg f flow action next output) (reads : ∀ n, action ≠ .targetRead n)
    (writes : ∀ bytes, action ≠ .targetWrite bytes) : flow.SameTarget next := by
  cases moves <;> simp_all [SameTarget]

theorem sameTarget_removeFlow (flow : ServerFlow) : flow.SameTarget flow.removeFlow := by
  unfold removeFlow
  split <;> exact ⟨rfl, rfl⟩

theorem sameTarget_handleFlowData (flow : ServerFlow) (data : Bytes) :
    flow.SameTarget (flow.handleFlowData data).1 := by
  unfold handleFlowData
  split
  · split
    · exact ⟨rfl, rfl⟩
    · split
      · exact ⟨rfl, rfl⟩
      · exact flow.sameTarget_removeFlow
  · exact ⟨rfl, rfl⟩

end ServerFlow

theorem FlowMoves.sameTarget (moves : FlowMoves cfg f view move next) (reads : ∀ n, move ≠ .server (.targetRead n))
    (writes : ∀ bytes, move ≠ .server (.targetWrite bytes)) : view.server.SameTarget next.server := by
  cases moves with
  | serverSilent action flow moves | serverData action flow payload moves | serverControl action flow message moves =>
    exact moves.sameTarget (fun n same => reads n (congrArg _ same)) fun bytes same => writes bytes (congrArg _ same)
  | receiveData crowded payload rest arrived idle =>
    have outcome := ServerFlow.dispatched cfg.tunEnabled view.server payload
    generalize view.server.dispatchData cfg.tunEnabled payload = result at outcome
    obtain ⟨server, overflown⟩ := result
    cases outcome with
    | _ => exact ⟨rfl, rfl⟩
  | receiveClose | sessionEnd => exact view.server.sameTarget_removeFlow
  | receiveUpdate crowded n =>
    obtain ⟨credits, granted⟩ := view.server.grantCredits_eq n
    rw [granted]
    exact ⟨rfl, rfl⟩
  | flush data => exact view.server.sameTarget_handleFlowData data
  | _ => exact ⟨rfl, rfl⟩

/-- The tunnel with what the target of flow 1 has read and not yet sent back, as long as it echoes. -/
def watch (cfg : Config) (watched : State × Bytes) (action : Action) : Option (State × Bytes) :=
  match action with
  | .server 1 (.targetRead n) =>
    if watched.2 = [] then (step cfg watched.1 action).map (·, (watched.1.server 1).targetIn.take n) else none
  | .server 1 (.targetWrite bytes) =>
    if bytes <+: watched.2 then (step cfg watched.1 action).map (·, watched.2.drop bytes.length) else none
  | _ => if watched.1.Echoes action then (step cfg watched.1 action).map (·, watched.2) else none

def State.Owes (state : State) (owed : Bytes) : Prop :=
  state.Numbered ∧ (state.server 1).targetRead = (state.server 1).targetSent ++ owed

theorem State.observe_server (label : observe f state action = some (.server move)) : action = .server f move := by
  cases action with
  | receiver action | sender action => cases action <;> simp_all [observe]
  | _ => simp_all [observe]

theorem watch_echoes (owes : state.Owes owed) (watched : watch cfg (state, owed) action = some (next, left)) :
    step cfg state action = some next ∧ state.Echoes action ∧ next.Owes left := by
  obtain ⟨numbered, owes⟩ := owes
  unfold watch at watched
  split at watched
  · rename_i n
    obtain ⟨rfl, watched⟩ : owed = [] ∧ _ := Option.ite_none_right_eq_some.mp watched
    obtain ⟨_, taken, ⟨⟩⟩ := Option.map_eq_some_iff.mp watched
    refine ⟨taken, by simpa [State.Echoes, ServerFlow.Echoes] using owes.symm, State.step_numbered numbered taken, ?_⟩
    rcases State.serverStep_cases taken with ⟨flow, moves, rfl⟩ | ⟨_, _, moves, -⟩ | ⟨_, _, moves, -⟩ <;> cases moves
    simpa [State.setServer] using owes
  · rename_i bytes
    obtain ⟨⟨rest, rfl⟩, watched⟩ : bytes <+: owed ∧ _ := Option.ite_none_right_eq_some.mp watched
    obtain ⟨_, taken, ⟨⟩⟩ := Option.map_eq_some_iff.mp watched
    refine ⟨taken, ⟨rest, by rw [owes, List.append_assoc]⟩, State.step_numbered numbered taken, ?_⟩
    rcases State.serverStep_cases taken with ⟨flow, moves, rfl⟩ | ⟨_, _, moves, -⟩ | ⟨_, _, moves, -⟩ <;> cases moves
    simpa [State.setServer] using owes
  · rename_i reads writes
    obtain ⟨echoes, watched⟩ := Option.ite_none_right_eq_some.mp watched
    obtain ⟨_, taken, ⟨⟩⟩ := Option.map_eq_some_iff.mp watched
    refine ⟨taken, echoes, State.step_numbered numbered taken, ?_⟩
    rcases State.view_step (f := 1) numbered taken with ⟨-, same⟩ | ⟨move, label, moves⟩
    · have server : next.server 1 = state.server 1 := congrArg FlowView.server same
      rw [server, owes]
    · have same : (state.server 1).SameTarget (next.server 1) :=
        moves.sameTarget (fun n reading => reads n (State.observe_server (reading ▸ label)))
          fun bytes writing => writes bytes (State.observe_server (writing ▸ label))
      rw [same.1, same.2, owes]

theorem run_watch (owes : state.Owes owed) (watched : run (watch cfg) (state, owed) actions = some (final, left)) :
    run (step cfg) state actions = some final ∧ Meets (step cfg) State.Echoes state actions ∧
      final.Owes left := by
  induction actions generalizing state owed with
  | nil =>
    cases watched
    exact ⟨rfl, trivial, owes⟩
  | cons action rest ih =>
    obtain ⟨⟨next, after⟩, first, onward⟩ := Option.bind_eq_some_iff.mp watched
    obtain ⟨taken, echoes, owes⟩ := watch_echoes owes first
    obtain ⟨reached, meets, owes⟩ := ih owes onward
    refine ⟨(run_cons_some rest taken).trans reached, ⟨echoes, fun other same => ?_⟩, owes⟩
    cases taken.symm.trans same
    exact meets

def WriterPhase.isWriting : WriterPhase → Bool
  | .writing _ _ => true
  | _ => false

def Stuck (watched : State × Bytes) : Bool :=
  let client := watched.1.client 1
  let server := watched.1.server 1
  client.relay = .sending [0] && flowChannelCap ≤ client.localToWs.length && client.wsToLocal ≠ [] &&
    client.loop = .parked [0] && client.credits.available = 0 && server.writer.isWriting &&
    piece ≤ server.targetIn.length && watched.2 ≠ [] && piece ≤ server.targetOut.length &&
    server.relay = .waiting && server.credits.available = 0

theorem deadlocked_of_stuck (stuck : Stuck (state, owed)) (owes : state.Owes owed) : Deadlocked tight 1 state := by
  simp only [Stuck, Bool.and_eq_true, decide_eq_true_eq] at stuck
  obtain ⟨⟨⟨⟨⟨⟨⟨⟨⟨⟨relay, full⟩, unread⟩, loop⟩, exhausted⟩, writer⟩, input⟩, owed⟩, output⟩, gate⟩, spent⟩ := stuck
  have writing : ∃ size left, (state.server 1).writer = .writing size left := by
    unfold WriterPhase.isWriting at writer
    split at writer
    · exact ⟨_, _, by assumption⟩
    · cases writer
  refine ⟨⟨⟨_, relay⟩, full⟩, unread, ⟨⟨_, loop⟩, exhausted⟩, .inl ⟨writing, input⟩, ⟨?_, output⟩, .inl ⟨gate, spent⟩⟩
  rw [owes.2, List.length_append]
  exact Nat.lt_add_of_pos_right (List.length_pos_iff.mpr owed)

theorem jam_sticks : (run (watch tight) (State.start, []) jam).map Stuck = some true := by
  decide +kernel

theorem echo_deadlocks : ∃ final, Transition.run (step tight) State.start jam = some final ∧
    Transition.Meets (step tight) State.Echoes State.start jam ∧ Deadlocked tight 1 final := by
  obtain ⟨⟨final, owed⟩, watched, stuck⟩ := Option.map_eq_some_iff.mp jam_sticks
  have ⟨reached, meets, owes⟩ := run_watch ⟨State.start_numbered, rfl⟩ watched
  exact ⟨final, reached, meets, deadlocked_of_stuck stuck owes⟩

end Rvpn.Mux
