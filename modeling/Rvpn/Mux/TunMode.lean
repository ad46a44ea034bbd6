import Rvpn.Mux.UplinkOrder
import Rvpn.Server.Packet

/-! Flows on a server with a TUN device: a data frame whose flow is not in the map is taken for an IP packet. -/

namespace Rvpn.Mux

open Server (isPacket)

/-- The packet that a step writes to the TUN device, with the flow whose frame it came in. -/
def State.tunWrite (cfg : Config) (state : State) : Action → Option (FlowId × Bytes)
  | .receiver .receive =>
    match state.ended, state.rx, state.upWire with
    | false, .idle, .data f payload :: _ =>
      if (state.server f).entry ≠ .inserted ∧ cfg.tunEnabled = true ∧ isPacket payload = true then
        some (f, payload)
      else none
    | _, _, _ => none
  | _ => none

theorem State.of_tunWrite {state : State} (written : state.tunWrite cfg action = some (f, payload)) :
    state.ended = false ∧ state.rx = .idle ∧ ∃ rest, state.upWire = .data f payload :: rest ∧
      (state.server f).entry ≠ .inserted ∧ isPacket payload = true := by
  unfold tunWrite at written
  split at written
  · split at written
    · rename_i g bytes rest live idle arrived
      split at written
      · rename_i branch
        cases written
        exact ⟨live, idle, rest, arrived, branch.1, branch.2.2⟩
      · cases written
    · cases written
  · cases written

def Quiet (frames : List Frame) : Prop := ∀ frame ∈ frames, isPacket frame.payload = false

instance (frames : List Frame) : Decidable (Quiet frames) := List.decidableBAll _ _

theorem Quiet.tail (quiet : Quiet (frame :: frames)) : Quiet frames :=
  fun other member => quiet other (List.mem_cons_of_mem _ member)

theorem Quiet.append (quiet : Quiet frames) (last : isPacket frame.payload = false) : Quiet (frames ++ [frame]) := by
  exact List.forall_mem_append.mpr ⟨quiet, List.forall_mem_singleton.mpr last⟩

namespace FlowView

/-- The flow is in the server's map, or on the way there: its `CreateFlow` is on the wire or
being served. -/
def Standing (f : FlowId) (view : FlowView) : Prop :=
  (∃ frame ∈ view.up, frame.isCreate = true) ∨ view.rx = .connecting f ∨ view.rx = .spawned f ∨
    view.server.entry = .inserted

instance (f : FlowId) (view : FlowView) : Decidable (view.Standing f) := by
  unfold Standing
  infer_instance

/-- The server gives the flow up or takes it out: at the flow limit, for a `CloseFlow`, a full uplink queue, a failed
connection or a failed write, at the relay's end. -/
def dropsFlow (view : FlowView) : FlowAction → Bool
  | .receive crowded =>
    match view.up with
    | .control (.createFlow _ _ _) :: _ => crowded
    | .control (.closeFlow _) :: _ => true
    | .data _ _ :: _ =>
      view.server.entry = .inserted ∧ view.server.writer ≠ .done ∧
        flowUplinkQueueCap ≤ view.server.queue.length
    | _ => false
  | .connectFailed => true
  | .server .writerRemove | .server .relayRemove => view.server.entry = .inserted
  | _ => false

def remaining (view : FlowView) : FlowAction → List Frame
  | .receive _ => view.up.tail
  | _ => view.up

/-- What could pass for a packet is sent only while the flow stands, and the flow goes only
when nothing of the kind is on the wire. -/
def DropsQuietly (f : FlowId) (view : FlowView) (move : FlowAction) : Prop :=
  (move = .client .loopSend → isPacket view.client.loop.spent = true → view.Standing f) ∧
    (view.dropsFlow move = true → Quiet (view.remaining move))

instance (f : FlowId) (view : FlowView) : DecidablePred (view.DropsQuietly f) :=
  fun _ => inferInstanceAs (Decidable (_ ∧ _))

end FlowView

theorem ClientFlow.Moves.payload_output {flow : ClientFlow} {frame : Frame}
    (moves : flow.Moves cfg f action next (some frame)) :
    frame.payload = [] ∨ action = .loopSend ∧ frame.payload = flow.loop.spent := by
  cases moves with
  | loopSend frame rest sending => exact .inr ⟨rfl, by rw [sending]; rfl⟩
  | _ => exact .inl rfl

theorem ServerFlow.Moves.entry_kept {flow next : ServerFlow} (moves : flow.Moves cfg f action next output)
    (inserted : flow.entry = .inserted) :
    next.entry = .inserted ∨ action = .writerRemove ∨ action = .relayRemove := by
  cases moves with
  | writerRemove => exact .inr (.inl rfl)
  | relayRemove => exact .inr (.inr rfl)
  | _ => exact .inl inserted

structure Sheltered (f : FlowId) (view : FlowView) : Prop where
  born : Born f view
  safe : view.Standing f ∨ Quiet view.up

namespace Sheltered

variable {cfg : Config} {f : FlowId} {view next : FlowView} {move : FlowAction}

theorem start : Sheltered f .start where
  born := .start
  safe := .inr nofun

/-- Behind a frame of the flow that the receive loop takes there is no `CreateFlow`. -/
theorem inserted_of_standing (born : Born f view) (arrived : view.up = frame :: rest) (idle : view.rx = .idle)
    (plain : frame.isCreate = false) (standing : view.Standing f) : view.server.entry = .inserted := by
  obtain ⟨-, once, -⟩ := born.life.of_arrived arrived idle
  rcases standing with ⟨other, member, create⟩ | connecting | spawned | inserted
  · rw [arrived] at member
    rcases List.mem_cons.mp member with rfl | later
    · simp [plain] at create
    · simp [once other later] at create
  · simp [idle] at connecting
  · simp [idle] at spawned
  · exact inserted

theorem taken {rx : ReceiverPhase} (sheltered : Sheltered f view) (arrived : view.up = frame :: rest)
    (idle : view.rx = .idle) (plain : frame.isCreate = false)
    (kept : view.server.entry = .inserted → server.entry = .inserted) :
    FlowView.Standing f { view with server, up := rest, rx } ∨ Quiet rest := by
  rcases sheltered.safe with standing | quiet
  · exact .inl (.inr (.inr (.inr (kept (inserted_of_standing sheltered.born arrived idle plain standing)))))
  · rw [arrived] at quiet
    exact .inr quiet.tail

theorem sent (safe : view.Standing f ∨ Quiet view.up) (while_ : isPacket frame.payload = true → view.Standing f) :
    FlowView.Standing f { view with up := view.sendUp frame } ∨ Quiet (view.sendUp frame) := by
  unfold FlowView.sendUp
  split
  · have kept : view.Standing f → FlowView.Standing f { view with up := view.up ++ [frame] } := by
      rintro (⟨other, member, create⟩ | serving)
      · exact .inl ⟨other, List.mem_append_left _ member, create⟩
      · exact .inr serving
    rcases safe with standing | quiet
    · exact .inl (kept standing)
    · cases packet : isPacket frame.payload with
      | true => exact .inl (kept (while_ packet))
      | false => exact .inr (quiet.append packet)
  · exact safe

theorem served {action : ServerAction} {flow : ServerFlow} {output : Option ServerOutput}
    (safe : view.Standing f ∨ Quiet view.up) (quietly : view.DropsQuietly f (.server action))
    (moves : view.server.Moves cfg f action flow output) :
    FlowView.Standing f { view with server := flow } ∨ Quiet view.up := by
  rcases safe with (create | connecting | spawned | inserted) | quiet
  · exact .inl (.inl create)
  · exact .inl (.inr (.inl connecting))
  · exact .inl (.inr (.inr (.inl spawned)))
  · rcases moves.entry_kept inserted with kept | rfl | rfl
    · exact .inl (.inr (.inr (.inr kept)))
    · exact .inr (quietly.2 (by simp [FlowView.dropsFlow, inserted]))
    · exact .inr (quietly.2 (by simp [FlowView.dropsFlow, inserted]))
  · exact .inr quiet

theorem replied (safe : view.Standing f ∨ Quiet view.up) (past : view.rx ≠ .connecting f ∧ view.rx ≠ .spawned f)
    (kept : server.entry = view.server.entry) :
    FlowView.Standing f { view with server, rx } ∨ Quiet view.up := by
  rcases safe with (create | connecting | spawned | inserted) | quiet
  · exact .inl (.inl create)
  · exact absurd connecting past.1
  · exact absurd spawned past.2
  · exact .inl (.inr (.inr (.inr (kept.trans inserted))))
  · exact .inr quiet

theorem dispatched (sheltered : Sheltered f view) (quietly : view.DropsQuietly f (.receive crowded))
    (arrived : view.up = .data f payload :: rest) (idle : view.rx = .idle) {rx : ReceiverPhase}
    (dispatched : view.server.Dispatched cfg.tunEnabled payload server overflown) :
    FlowView.Standing f { view with server, up := rest, rx } ∨ Quiet rest := by
  cases dispatched with
  | refused | queued | tunneled | buffered => exact sheltered.taken arrived idle rfl id
  | overflown inserted working full =>
    have drops : view.dropsFlow (.receive crowded) = true := by
      simp [FlowView.dropsFlow, arrived, inserted, working, full]
    have quiet := quietly.2 drops
    rw [FlowView.remaining, arrived] at quiet
    exact .inr quiet

theorem moves (sheltered : Sheltered f view) (quietly : view.DropsQuietly f move) (other : move ≠ .sessionEnd)
    (moves : FlowMoves cfg f view move next) : Sheltered f next := by
  refine ⟨sheltered.born.moves moves, ?_⟩
  have safe := sheltered.safe
  cases moves with
  | clientSend action flow frame moves =>
    refine sent safe fun packet => ?_
    rcases moves.payload_output with empty | ⟨rfl, carried⟩
    · simp [empty] at packet
    · exact quietly.1 rfl (carried ▸ packet)
  | clientClose => exact sent safe fun packet => by simp at packet
  | serverSilent action flow moves | serverData action flow payload moves
  | serverControl action flow message moves =>
    exact served safe quietly moves
  | receiveData crowded payload rest arrived idle =>
    exact sheltered.dispatched quietly arrived idle (view.server.dispatched cfg.tunEnabled payload)
  | receiveCreate => exact .inl (.inr (.inl rfl))
  | refuseCreate target port rest error arrived | receiveClose crowded rest arrived =>
    have quiet := quietly.2 (by simp [FlowView.dropsFlow, arrived])
    rw [FlowView.remaining, arrived] at quiet
    exact .inr quiet
  | receiveUpdate crowded n rest arrived idle =>
    refine sheltered.taken arrived idle rfl fun inserted => ?_
    obtain ⟨credits, same⟩ := view.server.grantCredits_eq n
    rw [same]
    exact inserted
  | receiveIgnored crowded message rest arrived idle ignored =>
    refine sheltered.taken arrived idle ?_ id
    obtain ⟨g, ⟨port, rfl⟩ | ⟨error, rfl⟩⟩ := ignored <;> rfl
  | connected => exact .inl (.inr (.inr (.inl rfl)))
  | connectFailed => exact .inr (quietly.2 rfl)
  | insertFlow => exact .inl (.inr (.inr (.inr rfl)))
  | replyCreated created => exact replied safe (by simp [created]) rfl
  | replyOverflown frames overflown => exact replied safe (by simp [overflown]) rfl
  | reply message replying => exact replied safe (by simp [replying]) rfl
  | flush data frames flushing =>
    cases sheltered.born.life with
    | _ => simp_all
  | sessionEnd => exact absurd rfl other
  | _ => exact safe

end Sheltered

/-- In every run whose steps send and drop quietly, no payload of the flow is written to the
TUN device in any state reached. -/
theorem nothing_tunneled_of_dropsQuietly (cfg : Config) (f : FlowId) {actions : List Action} {state : State}
    (quietly : Transition.Meets (step cfg) (State.Guarded f (FlowView.DropsQuietly f)) State.start actions)
    (reached : Transition.run (step cfg) State.start actions = some state) (action : Action) (payload : Bytes) :
    state.tunWrite cfg action ≠ some (f, payload) := by
  intro written
  obtain ⟨live, idle, rest, arrived, out, packet⟩ := State.of_tunWrite written
  have sheltered : Sheltered f (state.view f) :=
    State.run_live_of_guarded (fun _ _ _ holds quietly other moves => holds.moves quietly other moves)
      Sheltered.start quietly reached live
  have first : (state.view f).up = .data f payload :: rest.filter fun frame => frame.flow = some f := by
    simp [State.view, arrived]
  have ready : (state.view f).rx = .idle := by simp [State.view, idle]
  rcases sheltered.safe with standing | quiet
  · exact out (Sheltered.inserted_of_standing sheltered.born first ready rfl standing)
  · have silent : isPacket payload = false := quiet (.data f payload) (by simp [first])
    simp [packet] at silent

namespace Sample

def tunneling : Config := { roomy with tunEnabled := true }

/-- The first byte, `G`, has the version 4 of an IPv4 packet in its upper half. -/
def request : Bytes := label "GET / HTTP/1.1\r\nHost: a\r\n\r\n"

def sendRequest : List Action := .client 1 (.appWrite request) :: sendChunk 1 request.length

/-- The connection to the target fails; the client, which does not wait for an answer, sends. -/
def failedConnect : List Action :=
  ([.openFlow, .client 1 (.create "example" 80), .client 1 .register, .receiver .receive,
    .receiver .connectFailed] : List Action) ++ sendRequest

end Sample

open Sample in
/-- A request of a flow that could not be opened is written to the TUN device. -/
theorem request_written_to_tun :
    ((Transition.run (step tunneling) State.start failedConnect).bind
      fun state => state.tunWrite tunneling (.receiver .receive)) = some (1, request) := by
  decide +kernel

open Sample in
theorem open_request_not_tunneled : ∃ state,
    Transition.run (step tunneling) State.start (openFlow 1 ++ sendRequest) = some state ∧
      state.tunWrite tunneling (.receiver .receive) ≠ some (1, request) := by
  refine Transition.exists_of_evaluated (p := fun _ => True) (by decide +kernel) fun state reached _ => ?_
  exact nothing_tunneled_of_dropsQuietly tunneling 1 (by decide +kernel) reached _ _

end Rvpn.Mux
