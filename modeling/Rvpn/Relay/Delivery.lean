import Rvpn.Relay.Legacy

/-! What the legacy relay delivers: every byte is in one of seven places, in order. -/

namespace Rvpn.Relay

open Crypto Mux RacedPipe

variable {Secret Private : Type} {P : Primitives Secret Private}

structure Frame where
  inFlight : InFlight
  chunk : Bytes

structure Frame.Carries (frame : Frame) : Prop where
  unpads : unpadPacket frame.inFlight.plaintext = .ok frame.chunk
  size : frame.inFlight.message.ciphertext.length ≤ maxMessageSize

def State.unreadClose (state : State P) : List WsMessage :=
  if state.closeSent = true ∧ state.client.producer ≠ .finished then [.close] else []

/-- Everything the target wrote is on its way or written, in order. -/
structure Conserved (state : State P) (frames : List Frame) : Prop where
  inStep : InStep state.sender state.receiver (frames.map Frame.inFlight)
  carries : ∀ frame ∈ frames, frame.Carries
  wire : state.wire = (frames.map fun frame => .binary frame.inFlight.message.toBytes) ++ state.unreadClose
  closed : state.closeSent = true → state.server.ended = true
  serverEnded : state.server.ended = true →
    state.targetClosed = true ∧ state.unread = [] ∧ state.server.contents = []
  finished : state.client.producer = .finished → frames = [] ∧ state.closeSent = true
  clientEnded : state.client.ended = true → state.client.producer = .finished ∧ state.client.contents = []
  chunks : ∀ chunk ∈ state.server.contents, chunk ≠ [] ∧ chunk.length ≤ readBufferSize
  bytes : state.written ++ (state.client.contents.flatten ++ ((frames.map Frame.chunk).flatten ++
    (state.server.contents.flatten ++ state.unread))) = state.targetWritten

theorem start_conserved (inStep : InStep sender receiver []) :
    Conserved (start sender receiver) [] where
  inStep := inStep
  carries := nofun
  wire := rfl
  closed := nofun
  serverEnded := nofun
  finished := nofun
  clientEnded := nofun
  chunks := nofun
  bytes := rfl

section encryption

theorem encryptFrame_eq (sized : AeadSized P) {sender : DoubleRatchet P}
    (sending : sender.sendingChainKey = some chainKey) (nonce : Nonce) (fill : Nat → UInt8) {data : Bytes}
    (nonempty : data ≠ []) (small : data.length ≤ readBufferSize) :
    ∃ message padded next, encryptFrame sender nonce fill data = (.ok message.toBytes, next) ∧
      sender.encrypt nonce padded [dataPayloadType] = (.ok message, next) ∧
      Frame.Carries ⟨⟨message, padded⟩, data⟩ := by
  have fits : data.length ≤ maxPaddedSize - 2 := small.trans (by decide)
  have cover := paddingBlocks_spec data.length
  have size := paddedSize_eq (by simpa using nonempty) fits
  have tight : paddedSize data.length - 2 - data.length < 65536 := by
    unfold paddingBlockSize at *
    omega
  have short : (withPadding fill data (paddedSize data.length - 2 - data.length)).length ≤ 16384 := by
    rw [length_withPadding, size]
    unfold readBufferSize at small
    unfold paddingBlockSize at *
    omega
  obtain ⟨message, next, encrypted, -, length⟩ :=
    sized.encrypt sending nonce dataPayloadType (short.trans (by decide))
  refine ⟨message, _, next, ?_, encrypted, unpadPacket_withPadding tight, ?_⟩
  · rw [encryptFrame, encryptPadded_of_padPacket (padPacket_eq nonempty fits), encrypted]
  · rw [length]
    unfold tagSize maxMessageSize
    omega

theorem openFrame_eq {receiver : DoubleRatchet P} {frame : Frame} (carries : frame.Carries)
    (opened : receiver.decrypt drawn frame.inFlight.message [dataPayloadType] = (.ok frame.inFlight.plaintext, next)) :
    openFrame receiver drawn frame.inFlight.message.toBytes = (some frame.chunk, next) := by
  have short : frame.inFlight.message.ciphertext.length < 2 ^ 64 :=
    Nat.lt_of_le_of_lt carries.size (by decide)
  simp only [openFrame, RatchetMessage.fromBytes_toBytes short, opened, carries.unpads]
  rfl

end encryption

namespace Conserved

variable {state next : State P} {frames : List Frame}

section

variable (conserved : Conserved state frames)
include conserved

theorem unclosed (live : state.server.ended = false) :
    state.closeSent = false := by
  by_contra sent
  rw [Bool.not_eq_false] at sent
  cases live.symm.trans (conserved.closed sent)

theorem running (live : state.server.ended = false) :
    state.client.producer ≠ .finished := fun finished => by
  cases (conserved.unclosed live).symm.trans (conserved.finished finished).2

theorem server {server : Pipe Bytes}
    (live : state.server.ended = false) (same : server.contents = state.server.contents)
    (drained : server.ended = true → state.targetClosed = true ∧ state.unread = [] ∧ state.server.contents = []) :
    Conserved { state with server } frames where
  __ := conserved
  closed sent := by cases (conserved.unclosed live).symm.trans sent
  serverEnded ended := by
    obtain ⟨closed, read, empty⟩ := drained ended
    exact ⟨closed, read, same.trans empty⟩
  chunks := by
    simp only [same]
    exact conserved.chunks
  bytes := by
    simp only [same]
    exact conserved.bytes

theorem client {client : Pipe Bytes}
    (same : client.contents = state.client.contents)
    (producer : client.producer = .finished ↔ state.client.producer = .finished)
    (drained : client.ended = true → state.client.producer = .finished ∧ state.client.contents = []) :
    Conserved { state with client, clientClose } frames where
  __ := conserved
  wire := by
    have unread : ({ state with client, clientClose } : State P).unreadClose = state.unreadClose := by
      simp [State.unreadClose, ne_eq, producer]
    rw [unread]
    exact conserved.wire
  finished done := conserved.finished (producer.mp done)
  clientEnded ended := by
    obtain ⟨done, empty⟩ := drained ended
    exact ⟨producer.mpr done, same.trans empty⟩
  bytes := by
    simp only [same]
    exact conserved.bytes

theorem read (taken : step state (.read count) = some next) :
    Conserved next frames := by
  simp only [step] at taken
  split at taken
  · rename_i sized
    obtain ⟨server, produced, rfl⟩ := Option.map_eq_some_iff.mp taken
    obtain ⟨live, stillLive, contents, -⟩ := produce_spec produced
    refine { conserved with closed := ?_, serverEnded := ?_, chunks := ?_, bytes := ?_ }
    · intro sent
      cases (conserved.unclosed live).symm.trans sent
    · intro ended
      cases stillLive.symm.trans ended
    · intro chunk member
      rw [contents] at member
      rcases List.mem_append.mp member with old | new
      · exact conserved.chunks chunk old
      · rw [List.mem_singleton.mp new]
        refine ⟨?_, by simp; omega⟩
        rw [← List.length_pos_iff, List.length_take]
        omega
    · simp only [contents, List.flatten_append, List.flatten_singleton, List.append_assoc, List.take_append_drop]
      exact conserved.bytes
  · cases taken

end

theorem transmit (sized : AeadSized P) (conserved : Conserved state frames)
    (taken : step state (.transmit nonce fill) = some next) : ∃ frame, Conserved next (frames ++ [frame]) := by
  simp only [step, Relay.transmit] at taken
  split at taken
  · cases taken
  · rename_i data server consumed
    obtain ⟨live, stillLive, contents, -⟩ := consume_spec consumed
    obtain ⟨nonempty, small⟩ := conserved.chunks data (contents ▸ List.mem_cons_self)
    obtain ⟨_, _, chainKey, _, _, _, sending, _⟩ := conserved.inStep.chain
    obtain ⟨message, padded, sender, encrypted, outcome, carries⟩ :=
      encryptFrame_eq sized sending nonce fill nonempty small
    obtain rfl : _ = next := by simpa [encrypted] using taken
    have unsent := conserved.unclosed live
    refine ⟨⟨⟨message, padded⟩, data⟩, ⟨?_, ?_, ?_, ?_, ?_, ?_, conserved.clientEnded, ?_, ?_⟩⟩
    · simpa using conserved.inStep.encrypt outcome
    · exact List.forall_mem_append.mpr ⟨conserved.carries, List.forall_mem_singleton.mpr carries⟩
    · simp [State.unreadClose, unsent, conserved.wire]
    · intro sent
      cases unsent.symm.trans sent
    · intro ended
      cases stillLive.symm.trans ended
    · intro finished
      exact absurd finished (conserved.running live)
    · intro chunk member
      exact conserved.chunks chunk (contents ▸ List.mem_cons_of_mem _ member)
    · have bytes := conserved.bytes
      rw [contents] at bytes
      simpa using bytes

theorem sendClose (conserved : Conserved state frames) (taken : step state .sendClose = some next) :
    Conserved next frames := by
  simp only [step] at taken
  split at taken
  · rename_i ready
    obtain ⟨ended, unsent⟩ := ready
    cases taken
    have running : state.client.producer ≠ .finished := fun finished => unsent (conserved.finished finished).2
    refine { conserved with wire := ?_, closed := fun _ => ended, finished := ?_ }
    · simp [State.unreadClose, running, conserved.wire, unsent]
    · intro finished
      exact absurd finished running
  · cases taken

theorem receiveClose (conserved : Conserved state []) (taken : step state (.receive drawn) = some next) :
    Conserved next [] := by
  have wire := conserved.wire
  simp only [step, Relay.receive] at taken
  by_cases waiting : state.closeSent = true ∧ state.client.producer ≠ .finished
  · rw [State.unreadClose, if_pos waiting, List.map_nil, List.nil_append] at wire
    rw [wire] at taken
    obtain ⟨client, finished, rfl⟩ := Option.map_eq_some_iff.mp taken
    obtain ⟨live, stillLive, contents, -, done⟩ := finishProducer_spec finished
    refine { conserved with wire := ?_, finished := fun _ => ⟨rfl, waiting.1⟩, clientEnded := ?_, bytes := ?_ }
    · simp [State.unreadClose, done]
    · intro ended
      cases stillLive.symm.trans ended
    · simp only [contents]
      exact conserved.bytes
  · rw [State.unreadClose, if_neg waiting, List.map_nil, List.nil_append] at wire
    rw [wire] at taken
    cases taken

theorem receiveBinary (aead : AeadCorrect P) {frame : Frame} {rest : List Frame}
    (conserved : Conserved state (frame :: rest)) {drawn : Private}
    (taken : step state (.receive drawn) = some next) : Conserved next rest := by
  have carries := conserved.carries frame List.mem_cons_self
  obtain ⟨receiver, opened, inStep, -⟩ := conserved.inStep.decrypt aead drawn [dataPayloadType] carries.size
  simp only [step, Relay.receive, conserved.wire, List.map_cons, List.cons_append, openFrame_eq carries opened] at taken
  split at taken
  · obtain ⟨client, produced, rfl⟩ := Option.map_eq_some_iff.mp taken
    obtain ⟨live, stillLive, contents, running, stillRunning⟩ := produce_spec produced
    refine { conserved with
      inStep, carries := (List.forall_mem_cons.mp conserved.carries).2, wire := ?_, finished := ?_, clientEnded := ?_
      bytes := ?_ }
    · simp [State.unreadClose, running, stillRunning]
    · intro finished
      exact absurd finished stillRunning
    · intro ended
      cases stillLive.symm.trans ended
    · have bytes := conserved.bytes
      simp only [contents]
      simpa using bytes
  · cases taken

theorem receive (aead : AeadCorrect P) (conserved : Conserved state frames)
    (taken : step state (.receive drawn) = some next) : ∃ rest, Conserved next rest := by
  cases frames with
  | nil => exact ⟨[], conserved.receiveClose taken⟩
  | cons frame rest => exact ⟨rest, conserved.receiveBinary aead taken⟩

theorem write (conserved : Conserved state frames) (taken : step state .write = some next) :
    Conserved next frames := by
  obtain ⟨⟨data, client⟩, consumed, rfl⟩ := Option.map_eq_some_iff.mp taken
  obtain ⟨live, stillLive, contents, producer⟩ := consume_spec consumed
  refine { conserved with wire := ?_, finished := ?_, clientEnded := ?_, bytes := ?_ }
  · have unread : ({ state with client, written := state.written ++ data } : State P).unreadClose =
        state.unreadClose := by
      simp [State.unreadClose, producer]
    exact conserved.wire.trans (congrArg _ unread.symm)
  · intro finished
    exact conserved.finished (producer ▸ finished)
  · intro ended
    cases stillLive.symm.trans ended
  · have bytes := conserved.bytes
    rw [contents] at bytes
    simpa using bytes

theorem endUplink (conserved : Conserved state frames) (taken : Relay.endUplink state = some next) :
    Conserved next frames := by
  obtain ⟨server, finished, rfl⟩ := Option.map_eq_some_iff.mp taken
  obtain ⟨live, stillLive, contents, -⟩ := finishOther_spec finished
  exact conserved.server live contents fun ended => by cases stillLive.symm.trans ended

theorem step (aead : AeadCorrect P) (sized : AeadSized P) (conserved : Conserved state frames)
    (passed : drained state action = true) (taken : Relay.step state action = some next) :
    ∃ rest, Conserved next rest := by
  cases action with
  | targetWrite bytes =>
    simp only [Relay.step] at taken
    split at taken
    · cases taken
    · rename_i isOpen
      cases taken
      refine ⟨frames, { conserved with serverEnded := ?_, bytes := ?_ }⟩
      · intro ended
        exact absurd (conserved.serverEnded ended).1 isOpen
      · simp [← conserved.bytes, List.append_assoc]
  | targetClose =>
    cases taken
    refine ⟨frames, { conserved with serverEnded := ?_ }⟩
    intro ended
    exact ⟨rfl, (conserved.serverEnded ended).2⟩
  | read count => exact ⟨frames, conserved.read taken⟩
  | readEof =>
    simp only [Relay.step] at taken
    split at taken
    · obtain ⟨server, finished, rfl⟩ := Option.map_eq_some_iff.mp taken
      obtain ⟨live, stillLive, contents, -⟩ := finishProducer_spec finished
      exact ⟨frames, conserved.server live contents fun ended => by cases stillLive.symm.trans ended⟩
    · cases taken
  | server action =>
    obtain ⟨server, moved, rfl⟩ := Option.map_eq_some_iff.mp taken
    obtain ⟨live, contents, -, joined⟩ := step_spec moved
    refine ⟨frames, conserved.server live contents fun ended => ?_⟩
    have isJoin : action = .join := by simpa [joined] using ended
    subst isJoin
    exact of_decide_eq_true passed
  | transmit nonce fill =>
    obtain ⟨frame, onward⟩ := conserved.transmit sized taken
    exact ⟨_, onward⟩
  | readClose =>
    simp only [Relay.step] at taken
    split at taken
    · exact ⟨frames, conserved.endUplink taken⟩
    · cases taken
  | idleTimeout | targetRefuses => exact ⟨frames, conserved.endUplink taken⟩
  | sendClose => exact ⟨frames, conserved.sendClose taken⟩
  | receive drawn => exact conserved.receive aead taken
  | client action =>
    obtain ⟨client, moved, rfl⟩ := Option.map_eq_some_iff.mp taken
    obtain ⟨live, contents, producer, joined⟩ := step_spec moved
    refine ⟨frames, conserved.client contents producer fun ended => ?_⟩
    have isJoin : action = .join := by simpa [joined] using ended
    subst isJoin
    exact of_decide_eq_true passed
  | write => exact ⟨frames, conserved.write taken⟩
  | localEof =>
    obtain ⟨client, finished, rfl⟩ := Option.map_eq_some_iff.mp taken
    obtain ⟨live, stillLive, contents, producer⟩ := finishOther_spec finished
    refine ⟨frames, conserved.client contents (by rw [producer]) fun ended => ?_⟩
    cases stillLive.symm.trans ended

end Conserved

def Lossless (state : State P) : Prop := ∃ frames, Conserved state frames

/-- If both sides end their races only when their tasks have passed everything on, the local socket has all that the
target wrote once the client relay has ended. -/
theorem all_written_when_relay_ends (aead : AeadCorrect P) (sized : AeadSized P) {sender receiver : DoubleRatchet P}
    (inStep : InStep sender receiver []) (actions : List (Action Private)) (final : State P)
    (reached : Transition.run step (start sender receiver) actions = some final)
    (passed : Transition.Meets step (fun state action => drained state action = true) (start sender receiver) actions)
    (ended : final.client.ended = true) :
    final.targetClosed = true ∧ final.written = final.targetWritten := by
  have kept : Lossless final := by
    refine Transition.run_preserves_of_meets ?_ ⟨[], start_conserved inStep⟩ passed reached
    rintro state action next ⟨frames, conserved⟩ passed taken
    exact conserved.step aead sized passed taken
  obtain ⟨frames, conserved⟩ := kept
  obtain ⟨finished, clientEmpty⟩ := conserved.clientEnded ended
  obtain ⟨none, sent⟩ := conserved.finished finished
  obtain ⟨closed, unread, serverEmpty⟩ := conserved.serverEnded (conserved.closed sent)
  refine ⟨closed, ?_⟩
  have bytes := conserved.bytes
  simpa [clientEmpty, none, serverEmpty, unread] using bytes

namespace RelaySample

def server : DoubleRatchet PlainCipher.primitives := .initBob (Symbolic.keyOf 1) [7]
def client : DoubleRatchet PlainCipher.primitives := .initAlice (Symbolic.keyOf 2) [7] (Symbolic.keyOf 3)

def patient : List (Action (Vector UInt8 32)) :=
  [.targetWrite [1, 2], .targetClose, .read 2, .server .push, .readEof, .server .take,
    .transmit (Symbolic.nonceOf 4) (fun _ => 0), .server .finishConsumer, .server .join, .sendClose,
    .receive (Symbolic.keyOf 5), .client .push, .receive (Symbolic.keyOf 5), .client .take, .write,
    .client .finishConsumer, .client .join]

/-- Task 2 reads the end of the stream and is joined before task 3 has taken the chunk. -/
def hasty : List (Action (Vector UInt8 32)) :=
  [.targetWrite [1, 2], .targetClose, .read 2, .server .push, .readEof, .server .join, .sendClose,
    .receive (Symbolic.keyOf 5), .client .join]

end RelaySample

open RelaySample in
theorem patient_relay_writes_all :
    ∃ final, Transition.run step (start server client) patient = some final ∧ final.client.ended = true ∧
      final.targetWritten = [1, 2] ∧ final.written = [1, 2] := by
  refine Transition.exists_of_evaluated (p := fun final => final.client.ended = true ∧ final.targetWritten = [1, 2])
    (by decide +kernel) fun final reached facts => ?_
  obtain ⟨-, all⟩ := all_written_when_relay_ends PlainCipher.correct PlainCipher.sized (.ofBob ..) patient final reached
    (by decide +kernel) facts.1
  exact ⟨facts.1, facts.2, all.trans facts.2⟩

open RelaySample in
theorem hasty_relay_loses_all :
    (Transition.run step (start server client) hasty).map
      (fun final => (final.client.ended, final.targetClosed, final.targetWritten, final.written)) =
        some (true, true, [1, 2], []) := by
  decide +kernel

end Rvpn.Relay
