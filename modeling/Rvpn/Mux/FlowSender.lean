import Rvpn.Lib.Transition
import Rvpn.Mux.Encoding

/-! `flow_to_ws_loop` with its errors. The flow is not closed and the sender of the tunnel does not fail. -/

namespace Rvpn.Mux

open Transition

inductive SenderFailure where
  | frame (failure : FrameTooLarge)
  | padding (failure : DataTooLarge)
  | creditStall
  deriving DecidableEq, Repr

inductive SenderPhase where
  | running
  /-- In `wait_for_credit_or_stall`. -/
  | parked
  | failed (failure : SenderFailure)
  deriving DecidableEq, Repr

/-- A data frame that was handed to the tunnel, and the credits there were before it. -/
structure SentFrame where
  available : Nat
  frame : MultiplexedFrame
  deriving DecidableEq

structure FlowSender where
  flowId : FlowId
  credits : FlowSendCredits
  queue : List Bytes
  pending : Option Bytes
  phase : SenderPhase
  sent : List SentFrame
  put : List Bytes
  deriving DecidableEq

namespace FlowSender

inductive Action where
  | put (chunk : Bytes)
  | grant (n : Nat)
  /-- One round of the loop; the padding bytes are drawn anew in every round. -/
  | advance (fill : Nat → UInt8)
  /-- The loop has been parked for `FLOW_CREDIT_STALL_TIMEOUT`. -/
  | stall

def start (flowId : FlowId) : FlowSender := ⟨flowId, .new, [], none, .running, [], []⟩

def takeChunk (state : FlowSender) : Option (Bytes × FlowSender) :=
  match state.pending with
  | some data => some (data, { state with pending := none })
  | none =>
    match state.queue with
    | [] => none
    | data :: rest => some (data, { state with queue := rest })

def packet (fill : Nat → UInt8) (frame : MultiplexedFrame) : Except SenderFailure Bytes :=
  match frame.encode with
  | .error failure => .error (.frame failure)
  | .ok encoded =>
    match padPacket fill encoded with
    | .error failure => .error (.padding failure)
    | .ok padded => .ok padded

def sendChunk (state : FlowSender) (fill : Nat → UInt8) (data : Bytes) : FlowSender :=
  if data.isEmpty then state
  else
    let n := state.credits.consumable data.length
    if n = 0 then { state with pending := some data, phase := .parked }
    else
      let frame : MultiplexedFrame := ⟨state.flowId, data.take n⟩
      let spent := { state with
        credits := state.credits.tryConsume data.length
        pending := if n = data.length then none else some (data.drop n) }
      match packet fill frame with
      | .error failure => { spent with phase := .failed failure }
      | .ok _ => { spent with sent := state.sent ++ [⟨state.credits.available, frame⟩] }

def step (state : FlowSender) : Action → Option FlowSender
  | .put chunk =>
    match state.phase with
    | .failed _ => none
    | _ => some { state with queue := state.queue ++ [chunk], put := state.put ++ [chunk] }
  | .grant n => some { state with credits := state.credits.grant n }
  | .advance fill =>
    match state.phase with
    | .failed _ => none
    | .parked => if 0 < state.credits.available then some { state with phase := .running } else none
    | .running => state.takeChunk.map fun (data, rest) => rest.sendChunk fill data
  | .stall =>
    match state.phase with
    -- a grant may have been counted and its waiter not yet woken
    | .parked => some { state with phase := .failed .creditStall, pending := none }
    | _ => none

def delivered (state : FlowSender) : Bytes := (state.sent.map (·.frame.payload)).flatten

def waiting (state : FlowSender) : Bytes := state.pending.getD [] ++ state.queue.flatten

def Idle (state : FlowSender) : Prop :=
  match state.phase with
  | .failed _ => True
  | .parked => state.credits.available = 0
  | .running => state.takeChunk = none

/-- What a frame may carry: the flow id, the two lengths and the payload share the largest padded packet. -/
def maxFramePayload : Nat := maxPaddedSize - 2 - 6

/-- The round sends no larger frame than fits, and the loop does not give up waiting. -/
def Careful (state : FlowSender) : Action → Prop
  | .put _ => True
  | .grant _ => True
  | .advance _ => ∀ data rest, state.phase = .running → state.takeChunk = some (data, rest) →
      state.credits.consumable data.length ≤ maxFramePayload
  | .stall => False

section packets

variable {frame : MultiplexedFrame}

theorem packet_ok (fill : Nat → UInt8) (small : frame.payload.length ≤ maxFramePayload) :
    ∃ padded, packet fill frame = .ok padded := by
  unfold maxFramePayload maxPaddedSize at small
  have encodes : frame.encode = .ok (frameBytes frame.flowId frame.payload) :=
    if_neg (by unfold maxPayloadSize; omega)
  have sized : (frameBytes frame.flowId frame.payload).length = 6 + frame.payload.length := length_frameBytes
  have nonempty : frameBytes frame.flowId frame.payload ≠ [] := List.ne_nil_of_length_pos (by omega)
  have fits : (frameBytes frame.flowId frame.payload).length ≤ maxPaddedSize - 2 := by
    unfold maxPaddedSize
    omega
  simp only [packet, encodes, padPacket_eq nonempty fits]
  exact ⟨_, rfl⟩

theorem padPacket_error (fill : Nat → UInt8) (data : Bytes) (large : maxPaddedSize - 2 < data.length) :
    ∃ failure, padPacket fill data = .error failure := by
  have nonempty : data.isEmpty = false := List.isEmpty_eq_false_iff.mpr (List.ne_nil_of_length_pos (by omega))
  have refused : min (paddingBlocks data.length * paddingBlockSize) maxPaddedSize - 2 < data.length := by omega
  simp only [padPacket, nonempty, if_pos refused]
  exact ⟨_, rfl⟩

theorem packet_error (fill : Nat → UInt8) (large : maxFramePayload < frame.payload.length) :
    ∃ failure, packet fill frame = .error failure := by
  by_cases long : maxPayloadSize < frame.payload.length
  · exact ⟨_, by rw [packet, MultiplexedFrame.encode, if_pos long]⟩
  · have sized : (frameBytes frame.flowId frame.payload).length = 6 + frame.payload.length := length_frameBytes
    unfold maxFramePayload maxPaddedSize at large
    obtain ⟨failure, refused⟩ := padPacket_error fill (frameBytes frame.flowId frame.payload) (by
      unfold maxPaddedSize
      omega)
    exact ⟨.padding failure, by rw [packet, MultiplexedFrame.encode, if_neg long]; simp only [refused]⟩

end packets

variable {state next rest : FlowSender} {data : Bytes}

def Takes (state : FlowSender) (data : Bytes) (others : List Bytes) : Prop :=
  state.takeChunk = some (data, { state with pending := none, queue := others })

theorem takes_of_takeChunk (taken : state.takeChunk = some (data, rest)) :
    state.Takes data rest.queue ∧ rest = { state with pending := none, queue := rest.queue } := by
  have shape : rest = { state with pending := none, queue := rest.queue } := by
    unfold takeChunk at taken
    split at taken
    · obtain ⟨-, rfl⟩ := Prod.mk.inj (Option.some.inj taken)
      rfl
    · rename_i free
      split at taken
      · cases taken
      · obtain ⟨-, rfl⟩ := Prod.mk.inj (Option.some.inj taken)
        rw [← free]
  exact ⟨taken.trans (by rw [← shape]), shape⟩

theorem Takes.spec (takes : state.Takes data others) : state.waiting = data ++ others.flatten ∧
    others.length + 1 = state.queue.length + state.pending.toList.length := by
  unfold Takes takeChunk at takes
  unfold waiting
  split at takes
  · rename_i held
    simp only [Option.some.injEq, Prod.mk.injEq, FlowSender.mk.injEq] at takes
    simp [held, takes.1, takes.2]
  · rename_i free
    split at takes
    · cases takes
    · rename_i queued
      simp only [Option.some.injEq, Prod.mk.injEq, FlowSender.mk.injEq, true_and] at takes
      simp [free, queued, takes.1, takes.2.1]

def Alive (state : FlowSender) : Prop := ∀ failure, state.phase ≠ .failed failure

inductive Moves (state : FlowSender) : Action → FlowSender → Prop
  | put (alive : state.Alive) :
    Moves state (.put chunk) { state with queue := state.queue ++ [chunk], put := state.put ++ [chunk] }
  | grant : Moves state (.grant n) { state with credits := state.credits.grant n }
  | wake (parked : state.phase = .parked) (granted : 0 < state.credits.available) :
    Moves state (.advance fill) { state with phase := .running }
  | skip (running : state.phase = .running) (takes : state.Takes [] others) :
    Moves state (.advance fill) { state with pending := none, queue := others }
  | park (running : state.phase = .running) (takes : state.Takes chunk others) (nonempty : chunk ≠ [])
    (exhausted : state.credits.available = 0) :
    Moves state (.advance fill) { state with pending := some chunk, queue := others, phase := .parked }
  | send (running : state.phase = .running) (takes : state.Takes (payload ++ tail) others) (nonempty : payload ≠ [])
    (spent : payload.length = state.credits.consumable (payload ++ tail).length)
    (carried : kept.getD [] = tail) (small : payload.length ≤ maxFramePayload) :
    Moves state (.advance fill) { state with
      credits := state.credits.tryConsume (payload ++ tail).length, pending := kept, queue := others,
      sent := state.sent ++ [⟨state.credits.available, state.flowId, payload⟩] }
  | lose (failure : SenderFailure) (running : state.phase = .running) (takes : state.Takes (payload ++ tail) others)
    (nonempty : payload ≠ []) (spent : payload.length = state.credits.consumable (payload ++ tail).length)
    (carried : kept.getD [] = tail) (large : maxFramePayload < payload.length) :
    Moves state (.advance fill) { state with
      credits := state.credits.tryConsume (payload ++ tail).length, pending := kept, queue := others,
      phase := .failed failure }
  | stall (parked : state.phase = .parked) :
    Moves state .stall { state with phase := .failed .creditStall, pending := none }

theorem moves_of_sendChunk (running : state.phase = .running) (takes : state.Takes data others) :
    state.Moves (.advance fill) (FlowSender.sendChunk { state with pending := none, queue := others } fill data) := by
  by_cases empty : data = []
  · subst empty
    exact .skip running takes
  have shown : ¬ data.isEmpty = true := by simpa using empty
  have within := state.credits.consumable_le data.length
  rw [sendChunk, if_neg shown]
  by_cases exhausted : state.credits.consumable data.length = 0
  · have positive : 0 < data.length := List.length_pos_iff.mpr empty
    simp only [exhausted]
    refine .park running takes empty ?_
    unfold FlowSendCredits.consumable at exhausted
    omega
  simp only [exhausted]
  have size : (data.take (state.credits.consumable data.length)).length = state.credits.consumable data.length :=
    List.length_take_of_le within
  have carried : (if state.credits.consumable data.length = data.length then none
      else some (data.drop (state.credits.consumable data.length))).getD [] =
        data.drop (state.credits.consumable data.length) := by
    split
    · rename_i all
      simp [all]
    · rfl
  have whole := (List.take_append_drop (state.credits.consumable data.length) data).symm
  generalize data.take (state.credits.consumable data.length) = payload at size whole ⊢
  generalize data.drop (state.credits.consumable data.length) = tail at carried whole ⊢
  subst whole
  have nonempty : payload ≠ [] := by
    intro empty
    exact exhausted (size.symm.trans (congrArg List.length empty))
  by_cases small : payload.length ≤ maxFramePayload
  · obtain ⟨padded, done⟩ := @packet_ok ⟨state.flowId, payload⟩ fill small
    rw [done]
    exact .send running takes nonempty size carried small
  · have large := Nat.lt_of_not_le small
    obtain ⟨failure, refused⟩ := @packet_error ⟨state.flowId, payload⟩ fill large
    rw [refused]
    exact .lose failure running takes nonempty size carried large

theorem moves_of_step (taken : state.step action = some next) : state.Moves action next := by
  cases action with
  | put chunk =>
    dsimp only [step] at taken
    split at taken
    · cases taken
    · rename_i alive
      cases taken
      exact .put fun failure failed => alive failure failed
  | grant n =>
    cases taken
    exact .grant
  | advance fill =>
    dsimp only [step] at taken
    split at taken
    · cases taken
    · obtain ⟨granted, rfl⟩ := of_guard taken
      exact .wake ‹_› granted
    · obtain ⟨⟨data, rest⟩, found, rfl⟩ := Option.map_eq_some_iff.mp taken
      obtain ⟨takes, shape⟩ := takes_of_takeChunk found
      rw [shape]
      exact moves_of_sendChunk ‹_› takes
  | stall =>
    dsimp only [step] at taken
    split at taken
    · cases taken
      exact .stall ‹_›
    · cases taken

structure Sound (state : FlowSender) : Prop where
  intact : state.Alive → state.delivered ++ state.waiting = state.put.flatten
  lossy : ¬ state.Alive → state.delivered.length + state.waiting.length < state.put.flatten.length
  holding : state.phase = .parked → state.pending.getD [] ≠ []
  affordable : ∀ entry ∈ state.sent, entry.frame.payload.length ≤ entry.available

theorem Sound.start (flowId : FlowId) : (start flowId).Sound where
  intact _ := rfl
  lossy failed := absurd (fun _ => nofun) failed
  holding := nofun
  affordable := nofun

theorem alive_of_running (running : state.phase = .running) : state.Alive := by simp [Alive, running]

theorem alive_of_parked (parked : state.phase = .parked) : state.Alive := by simp [Alive, parked]

theorem Sound.moves (sound : state.Sound) (moves : state.Moves action next) : next.Sound := by
  cases moves with
  | @put chunk alive =>
    refine ⟨fun _ => ?_, fun failed => absurd alive failed, sound.holding, sound.affordable⟩
    have account := sound.intact alive
    simp [delivered, waiting, ← account]
  | grant => exact { sound with }
  | wake parked _ =>
    exact ⟨fun _ => sound.intact (alive_of_parked parked), fun failed => absurd (alive_of_running rfl) failed, nofun,
      sound.affordable⟩
  | skip running takes =>
    have account := sound.intact (alive_of_running running)
    rw [takes.spec.1] at account
    refine ⟨fun _ => account, fun failed => absurd (alive_of_running running) failed, ?_, sound.affordable⟩
    intro parked
    cases running.symm.trans parked
  | park running takes nonempty _ =>
    have account := sound.intact (alive_of_running running)
    rw [takes.spec.1] at account
    exact ⟨fun _ => account, fun failed => absurd (alive_of_parked rfl) failed, fun _ => nonempty, sound.affordable⟩
  | send running takes nonempty spent carried small =>
    have account := sound.intact (alive_of_running running)
    rw [takes.spec.1] at account
    refine ⟨fun _ => ?_, fun failed => absurd (alive_of_running running) failed, ?_, ?_⟩
    · simpa [delivered, waiting, carried] using account
    · intro parked
      cases running.symm.trans parked
    · exact List.forall_mem_append.mpr ⟨sound.affordable,
        List.forall_mem_singleton.mpr (Nat.le_trans (Nat.le_of_eq spent) (Nat.min_le_left _ _))⟩
  | lose failure running takes nonempty _ carried _ =>
    have account := congrArg List.length (sound.intact (alive_of_running running))
    rw [takes.spec.1] at account
    refine ⟨fun alive => absurd rfl (alive failure), fun _ => ?_, nofun, sound.affordable⟩
    simp only [waiting, carried, List.length_append] at account ⊢
    simp only [delivered] at account ⊢
    omega
  | stall parked =>
    have account := congrArg List.length (sound.intact (alive_of_parked parked))
    have held := List.length_pos_iff.mpr (sound.holding parked)
    refine ⟨fun alive => absurd rfl (alive _), fun _ => ?_, nofun, sound.affordable⟩
    simp only [waiting, List.length_append, Option.getD_none, List.length_nil] at account ⊢
    simp only [delivered] at account ⊢
    omega

theorem Takes.careful_iff (takes : state.Takes data others) (running : state.phase = .running)
    (fill : Nat → UInt8) :
    state.Careful (.advance fill) ↔ state.credits.consumable data.length ≤ maxFramePayload := by
  refine ⟨fun careful => careful data _ running takes, fun small other rest _ found => ?_⟩
  obtain ⟨rfl, -⟩ := Prod.mk.inj (Option.some.inj (takes.symm.trans found))
  exact small

theorem Moves.alive_iff (moves : state.Moves action next) : next.Alive ↔ state.Alive ∧ state.Careful action := by
  cases moves with
  | put | grant => exact ⟨fun alive => ⟨alive, trivial⟩, And.left⟩
  | wake parked _ =>
    refine ⟨fun _ => ⟨alive_of_parked parked, fun _ _ running => ?_⟩, fun _ => alive_of_running rfl⟩
    cases parked.symm.trans running
  | skip running takes =>
    have careful := (takes.careful_iff running ‹_›).mpr (by simp [FlowSendCredits.consumable])
    exact ⟨fun _ => ⟨alive_of_running running, careful⟩, fun _ => alive_of_running running⟩
  | park running takes _ exhausted =>
    have careful := (takes.careful_iff running ‹_›).mpr (by simp [FlowSendCredits.consumable, exhausted])
    exact ⟨fun _ => ⟨alive_of_running running, careful⟩, fun _ => alive_of_parked rfl⟩
  | send running takes _ spent _ small =>
    have careful := (takes.careful_iff running ‹_›).mpr (spent ▸ small)
    exact ⟨fun _ => ⟨alive_of_running running, careful⟩, fun _ => alive_of_running running⟩
  | lose failure running takes _ spent _ large =>
    refine ⟨fun alive => absurd rfl (alive failure), fun ⟨_, careful⟩ => ?_⟩
    have small := (takes.careful_iff running ‹_›).mp careful
    omega
  | stall _ => exact ⟨fun alive => absurd rfl (alive _), fun careful => careful.2.elim⟩

theorem alive_iff_meets (reached : run step state actions = some final) :
    final.Alive ↔ state.Alive ∧ Meets step Careful state actions := by
  induction actions generalizing state with
  | nil =>
    cases reached
    exact ⟨fun alive => ⟨alive, trivial⟩, And.left⟩
  | cons action rest ih =>
    obtain ⟨next, taken, onward⟩ := Option.bind_eq_some_iff.mp reached
    have first := (moves_of_step taken).alive_iff
    rw [ih onward, first]
    constructor
    · rintro ⟨⟨alive, careful⟩, meets⟩
      refine ⟨alive, careful, fun other taken' => ?_⟩
      cases taken.symm.trans taken'
      exact meets
    · rintro ⟨alive, careful, meets⟩
      exact ⟨⟨alive, careful⟩, meets next taken⟩

def roundsLeft (state : FlowSender) : Nat :=
  state.waiting.length + (state.queue.length + state.pending.toList.length) +
    match state.phase with
    | .failed _ => 0
    | .parked => if 0 < state.credits.available then 2 else 0
    | .running => 1

theorem Takes.roundsLeft (takes : state.Takes data others) (running : state.phase = .running) :
    state.roundsLeft = data.length + others.flatten.length + (others.length + 1) + 1 := by
  rw [FlowSender.roundsLeft, takes.spec.1, ← takes.spec.2, running, List.length_append]

theorem Moves.roundsLeft_lt (moves : state.Moves (.advance fill) next) : next.roundsLeft < state.roundsLeft := by
  have one : ∀ kept : Option Bytes, kept.toList.length ≤ 1 := by rintro (- | _) <;> simp
  cases moves with
  | wake parked granted => simp [roundsLeft, waiting, parked, granted]
  | skip running takes =>
    rw [takes.roundsLeft running]
    simp [roundsLeft, waiting, running]
  | park running takes _ exhausted =>
    rw [takes.roundsLeft running]
    simp [roundsLeft, waiting, exhausted]
  | send running takes nonempty _ carried _ =>
    have moved := List.length_pos_iff.mpr nonempty
    rw [takes.roundsLeft running]
    simp only [roundsLeft, waiting, running, carried, List.length_append]
    have := one ‹_›
    omega
  | lose failure running takes nonempty _ carried _ =>
    rw [takes.roundsLeft running]
    simp only [roundsLeft, waiting, carried, List.length_append]
    have := one ‹_›
    omega

theorem advances_of_not_idle (fill : Nat → UInt8) (busy : ¬ state.Idle) :
    ∃ next, state.step (.advance fill) = some next := by
  unfold Idle at busy
  dsimp only [step]
  split at busy
  · exact absurd trivial busy
  · exact ⟨_, if_pos (Nat.pos_of_ne_zero busy)⟩
  · obtain ⟨⟨data, rest⟩, found⟩ := Option.ne_none_iff_exists'.mp busy
    exact ⟨_, congrArg (Option.map _) found⟩

theorem comes_to_rest (state : FlowSender) (fill : Nat → UInt8) : ∃ rounds rested,
    run step state (List.replicate rounds (.advance fill)) = some rested ∧ rested.Idle := by
  by_cases idle : state.Idle
  · exact ⟨0, state, rfl, idle⟩
  · obtain ⟨next, taken⟩ := advances_of_not_idle fill idle
    have fewer := (moves_of_step taken).roundsLeft_lt
    obtain ⟨rounds, rested, reached, idle⟩ := comes_to_rest next fill
    exact ⟨rounds + 1, rested, (run_cons_some _ taken).trans reached, idle⟩
termination_by state.roundsLeft

theorem waiting_of_idle (alive : state.Alive) (idle : state.Idle)
    (covered : state.waiting.length ≤ state.credits.available) : state.waiting = [] := by
  unfold Idle at idle
  split at idle
  · exact absurd ‹_› (alive _)
  · exact List.length_eq_zero_iff.mp (by omega)
  · unfold takeChunk at idle
    split at idle
    · cases idle
    · rename_i free
      split at idle
      · rename_i drained
        simp [waiting, free, drained]
      · cases idle

/-- Every frame stays within the credits there are, the loop comes to rest after finitely many rounds, and one at
rest that has the credits for what is left has sent all the chunks exactly if every step was careful. -/
theorem frames_carry_chunks_iff (flowId : FlowId) (reached : Transition.run step (start flowId) actions = some final) :
    (∀ entry ∈ final.sent, entry.frame.payload.length ≤ entry.available) ∧
      (∀ fill, ∃ rounds rested,
        Transition.run step final (List.replicate rounds (.advance fill)) = some rested ∧ rested.Idle) ∧
      (final.Idle → final.waiting.length ≤ final.credits.available →
        (final.delivered = final.put.flatten ↔ Transition.Meets step Careful (start flowId) actions)) := by
  have sound : final.Sound := run_preserves
    (fun _ _ _ holds taken => holds.moves (moves_of_step taken)) (Sound.start flowId) reached
  refine ⟨sound.affordable, final.comes_to_rest, fun idle covered => ?_⟩
  have lives := alive_iff_meets reached
  constructor
  · intro complete
    refine (lives.mp ?_).2
    by_contra failed
    have lost := sound.lossy failed
    rw [complete] at lost
    omega
  · intro meets
    have alive := lives.mpr ⟨alive_of_running rfl, meets⟩
    have account := sound.intact alive
    rwa [waiting_of_idle alive idle covered, List.append_nil] at account

theorem small_chunk_delivered : ∃ final,
    Transition.run step (start 7) [.put [1, 2, 3], .advance fun _ => 0] = some final ∧ final.Idle ∧
      final.delivered = [1, 2, 3] ∧
      Transition.Meets step Careful (start 7) [.put [1, 2, 3], .advance fun _ => 0] := by
  have reached : run step (start 7) [.put [1, 2, 3], .advance fun _ => 0] = some _ := rfl
  exact ⟨_, reached, rfl, rfl, ((frames_carry_chunks_iff 7 reached).2.2 rfl (Nat.zero_le _)).mp rfl⟩

theorem sendChunk_large (fill : Nat → UInt8) (large : maxFramePayload < data.length)
    (covered : data.length ≤ state.credits.available) : ∃ failure, state.sendChunk fill data = { state with
      credits := state.credits.tryConsume data.length, pending := none, phase := .failed failure } := by
  have consumed : state.credits.consumable data.length = data.length := Nat.min_eq_right covered
  have nonempty : data.isEmpty = false := List.isEmpty_eq_false_iff.mpr (List.ne_nil_of_length_pos (by omega))
  obtain ⟨failure, refused⟩ := @packet_error ⟨state.flowId, data⟩ fill large
  refine ⟨failure, ?_⟩
  unfold sendChunk
  simp only [nonempty, consumed, List.take_length, refused, if_true, Bool.false_eq_true, if_false,
    if_neg (show ¬ data.length = 0 by omega)]

/-- A chunk of a byte more than a frame can carry takes its credits and never goes out. -/
theorem large_chunk_lost : ∃ final,
    Transition.run step (start 7) [.put (List.replicate 16377 0), .advance fun _ => 0] = some final ∧ final.Idle ∧
      final.waiting.length ≤ final.credits.available ∧ final.delivered ≠ final.put.flatten := by
  have size : (List.replicate 16377 (0 : UInt8)).length = 16377 := List.length_replicate
  generalize List.replicate 16377 (0 : UInt8) = chunk at size ⊢
  obtain ⟨failure, lost⟩ := @sendChunk_large { start 7 with put := [chunk] } chunk (fun _ => 0)
    (size ▸ by decide) (size ▸ show 16377 ≤ FlowSendCredits.new.available by decide)
  refine ⟨_, congrArg some lost, trivial, Nat.zero_le _, ?_⟩
  have nonempty : chunk ≠ [] := List.ne_nil_of_length_pos (by omega)
  simpa [delivered, start] using nonempty

end FlowSender

end Rvpn.Mux
