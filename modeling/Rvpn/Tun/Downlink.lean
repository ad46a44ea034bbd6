import Rvpn.Mux.BatchLink

/-! TUN packets from the server to a phone. -/

namespace Rvpn.Tun

open Crypto Mux

variable {Secret Private : Type} {P : Primitives Secret Private}

def responsePolicy : Batcher.Policy Bytes where
  maxItems := batchMaxFrames
  maxWeight := batchMaxBytes
  weight packet := 6 + packet.length
  room packet := 6 + packet.length
  opens _ := true
  waits := false

def appendTunFrame (buf packet : Bytes) : Bytes := buf ++ frameBytes tunDataFlowId packet

/-- The plaintext buffer of `run_tun_response_loop` once it holds the batch. -/
def responsePlaintext (batch : List Bytes) : Bytes := batch.foldl appendTunFrame []

/-- `encrypt_data_batch` of the server. -/
def encryptDataBatch (ratchet : DoubleRatchet P) (nonce : Nonce) (fill : Nat → UInt8) (plaintext : Bytes) :
    Except BatchError Bytes × DoubleRatchet P :=
  encryptPadded ratchet nonce fill plaintext

/-- The default session hands packets on; another one rewrites their destination once it knows the primary tunnel
address, and drops them before. -/
inductive Exit where
  | default
  | secondary (rewrite : Option (Bytes → Bytes))

def Exit.deliver : Exit → Bytes → Option Bytes
  | .default, packet => some packet
  | .secondary rewrite, packet => rewrite.map (· packet)

/-- The loop of the iOS `run_rx` over the unpadded plaintext, with the buffer and whether it holds
data. A frame takes at least six bytes. -/
def rxLoop (exit : Exit) : Nat → Bytes → Bytes → Bool → Bytes × Bool
  | 0, _, batchBuf, hasData => (batchBuf, hasData)
  | rounds + 1, unpadded, batchBuf, hasData =>
    if unpadded.length < 6 then (batchBuf, hasData)
    else
      let flowId := ofBigEndian (unpadded.take 4)
      let payloadLen := ofBigEndian ((unpadded.drop 4).take 2)
      let rest := unpadded.drop (6 + payloadLen)
      if unpadded.length < 6 + payloadLen then (batchBuf, hasData)
      else if flowId = 0 then rxLoop exit rounds rest batchBuf hasData
      else
        match exit.deliver ((unpadded.drop 6).take payloadLen) with
        | some packet => rxLoop exit rounds rest (batchBuf ++ (LittleEndian.encode 2 payloadLen ++ packet)) true
        | none => rxLoop exit rounds rest batchBuf hasData

/-- What `run_rx` does with a binary frame: the buffer sent to Swift, if any. -/
def runRx (exit : Exit) (ratchet : DoubleRatchet P) (drawn : Private) (frame : Bytes) :
    Option Bytes × DoubleRatchet P :=
  match RatchetMessage.fromBytesRef frame with
  | .error _ => (none, ratchet)
  | .ok message =>
    match ratchet.decryptToRef drawn message [dataPayloadType] [] with
    | (.error _, _, next) => (none, next)
    | (.ok len, plaintext, next) =>
      match unpadPacket (plaintext.take len) with
      | .error _ => (none, next)
      | .ok unpadded =>
        let (batchBuf, hasData) := rxLoop exit unpadded.length unpadded [] false
        (if hasData then some batchBuf else none, next)

/-- The packets in a buffer of length-prefixed packets, as `rvpn_tun_write_packet_batch` reads
them: an empty packet or a truncated one ends it. -/
def packetBatch : Nat → Bytes → List Bytes
  | 0, _ => []
  | rounds + 1, buf =>
    let pktLen := LittleEndian.decode (buf.take 2)
    if buf.length < 2 ∨ buf.length < 2 + pktLen ∨ pktLen = 0 then []
    else (buf.drop 2).take pktLen :: packetBatch rounds (buf.drop (2 + pktLen))

/-- What the Android `run_rx` hands on, with `parse_frames`. -/
def runRxAndroid (exit : Exit) (ratchet : DoubleRatchet P) (drawn : Private) (frame : Bytes) :
    List Bytes × DoubleRatchet P :=
  match RatchetMessage.fromBytes frame with
  | .error _ => ([], ratchet)
  | .ok message =>
    match ratchet.decrypt drawn message [dataPayloadType] with
    | (.error _, next) => ([], next)
    | (.ok decrypted, next) =>
      match unpadPacket decrypted with
      | .error _ => ([], next)
      | .ok unpadded =>
        (((parseFrames unpadded).1.filter (·.flowId ≠ 0)).filterMap (exit.deliver ·.payload), next)

inductive Phone where
  | ios
  | android
  deriving DecidableEq

def downlink (P : Primitives Secret Private) (phone : Phone) : Link P Bytes where
  policy := responsePolicy
  encryptDataBatch ratchet nonce fill batch := encryptDataBatch ratchet nonce fill (responsePlaintext batch)
  receive ratchet drawn frame :=
    match phone with
    | .ios =>
      let (buffer, next) := runRx .default ratchet drawn frame
      (buffer.elim [] fun buf => packetBatch buf.length buf, next)
    | .android => runRxAndroid .default ratchet drawn frame

theorem responsePlaintext_eq (batch : List Bytes) : responsePlaintext batch = framesBytes tunDataFlowId batch := by
  have loop : ∀ buf, batch.foldl appendTunFrame buf = buf ++ framesBytes tunDataFlowId batch := by
    induction batch with
    | nil => simp [framesBytes]
    | cons packet batch ih =>
      intro buf
      rw [List.foldl_cons, ih, framesBytes_cons, appendTunFrame, List.append_assoc]
  exact loop []

def TunPacket (packet : Bytes) : Prop := 1 ≤ packet.length ∧ packet.length ≤ 1520

section framing

variable {batch : List Bytes}

theorem rxLoop_frame (small : packet.length ≤ maxPayloadSize) :
    rxLoop .default (rounds + 1) (frameBytes tunDataFlowId packet ++ rest) buf hasData =
      rxLoop .default rounds rest (buf ++ (LittleEndian.encode 2 packet.length ++ packet)) true := by
  obtain ⟨flow, length, body, onward⟩ :=
    frame_fields rest (show tunDataFlowId < 2 ^ 32 by decide) small
  have long : ¬ (frameBytes tunDataFlowId packet ++ rest).length < 6 := by
    simp only [List.length_append, length_frameBytes]
    omega
  have whole : ¬ (frameBytes tunDataFlowId packet ++ rest).length < 6 + packet.length := by
    simp only [List.length_append, length_frameBytes]
    omega
  have data : ¬ tunDataFlowId = 0 := by decide
  simp only [rxLoop, if_neg long, flow, length, if_neg whole, if_neg data, Exit.deliver, body, onward]

def prefixed (packets : List Bytes) : Bytes :=
  packets.flatMap fun packet => LittleEndian.encode 2 packet.length ++ packet

theorem rxLoop_framesBytes (small : ∀ packet ∈ batch, packet.length ≤ maxPayloadSize)
    (enough : batch.length ≤ rounds) (buf : Bytes) (hasData : Bool) :
    rxLoop .default rounds (framesBytes tunDataFlowId batch) buf hasData =
      (buf ++ prefixed batch, hasData || !batch.isEmpty) := by
  induction batch generalizing rounds buf hasData with
  | nil => cases rounds <;> simp [framesBytes, rxLoop, prefixed]
  | cons packet batch ih =>
    cases rounds with
    | zero => cases enough
    | succ rounds =>
      rw [framesBytes_cons, rxLoop_frame (small packet List.mem_cons_self),
        ih (fun other listed => small other (List.mem_cons_of_mem _ listed)) (Nat.le_of_succ_le_succ enough)]
      simp [prefixed]

theorem length_le_prefixed (packets : List Bytes) : packets.length ≤ (prefixed packets).length := by
  induction packets with
  | nil => exact Nat.zero_le _
  | cons packet packets ih =>
    simp only [prefixed, List.flatMap_cons, List.length_append, List.length_cons, LittleEndian.length_encode] at *
    omega

theorem packetBatch_prefixed (small : ∀ packet ∈ batch, packet.length ≤ maxPayloadSize)
    (nonempty : ∀ packet ∈ batch, 1 ≤ packet.length) (enough : batch.length ≤ rounds) :
    packetBatch rounds (prefixed batch) = batch := by
  induction batch generalizing rounds with
  | nil => cases rounds <;> simp [packetBatch, prefixed]
  | cons packet batch ih =>
    cases rounds with
    | zero => cases enough
    | succ rounds =>
      have shape : prefixed (packet :: batch) =
          LittleEndian.encode 2 packet.length ++ (packet ++ prefixed batch) := by simp [prefixed]
      have fits := small packet List.mem_cons_self
      have positive := nonempty packet List.mem_cons_self
      have length : LittleEndian.decode ((prefixed (packet :: batch)).take 2) = packet.length := by
        rw [shape, List.take_left' (LittleEndian.length_encode 2 packet.length)]
        exact LittleEndian.decode_encode (Nat.lt_succ_of_le fits)
      have after : (prefixed (packet :: batch)).drop 2 = packet ++ prefixed batch := by
        rw [shape]
        exact List.drop_left' (LittleEndian.length_encode 2 packet.length)
      have whole : ¬ ((prefixed (packet :: batch)).length < 2 ∨
          (prefixed (packet :: batch)).length < 2 + packet.length ∨ packet.length = 0) := by
        simp only [shape, List.length_append, LittleEndian.length_encode]
        omega
      simp only [packetBatch, length, if_neg whole, after, ← List.drop_drop, List.take_left, List.drop_left]
      rw [ih (fun other listed => small other (List.mem_cons_of_mem _ listed))
        (fun other listed => nonempty other (List.mem_cons_of_mem _ listed)) (Nat.le_of_succ_le_succ enough)]

end framing

theorem TunPacket.payload (sized : TunPacket packet) : packet.length ≤ maxPayloadSize :=
  sized.2.trans (by decide)

theorem weight_responsePolicy (batch : List Bytes) :
    (batch.map responsePolicy.weight).sum = (framesBytes tunDataFlowId batch).length := by
  rw [length_framesBytes]
  induction batch with
  | nil => rfl
  | cons packet batch ih =>
    have first : responsePolicy.weight packet = 6 + packet.length := rfl
    rw [List.map_cons, List.sum_cons, List.map_cons, List.sum_cons, List.length_cons, ih, first]
    omega

theorem length_responsePlaintext_le (allowed : Batcher.Allowed responsePolicy batch)
    (sized : ∀ packet ∈ batch, TunPacket packet) : (responsePlaintext batch).length ≤ batchMaxBytes := by
  rw [responsePlaintext_eq, ← weight_responsePolicy]
  refine allowed.weight_le fun packet member => ?_
  have := (sized packet member).2
  simp only [responsePolicy, batchMaxBytes]
  omega

theorem padPacket_responsePlaintext (allowed : Batcher.Allowed responsePolicy batch)
    (sized : ∀ packet ∈ batch, TunPacket packet) (fill : Nat → UInt8) :
    ∃ padded, padPacket fill (responsePlaintext batch) = .ok padded ∧ Holds padded batch := by
  have short := length_responsePlaintext_le allowed sized
  rw [responsePlaintext_eq] at short ⊢
  exact ⟨_, padPacket_eq (framesBytes_ne_nil tunDataFlowId allowed.nonempty) (short.trans (by decide)),
    holds_withPadding fill allowed.nonempty (short.trans (by decide))⟩

theorem runRx_eq (nonempty : batch ≠ []) (small : ∀ packet ∈ batch, packet.length ≤ maxPayloadSize)
    (holds : Holds padded batch) (size : message.toBytes.length ≤ receiveBufferSize)
    (opened : receiver.decrypt drawn message [dataPayloadType] = (.ok padded, next)) :
    runRx .default receiver drawn message.toBytes = (some (prefixed batch), next) := by
  obtain ⟨leftover, same⟩ := receiver.decryptToRef_eq drawn message [dataPayloadType] []
  rw [opened] at same
  have read := RatchetMessage.fromBytesRef_toBytes (lt_of_le_of_lt size (by decide))
  simp only [runRx, read, same, List.take_length, holds.unpads,
    rxLoop_framesBytes small (length_le_framesBytes tunDataFlowId batch)]
  cases batch with
  | nil => exact absurd rfl nonempty
  | cons packet rest => simp

theorem runRxAndroid_eq (small : ∀ packet ∈ batch, packet.length ≤ maxPayloadSize) (holds : Holds padded batch)
    (size : message.ciphertext.length < 2 ^ 64)
    (opened : receiver.decrypt drawn message [dataPayloadType] = (.ok padded, next)) :
    runRxAndroid .default receiver drawn message.toBytes = (batch, next) := by
  have parsed := parseFrames_framesBytes (show tunDataFlowId < 2 ^ 32 by decide) small
  have data : (batch.map (⟨tunDataFlowId, ·⟩ : Bytes → MultiplexedFrame)).filter (·.flowId ≠ 0) =
      batch.map (⟨tunDataFlowId, ·⟩) := by
    simp [List.filter_eq_self, tunDataFlowId]
  simp only [runRxAndroid, RatchetMessage.fromBytes_toBytes size, opened, holds.unpads, parsed, data]
  simp [Exit.deliver, List.filterMap_map]

theorem downlink_correct (P : Primitives Secret Private) (phone : Phone) :
    (downlink P phone).Correct TunPacket id where
  sensible := ⟨show 1 ≤ batchMaxFrames by decide, fun _ => Nat.le_refl _⟩
  encrypts {sender nonce fill batch} allowed sized := by
    obtain ⟨padded, fits, holds⟩ := padPacket_responsePlaintext allowed sized fill
    exact ⟨padded, holds, encryptPadded_of_padPacket fits⟩
  receives {receiver next drawn message padded batch} nonempty sized holds payloadType size opened := by
    have small : ∀ packet ∈ batch, packet.length ≤ maxPayloadSize := fun packet member =>
      (sized packet member).payload
    cases phone with
    | ios =>
      have filled : ∀ packet ∈ batch, 1 ≤ packet.length := fun packet member => (sized packet member).1
      simp only [downlink, runRx_eq nonempty small holds size opened, Option.elim,
        packetBatch_prefixed small filled (length_le_prefixed batch), List.map_id]
    | android =>
      have short : message.ciphertext.length < 2 ^ 64 :=
        Nat.lt_of_le_of_lt (ciphertext_le_of_toBytes_le size) (by decide)
      simp only [downlink, runRxAndroid_eq small holds short opened, List.map_id]

/-- From ratchets in step: what the loop is about to encrypt fits `pad_packet`, no message exceeds the receive buffer,
and the packets come out in the order they went in, all of them as soon as the loop has drained its queue and the last
message has been read. -/
theorem downlink_delivers (aead : AeadCorrect P) (sized : AeadSized P) (phone : Phone)
    {server client : DoubleRatchet P} (inStep : InStep server client []) (actions : List (LinkAction Private))
    (final : LinkState P Bytes)
    (reached : Transition.run (downlink P phone).step (Link.start server client) actions = some final)
    (packets : ∀ packet ∈ final.loop.arrived, 1 ≤ packet.length ∧ packet.length ≤ 1520) :
    (∀ batch last, final.loop.phase = .ready batch last →
      ∀ fill, ∃ padded, padPacket fill (responsePlaintext batch) = .ok padded) ∧
    (∀ message ∈ final.sent, message.length ≤ 16384) ∧
    final.delivered <+: final.loop.arrived ∧
    (final.loop.Drained → final.transit = [] → final.delivered = final.loop.arrived) ∧
    ∃ more finished, Transition.run (downlink P phone).step final more = some finished ∧
      finished.delivered = final.loop.arrived := by
  have correct := downlink_correct P phone
  obtain ⟨flights, coupled⟩ := Link.sound_of_run correct aead sized inStep reached packets
  refine ⟨fun batch last ready fill => ?_, coupled.sizes, ?_, fun drained landed => ?_, ?_⟩
  · obtain ⟨allowed, listed⟩ := coupled.ready ready
    obtain ⟨padded, fits, -⟩ :=
      padPacket_responsePlaintext allowed (fun packet member => packets packet (listed member)) fill
    exact ⟨padded, fits⟩
  · simpa using coupled.delivered_in_order
  · simpa using coupled.delivered_eq drained landed
  · obtain ⟨more, finished, onward, delivered⟩ :=
      Link.exists_delivered correct aead sized coupled packets (coupled.unstopped rfl)
    exact ⟨more, finished, onward, by simpa using delivered⟩

namespace DownlinkSample

def server : DoubleRatchet PlainCipher.primitives := .initBob (Symbolic.keyOf 1) [7]
def client : DoubleRatchet PlainCipher.primitives := .initAlice (Symbolic.keyOf 2) [7] (Symbolic.keyOf 3)

/-- Two packets are queued before the loop looks, a third comes while their message is on its way. -/
def schedule : List (LinkAction (Vector UInt8 32)) :=
  [.loop (.arrive [69, 0, 1]), .loop (.arrive [69, 0, 2, 2]), .loop .first, .loop .next, .loop .next,
    .send (Symbolic.nonceOf 4) (fun _ => 0), .loop (.arrive [69]), .receive (Symbolic.keyOf 5), .loop .first,
    .loop .next, .send (Symbolic.nonceOf 6) (fun _ => 1), .receive (Symbolic.keyOf 5)]

end DownlinkSample

open DownlinkSample in
theorem three_packets_delivered :
    ∃ final, Transition.run (downlink PlainCipher.primitives .ios).step (Link.start server client) schedule =
        some final ∧
      final.sent.length = 2 ∧ final.delivered = [[69, 0, 1], [69, 0, 2, 2], [69]] := by
  refine Transition.exists_of_evaluated (p := fun final => final.loop.arrived = [[69, 0, 1], [69, 0, 2, 2], [69]] ∧
    final.sent.length = 2 ∧ final.loop.Drained ∧ final.transit = []) (by decide +kernel) ?_
  rintro final reached ⟨arrived, count, drained, landed⟩
  have delivered := (downlink_delivers PlainCipher.correct PlainCipher.sized .ios (.ofBob ..) schedule final reached
    (by rw [arrived]; decide)).2.2.2.1 drained landed
  exact ⟨count, delivered.trans arrived⟩

end Rvpn.Tun
