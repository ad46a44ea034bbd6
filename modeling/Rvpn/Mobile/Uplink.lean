import Rvpn.Mux.BatchLink

/-! TUN packets from a phone to the server. -/

namespace Rvpn.Mobile

open Crypto Mux

variable {Secret Private : Type} {P : Primitives Secret Private}

/-- The batch counts payload bytes and the test adds one header. iOS opens its collection window only
if another packet is queued already, Android always. -/
def outgoingPolicy (opens : Bool → Bool) : Batcher.Policy Bytes where
  maxItems := batchMaxFrames
  maxWeight := batchMaxBytes
  weight packet := packet.length
  room packet := 6 + packet.length
  opens
  waits := true

/-- The padding the iOS `encrypt_data_batch` writes by hand, without the cap of `pad_packet`. -/
def iosPadded (fill : Nat → UInt8) (plaintext : Bytes) : Bytes :=
  let targetSize := paddingBlocks plaintext.length * paddingBlockSize
  let maxDataLen := targetSize - 2
  withPadding fill plaintext (maxDataLen - plaintext.length)

def iosEncryptDataBatch (ratchet : DoubleRatchet P) (nonce : Nonce) (fill : Nat → UInt8) (packets : List Bytes) :
    Except BatchError Bytes × DoubleRatchet P :=
  if packets.isEmpty then (.error .emptyBatch, ratchet)
  else
    let padded := iosPadded fill (framesBytes tunDataFlowId packets)
    match ratchet.encryptTo nonce padded [dataPayloadType] [] with
    | (.error cause, _, next) => (.error (.encryption cause), next)
    | (.ok (nonce, header), ciphertext, next) => (.ok (RatchetMessage.toBytes ⟨header, nonce, ciphertext⟩), next)

def encodeFrames : List Bytes → Except FrameTooLarge Bytes
  | [] => .ok []
  | packet :: packets => do
    let frame ← MultiplexedFrame.encode ⟨tunDataFlowId, packet⟩
    let rest ← encodeFrames packets
    return frame ++ rest

def androidEncryptDataBatch (ratchet : DoubleRatchet P) (nonce : Nonce) (fill : Nat → UInt8) (packets : List Bytes) :
    Except BatchError Bytes × DoubleRatchet P :=
  if packets.isEmpty then (.error .emptyBatch, ratchet)
  else
    match encodeFrames packets with
    | .error cause => (.error (.frame cause), ratchet)
    | .ok plaintext => encryptPadded ratchet nonce fill plaintext

/-- The errors of `decrypt_and_parse_frame`. -/
inductive FrameError where
  | deserialize (cause : WireError)
  | unknownPayloadType (aadByte : UInt8)
  | decryption (cause : Crypto.Error)
  | unpad (cause : PaddingError)
  | emptyPlaintext
  | noFrames
  deriving DecidableEq

structure ParsedFrame where
  flowId : FlowId
  payload : Bytes
  aadByte : UInt8
  deriving DecidableEq, Repr

def decryptAndParseFrame (ratchet : DoubleRatchet P) (drawn : Private) (data : Bytes) :
    Except FrameError (List ParsedFrame) × DoubleRatchet P :=
  match RatchetMessage.fromBytes data with
  | .error cause => (.error (.deserialize cause), ratchet)
  | .ok message =>
    let aadByte := message.header.payloadType
    if 0x0C < aadByte then (.error (.unknownPayloadType aadByte), ratchet)
    else
      match ratchet.decrypt drawn message [aadByte] with
      | (.error cause, next) => (.error (.decryption cause), next)
      | (.ok decrypted, next) =>
        match unpadPacket decrypted with
        | .error cause => (.error (.unpad cause), next)
        | .ok plaintext =>
          if plaintext.isEmpty then (.error .emptyPlaintext, next)
          else
            let frames := (parseFrames plaintext).1
            if frames.isEmpty then (.error .noFrames, next)
            else (.ok (frames.map fun frame => ⟨frame.flowId, frame.payload, aadByte⟩), next)

inductive Platform where
  | ios
  | android
  deriving DecidableEq

def Platform.opens : Platform → Bool → Bool
  | .ios, queued => queued
  | .android, _ => true

/-- From a phone's `run_tx` to the server. -/
def uplink (P : Primitives Secret Private) (platform : Platform) : Link P ParsedFrame where
  policy := outgoingPolicy platform.opens
  encryptDataBatch :=
    match platform with
    | .ios => iosEncryptDataBatch
    | .android => androidEncryptDataBatch
  receive ratchet drawn data :=
    match decryptAndParseFrame ratchet drawn data with
    | (.ok frames, next) => (frames, next)
    | (.error _, next) => ([], next)

def dataFrame (packet : Bytes) : ParsedFrame := ⟨tunDataFlowId, packet, dataPayloadType⟩

def UplinkPacket (packet : Bytes) : Prop := 1 ≤ packet.length ∧ packet.length ≤ 14 * 1024

theorem UplinkPacket.payload (sized : UplinkPacket packet) : packet.length ≤ maxPayloadSize :=
  sized.2.trans (by decide)

theorem length_framesBytes_le (allowed : Batcher.Allowed (outgoingPolicy opens) batch)
    (sized : ∀ packet ∈ batch, UplinkPacket packet) :
    (framesBytes tunDataFlowId batch).length ≤ maxPaddedSize - paddingBlockSize - 2 := by
  have items : batch.length ≤ 16 := allowed.items
  have bytes : (batch.map List.length).sum ≤ 14 * 1024 :=
    allowed.weight_le fun packet member => (sized packet member).2
  rw [length_framesBytes]
  unfold maxPaddedSize paddingBlockSize
  omega

/-- Below the cap the hand-written padding is that of `pad_packet`. -/
theorem iosPadded_eq (fill : Nat → UInt8) (nonempty : plaintext ≠ [])
    (fits : plaintext.length ≤ maxPaddedSize - 2) :
    iosPadded fill plaintext = withPadding fill plaintext (paddedSize plaintext.length - 2 - plaintext.length) := by
  rw [paddedSize_eq (by simpa using nonempty) fits]
  rfl

theorem length_iosPadded (fill : Nat → UInt8) (nonempty : plaintext ≠ [])
    (fits : plaintext.length ≤ maxPaddedSize - 2) :
    (iosPadded fill plaintext).length = paddedSize plaintext.length := by
  have cover := paddingBlocks_spec plaintext.length
  rw [iosPadded_eq fill nonempty fits, length_withPadding, paddedSize_eq (by simpa using nonempty) fits]
  omega

theorem encodeFrames_eq (small : ∀ packet ∈ packets, packet.length ≤ maxPayloadSize) :
    encodeFrames packets = .ok (framesBytes tunDataFlowId packets) := by
  induction packets with
  | nil => rfl
  | cons packet packets ih =>
    have fits : ¬ maxPayloadSize < packet.length := Nat.not_lt.mpr (small packet List.mem_cons_self)
    rw [encodeFrames, ih fun other listed => small other (List.mem_cons_of_mem _ listed), framesBytes_cons]
    simp only [MultiplexedFrame.encode, if_neg fits]
    rfl

theorem decryptAndParseFrame_eq (nonempty : batch ≠ [])
    (small : ∀ packet ∈ batch, packet.length ≤ maxPayloadSize) (holds : Holds padded batch)
    (payloadType : message.header.payloadType = dataPayloadType) (size : message.ciphertext.length < 2 ^ 64)
    (opened : receiver.decrypt drawn message [dataPayloadType] = (.ok padded, next)) :
    decryptAndParseFrame receiver drawn message.toBytes = (.ok (batch.map dataFrame), next) := by
  have known : ¬ (0x0C : UInt8) < dataPayloadType := by decide
  have parsed := parseFrames_framesBytes (show tunDataFlowId < 2 ^ 32 by decide) small
  have filled : (framesBytes tunDataFlowId batch).isEmpty = false := by
    simpa using framesBytes_ne_nil tunDataFlowId nonempty
  simp only [decryptAndParseFrame, RatchetMessage.fromBytes_toBytes size, payloadType, if_neg known, opened,
    holds.unpads, filled, parsed]
  simp [nonempty, dataFrame]

theorem uplink_correct (P : Primitives Secret Private) (platform : Platform) :
    (uplink P platform).Correct UplinkPacket dataFrame where
  sensible := ⟨show 1 ≤ batchMaxFrames by decide, fun packet => Nat.le_add_left packet.length 6⟩
  encrypts {sender nonce fill batch} allowed sized := by
    have short := length_framesBytes_le allowed sized
    have fits : (framesBytes tunDataFlowId batch).length ≤ maxPaddedSize - 2 := short.trans (by decide)
    have filled := framesBytes_ne_nil tunDataFlowId allowed.nonempty
    have small : ∀ packet ∈ batch, packet.length ≤ maxPayloadSize := fun packet member =>
      (sized packet member).payload
    refine ⟨_, holds_withPadding fill allowed.nonempty short, ?_⟩
    cases platform with
    | ios =>
      simp only [uplink, iosEncryptDataBatch, List.isEmpty_iff, if_neg allowed.nonempty,
        iosPadded_eq fill filled fits, DoubleRatchet.encryptTo]
      generalize sender.encrypt nonce _ [dataPayloadType] = outcome
      obtain ⟨result, next⟩ := outcome
      cases result <;> rfl
    | android =>
      simp only [uplink, androidEncryptDataBatch, List.isEmpty_iff, if_neg allowed.nonempty, encodeFrames_eq small]
      exact encryptPadded_of_padPacket (padPacket_eq filled fits)
  receives {receiver next drawn message padded batch} nonempty sized holds payloadType size opened := by
    have small : ∀ packet ∈ batch, packet.length ≤ maxPayloadSize := fun packet member =>
      (sized packet member).payload
    have short : message.ciphertext.length < 2 ^ 64 :=
      Nat.lt_of_le_of_lt (ciphertext_le_of_toBytes_le size) (by decide)
    simp only [uplink, decryptAndParseFrame_eq nonempty small holds payloadType short opened]

/-- From ratchets in step, on both platforms: what iOS is about to encrypt is padded to `padded_size` and unpadded
exactly, the server parses the packets in the order they were queued, each as a data frame of flow 1, and all of them
once `run_tx` has drained its queue and the last message has been read. Only a shutdown keeps it from getting there.
-/
theorem uplink_delivers (aead : AeadCorrect P) (sized : AeadSized P) (platform : Platform)
    {client server : DoubleRatchet P} (inStep : InStep client server []) (actions : List (LinkAction Private))
    (final : LinkState P ParsedFrame)
    (reached : Transition.run (uplink P platform).step (Link.start client server) actions = some final)
    (packets : ∀ packet ∈ final.loop.arrived, 1 ≤ packet.length ∧ packet.length ≤ 14 * 1024) :
    (∀ batch last, final.loop.phase = .ready batch last → ∀ fill,
      (iosPadded fill (framesBytes tunDataFlowId batch)).length =
        paddedSize (framesBytes tunDataFlowId batch).length ∧
      unpadPacket (iosPadded fill (framesBytes tunDataFlowId batch)) = .ok (framesBytes tunDataFlowId batch)) ∧
    final.delivered <+: final.loop.arrived.map dataFrame ∧
    (final.loop.Drained → final.transit = [] → final.delivered = final.loop.arrived.map dataFrame) ∧
    ((∀ batch, final.loop.phase ≠ .aborted batch) →
      ∃ more finished, Transition.run (uplink P platform).step final more = some finished ∧
        finished.delivered = final.loop.arrived.map dataFrame) := by
  have correct := uplink_correct P platform
  obtain ⟨flights, coupled⟩ := Link.sound_of_run correct aead sized inStep reached packets
  refine ⟨fun batch last ready fill => ?_, coupled.delivered_in_order, coupled.delivered_eq, fun live => ?_⟩
  · obtain ⟨allowed, listed⟩ := coupled.ready ready
    have short := length_framesBytes_le allowed fun packet member => packets packet (listed member)
    have fits : (framesBytes tunDataFlowId batch).length ≤ maxPaddedSize - 2 := short.trans (by decide)
    have filled := framesBytes_ne_nil tunDataFlowId allowed.nonempty
    refine ⟨length_iosPadded fill filled fits, ?_⟩
    rw [iosPadded_eq fill filled fits]
    exact (holds_withPadding fill allowed.nonempty short).unpads
  · exact Link.exists_delivered correct aead sized coupled packets live

namespace UplinkSample

def client : DoubleRatchet PlainCipher.primitives := .initAlice (Symbolic.keyOf 2) [7] (Symbolic.keyOf 3)
def server : DoubleRatchet PlainCipher.primitives := .initBob (Symbolic.keyOf 1) [7]

/-- The second packet is queued in time for the collection window, the third after the deadline. -/
def schedule : List (LinkAction (Vector UInt8 32)) :=
  [.loop (.arrive [69, 0, 1]), .loop (.arrive [69, 0, 2, 2]), .loop .first, .loop .next, .loop .deadline,
    .send (Symbolic.nonceOf 4) (fun _ => 0), .loop (.arrive [69]), .receive (Symbolic.keyOf 5), .loop .first,
    .send (Symbolic.nonceOf 6) (fun _ => 1), .receive (Symbolic.keyOf 5)]

end UplinkSample

open UplinkSample in
theorem three_packets_parsed :
    ∃ final, Transition.run (uplink PlainCipher.primitives .ios).step (Link.start client server) schedule =
        some final ∧
      final.sent.length = 2 ∧ final.delivered = [[69, 0, 1], [69, 0, 2, 2], [69]].map dataFrame := by
  refine Transition.exists_of_evaluated (p := fun final => final.loop.arrived = [[69, 0, 1], [69, 0, 2, 2], [69]] ∧
    final.sent.length = 2 ∧ final.loop.Drained ∧ final.transit = []) (by decide +kernel) ?_
  rintro final reached ⟨arrived, count, drained, landed⟩
  have delivered := (uplink_delivers PlainCipher.correct PlainCipher.sized .ios (.ofAlice ..) schedule final reached
    (by rw [arrived]; decide)).2.2.1 drained landed
  exact ⟨count, by rw [delivered, arrived]⟩

end Rvpn.Mobile
