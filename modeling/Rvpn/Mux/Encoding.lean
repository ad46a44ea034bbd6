import Rvpn.Lib.BigEndian
import Rvpn.Mux.Framing
import Mathlib.Algebra.GroupWithZero.Nat

/-! What goes under a ratchet message and back: frames one after another, and the padding up to
a multiple of 1024 bytes. -/

namespace Rvpn.Mux

def paddingBlockSize : Nat := 1024
def maxPaddedSize : Nat := 16 * 1024
/-- `MAX_PAYLOAD_SIZE`, what the two bytes of the length can say. -/
def maxPayloadSize : Nat := 65535

/-- `PaddingError::DataTooLarge`. -/
structure DataTooLarge where
  dataLen : Nat
  maxLen : Nat
  deriving DecidableEq, Repr

/-- `MultiplexError::FrameTooLarge`. -/
structure FrameTooLarge where
  size : Nat
  max : Nat
  deriving DecidableEq, Repr

/-- `fill_bytes` on so many bytes. -/
def fillBytes (fill : Nat → UInt8) (count : Nat) : Bytes := (List.range count).map fill

@[simp] theorem length_fillBytes (fill : Nat → UInt8) (count : Nat) : (fillBytes fill count).length = count := by
  simp [fillBytes]

def paddingBlocks (dataLen : Nat) : Nat := (dataLen + 2 + (paddingBlockSize - 1)) / paddingBlockSize

def paddedSize (dataLen : Nat) : Nat :=
  if dataLen = 0 then paddingBlockSize
  else min (paddingBlocks dataLen * paddingBlockSize) maxPaddedSize

/-- Data, random padding and the padding's length, as `pad_packet` and its callers lay them out. -/
def withPadding (fill : Nat → UInt8) (data : Bytes) (paddingLen : Nat) : Bytes :=
  data ++ (fillBytes fill paddingLen ++ BigEndian.encode 2 paddingLen)

def padPacket (fill : Nat → UInt8) (data : Bytes) : Except DataTooLarge Bytes :=
  if data.isEmpty then
    .ok (List.replicate (paddingBlockSize - 2) 0 ++ BigEndian.encode 2 (paddingBlockSize - 2))
  else
    let targetSize := min (paddingBlocks data.length * paddingBlockSize) maxPaddedSize
    let maxDataLen := targetSize - 2
    if maxDataLen < data.length then .error ⟨data.length, maxDataLen⟩
    else .ok (withPadding fill data (maxDataLen - data.length))

/-- Flow id, length and payload; `as u16` cuts the length to two bytes. -/
def frameBytes (flowId : FlowId) (payload : Bytes) : Bytes :=
  BigEndian.encode 4 flowId ++ (BigEndian.encode 2 payload.length ++ payload)

/-- What `MultiplexedFrame::encode_to` appends. -/
def MultiplexedFrame.encode (frame : MultiplexedFrame) : Except FrameTooLarge Bytes :=
  if maxPayloadSize < frame.payload.length then .error ⟨frame.payload.length, maxPayloadSize⟩
  else .ok (frameBytes frame.flowId frame.payload)

section padding

variable {fill : Nat → UInt8} {data : Bytes} {paddingLen : Nat}

@[simp] theorem length_withPadding : (withPadding fill data paddingLen).length = data.length + paddingLen + 2 := by
  simp [withPadding, Nat.add_assoc]

theorem unpadPacket_withPadding (small : paddingLen < 65536) :
    unpadPacket (withPadding fill data paddingLen) = .ok data := by
  have sized : (withPadding fill data paddingLen).length = data.length + paddingLen + 2 := length_withPadding
  have tail : (withPadding fill data paddingLen).drop (data.length + paddingLen) = BigEndian.encode 2 paddingLen := by
    rw [withPadding, ← List.append_assoc]
    exact List.drop_left' (by simp)
  have length : ofBigEndian (BigEndian.encode 2 paddingLen) = paddingLen := BigEndian.decode_encode (show paddingLen < 256 ^ 2 from small)
  have front : (withPadding fill data paddingLen).take data.length = data := List.take_left
  simp only [unpadPacket, sized, Nat.add_sub_cancel, tail, length, front]
  rw [if_neg (by omega), if_neg (by omega)]

theorem paddingBlocks_spec (dataLen : Nat) :
    dataLen + 2 ≤ paddingBlocks dataLen * paddingBlockSize ∧
      paddingBlocks dataLen * paddingBlockSize < dataLen + 2 + paddingBlockSize := by
  unfold paddingBlocks paddingBlockSize
  omega

theorem paddedSize_eq (nonempty : dataLen ≠ 0) (fits : dataLen ≤ maxPaddedSize - 2) :
    paddedSize dataLen = paddingBlocks dataLen * paddingBlockSize := by
  rw [paddedSize, if_neg nonempty]
  unfold maxPaddedSize paddingBlocks paddingBlockSize at *
  omega

theorem padPacket_eq (nonempty : data ≠ []) (fits : data.length ≤ maxPaddedSize - 2) :
    padPacket fill data = .ok (withPadding fill data (paddedSize data.length - 2 - data.length)) := by
  have positive : data.length ≠ 0 := by simpa using nonempty
  have size := paddedSize_eq positive fits
  have cover := paddingBlocks_spec data.length
  have target : min (paddingBlocks data.length * paddingBlockSize) maxPaddedSize = paddedSize data.length := by
    rw [paddedSize, if_neg positive]
  have enough : ¬ paddedSize data.length - 2 < data.length := by omega
  simp only [padPacket, List.isEmpty_iff, if_neg nonempty, target, if_neg enough]

end padding

section frames

variable {flowId : FlowId} {payload rest : Bytes}

@[simp] theorem length_frameBytes : (frameBytes flowId payload).length = 6 + payload.length := by
  simp [frameBytes]
  omega

theorem frame_fields (rest : Bytes) (id : flowId < 2 ^ 32) (small : payload.length ≤ maxPayloadSize) :
    ofBigEndian ((frameBytes flowId payload ++ rest).take 4) = flowId ∧
      ofBigEndian (((frameBytes flowId payload ++ rest).drop 4).take 2) = payload.length ∧
      ((frameBytes flowId payload ++ rest).drop 6).take payload.length = payload ∧
      (frameBytes flowId payload ++ rest).drop (6 + payload.length) = rest := by
  have shape : frameBytes flowId payload ++ rest =
      BigEndian.encode 4 flowId ++ (BigEndian.encode 2 payload.length ++ (payload ++ rest)) := by
    simp [frameBytes]
  have afterId : (frameBytes flowId payload ++ rest).drop 4 =
      BigEndian.encode 2 payload.length ++ (payload ++ rest) := by
    rw [shape]
    exact List.drop_left' (BigEndian.length_encode 4 flowId)
  refine ⟨?_, ?_, ?_, List.drop_left' length_frameBytes⟩
  · rw [shape, List.take_left' (BigEndian.length_encode 4 flowId)]
    exact BigEndian.decode_encode id
  · rw [afterId, List.take_left' (BigEndian.length_encode 2 payload.length)]
    exact BigEndian.decode_encode (Nat.lt_succ_of_le small)
  · rw [show 6 = 4 + 2 from rfl, ← List.drop_drop, afterId,
      List.drop_left' (BigEndian.length_encode 2 payload.length), List.take_left]

theorem parseFramesFrom_frame (id : flowId < 2 ^ 32) (small : payload.length ≤ maxPayloadSize) :
    parseFramesFrom pos (rounds + 1) (frameBytes flowId payload ++ rest) =
      (⟨flowId, payload⟩ :: (parseFramesFrom (pos + (6 + payload.length)) rounds rest).1,
        (parseFramesFrom (pos + (6 + payload.length)) rounds rest).2) := by
  obtain ⟨flow, length, body, onward⟩ := frame_fields rest id small
  have long : ¬ ((frameBytes flowId payload ++ rest).length < 6 ∨
      (frameBytes flowId payload ++ rest).length < 6 + payload.length) := by
    simp only [List.length_append, length_frameBytes]
    omega
  simp only [parseFramesFrom, flow, length, body, onward, if_neg long]

def framesBytes (flowId : FlowId) (payloads : List Bytes) : Bytes := payloads.flatMap (frameBytes flowId)

theorem framesBytes_cons (flowId : FlowId) (payload : Bytes) (payloads : List Bytes) :
    framesBytes flowId (payload :: payloads) = frameBytes flowId payload ++ framesBytes flowId payloads :=
  List.flatMap_cons

theorem length_framesBytes (flowId : FlowId) (payloads : List Bytes) :
    (framesBytes flowId payloads).length = 6 * payloads.length + (payloads.map List.length).sum := by
  induction payloads with
  | nil => rfl
  | cons payload payloads ih =>
    rw [framesBytes_cons, List.length_append, length_frameBytes, ih, List.map_cons, List.sum_cons, List.length_cons]
    omega

theorem length_le_framesBytes (flowId : FlowId) (payloads : List Bytes) :
    payloads.length ≤ (framesBytes flowId payloads).length := by
  rw [length_framesBytes]
  omega

theorem framesBytes_ne_nil (flowId : FlowId) {payloads : List Bytes} (nonempty : payloads ≠ []) :
    framesBytes flowId payloads ≠ [] := by
  rw [← List.length_pos_iff] at nonempty ⊢
  exact Nat.lt_of_lt_of_le nonempty (length_le_framesBytes flowId payloads)

theorem parseFramesFrom_framesBytes {payloads : List Bytes} {pos rounds : Nat} (id : flowId < 2 ^ 32)
    (small : ∀ payload ∈ payloads, payload.length ≤ maxPayloadSize) (enough : payloads.length ≤ rounds) :
    parseFramesFrom pos rounds (framesBytes flowId payloads) =
      (payloads.map (⟨flowId, ·⟩), pos + (framesBytes flowId payloads).length) := by
  induction payloads generalizing pos rounds with
  | nil => cases rounds <;> simp [framesBytes, parseFramesFrom]
  | cons payload payloads ih =>
    cases rounds with
    | zero => cases enough
    | succ rounds =>
      rw [framesBytes_cons, parseFramesFrom_frame id (small payload List.mem_cons_self),
        ih (fun other listed => small other (List.mem_cons_of_mem _ listed)) (Nat.le_of_succ_le_succ enough)]
      simp [Nat.add_assoc]

theorem parseFrames_framesBytes {payloads : List Bytes} (id : flowId < 2 ^ 32)
    (small : ∀ payload ∈ payloads, payload.length ≤ maxPayloadSize) :
    parseFrames (framesBytes flowId payloads) =
      (payloads.map (⟨flowId, ·⟩), (framesBytes flowId payloads).length) := by
  rw [parseFrames, parseFramesFrom_framesBytes id small (length_le_framesBytes flowId payloads), Nat.zero_add]

end frames

end Rvpn.Mux
