import Rvpn.Lib.ChunkReader
import Rvpn.Mux.Encoding

/-! The decoders of `multiplex.rs` against its encoder. -/

namespace Rvpn.Mux

open ChunkReader (Call Unfinished fed pushed)

def payloadLength (data : Bytes) : Nat := ofBigEndian ((data.drop 4).take 2)

/-- A whole frame off the front of a buffer, as `decode_from_buffer` and `decode_next` take it. -/
def splitFrame (buffer : Bytes) : Option (MultiplexedFrame × Bytes) :=
  if buffer.length < 6 then none
  else
    let totalLen := 6 + payloadLength buffer
    if buffer.length < totalLen then none
    else some (⟨ofBigEndian (buffer.take 4), (buffer.take totalLen).drop 6⟩, buffer.drop totalLen)

def decodeFromBuffer (buffer : Bytes) : Option MultiplexedFrame × Bytes :=
  match splitFrame buffer with
  | some (frame, rest) => (some frame, rest)
  | none => (none, buffer)

/-- `decode_from_buffer` so many times, with the frames among the results. -/
def decodeRepeatedly : Nat → Bytes → List MultiplexedFrame × Bytes
  | 0, buffer => ([], buffer)
  | rounds + 1, buffer =>
    let (result, rest) := decodeFromBuffer buffer
    let (frames, final) := decodeRepeatedly rounds rest
    (result.toList ++ frames, final)

structure FrameCodec where
  buffer : Bytes
  deriving DecidableEq

namespace FrameCodec

def new : FrameCodec := ⟨[]⟩

def feed (codec : FrameCodec) (data : Bytes) : FrameCodec := ⟨codec.buffer ++ data⟩

def decodeNext (codec : FrameCodec) : Option MultiplexedFrame × FrameCodec :=
  match splitFrame codec.buffer with
  | some (frame, rest) => (some frame, ⟨rest⟩)
  | none => (none, codec)

/-- The frames that a sequence of calls of `feed` and `decode_next` returns. -/
def run (codec : FrameCodec) : List (Call UInt8) → List MultiplexedFrame × FrameCodec
  | [] => ([], codec)
  | .feed chunk :: calls => (codec.feed chunk).run calls
  | .take :: calls =>
    let (result, next) := codec.decodeNext
    let (frames, final) := next.run calls
    (result.toList ++ frames, final)

end FrameCodec

/-- A frame that the encoder takes: the id is a `u32`, and the payload is not too long. -/
structure EncodableFrame extends MultiplexedFrame where
  id : flowId < 2 ^ 32
  small : payload.length ≤ maxPayloadSize

namespace EncodableFrame

def bytes (frame : EncodableFrame) : Bytes := frameBytes frame.flowId frame.payload

theorem encode_eq (frame : EncodableFrame) : frame.toMultiplexedFrame.encode = .ok frame.bytes :=
  if_neg (Nat.not_lt.mpr frame.small)

theorem length_bytes (frame : EncodableFrame) : frame.bytes.length = 6 + frame.payload.length := length_frameBytes

end EncodableFrame

section decoders

variable {data buffer tail : Bytes} {frames : List EncodableFrame}

theorem parseFramesFrom_succ (pos rounds : Nat) (data : Bytes) : parseFramesFrom pos (rounds + 1) data =
    if data.length < 6 ∨ data.length < 6 + payloadLength data then ([], pos)
    else
      let (frames, consumed) :=
        parseFramesFrom (pos + (6 + payloadLength data)) rounds (data.drop (6 + payloadLength data))
      (⟨ofBigEndian (data.take 4), (data.drop 6).take (payloadLength data)⟩ :: frames, consumed) :=
  rfl

theorem splitFrame_bytes (frame : EncodableFrame) (rest : Bytes) :
    splitFrame (frame.bytes ++ rest) = some (frame.toMultiplexedFrame, rest) := by
  obtain ⟨flow, length, body, onward⟩ := frame_fields rest frame.id frame.small
  have total : (frame.bytes ++ rest).length = 6 + frame.payload.length + rest.length := by
    rw [List.length_append, frame.length_bytes]
  rw [← EncodableFrame.bytes, ← payloadLength] at length
  rw [← EncodableFrame.bytes] at flow body onward
  simp only [splitFrame, length, total, flow, onward, List.drop_take, Nat.add_sub_cancel_left, body]
  rw [if_neg (by omega), if_neg (by omega)]

theorem splitFrame_incomplete (frame : EncodableFrame) (buffer : Bytes) (short : buffer <+: frame.bytes)
    (different : buffer ≠ frame.bytes) : splitFrame buffer = none := by
  obtain ⟨missing, whole⟩ := short
  have some : 0 < missing.length := by
    refine List.length_pos_iff.mpr fun none => different ?_
    rw [← whole, none, List.append_nil]
  have total : buffer.length + missing.length = 6 + frame.payload.length := by
    rw [← frame.length_bytes, ← whole, List.length_append]
  rw [splitFrame]
  split
  · rfl
  · rename_i header
    -- the length can be read already, and it is the frame's
    have length : payloadLength buffer = frame.payload.length := by
      have read := (frame_fields [] frame.id frame.small).2.1
      rw [List.append_nil, ← EncodableFrame.bytes, ← whole, List.drop_append_of_le_length (by omega),
        List.take_append_of_le_length (by rw [List.length_drop]; omega)] at read
      exact read
    rw [length]
    exact if_pos (by omega)

theorem FrameCodec.run_eq (codec : FrameCodec) (calls : List (Call UInt8)) :
    codec.run calls = ((pushed splitFrame codec.buffer calls).1, ⟨(pushed splitFrame codec.buffer calls).2⟩) := by
  induction calls generalizing codec with
  | nil => rfl
  | cons call calls ih =>
    cases call with
    | feed chunk => exact ih _
    | take =>
      cases split : splitFrame codec.buffer with
      | none | some =>
        simp only [FrameCodec.run, FrameCodec.decodeNext, pushed, split, ih]
        rfl

theorem decodeRepeatedly_eq (rounds : Nat) (buffer : Bytes) :
    decodeRepeatedly rounds buffer = pushed splitFrame buffer (List.replicate rounds .take) := by
  induction rounds generalizing buffer with
  | zero => rfl
  | succ rounds ih =>
    cases split : splitFrame buffer with
    | none | some =>
      simp only [decodeRepeatedly, decodeFromBuffer, List.replicate_succ, pushed, split, ih]
      rfl

theorem parseFramesFrom_of_unsplit (pos rounds : Nat) (unsplit : splitFrame data = none) :
    parseFramesFrom pos rounds data = ([], pos) := by
  cases rounds with
  | zero => rfl
  | succ rounds =>
    have stuck : data.length < 6 ∨ data.length < 6 + payloadLength data := by
      by_contra both
      obtain ⟨long, whole⟩ := not_or.mp both
      rw [splitFrame, if_neg long, if_neg whole] at unsplit
      cases unsplit
    rw [parseFramesFrom_succ, if_pos stuck]

theorem parseFramesFrom_bytes (unsplit : splitFrame tail = none) (enough : frames.length ≤ rounds) :
    parseFramesFrom pos rounds (frames.flatMap EncodableFrame.bytes ++ tail) =
      (frames.map (·.toMultiplexedFrame), pos + (frames.flatMap EncodableFrame.bytes).length) := by
  induction frames generalizing pos rounds with
  | nil => exact parseFramesFrom_of_unsplit pos rounds unsplit
  | cons frame frames ih =>
    cases rounds with
    | zero => cases enough
    | succ rounds =>
      rw [List.flatMap_cons, List.append_assoc, EncodableFrame.bytes, parseFramesFrom_frame frame.id frame.small,
        ih (Nat.le_of_succ_le_succ enough), List.length_append, length_frameBytes, List.map_cons, Nat.add_assoc]

theorem length_le_flatMap_bytes (frames : List EncodableFrame) :
    frames.length ≤ (frames.flatMap EncodableFrame.bytes).length := by
  induction frames with
  | nil => exact Nat.le_refl 0
  | cons frame frames ih =>
    rw [List.flatMap_cons, List.length_append, frame.length_bytes, List.length_cons]
    omega

/-- However the bytes of frames that can be encoded, and of the beginning of one more, are fed to a codec in chunks:
once `decode_next` has been called often enough it has returned exactly these frames in order, and the rest is in the
buffer. The other two decoders find the same frames in the whole. -/
theorem decoders_inverse_of_encoder (frames : List EncodableFrame) (tail : Bytes)
    (unfinished : Unfinished EncodableFrame.bytes tail) (calls : List (Call UInt8))
    (cut : fed calls = frames.flatMap EncodableFrame.bytes ++ tail) (count : Nat) (enough : frames.length ≤ count) :
    (∀ frame ∈ frames, frame.toMultiplexedFrame.encode = .ok frame.bytes) ∧
      FrameCodec.new.run (calls ++ List.replicate count .take) = (frames.map (·.toMultiplexedFrame), ⟨tail⟩) ∧
      parseFrames (frames.flatMap EncodableFrame.bytes ++ tail) =
        (frames.map (·.toMultiplexedFrame), (frames.flatMap EncodableFrame.bytes).length) ∧
      decodeRepeatedly count (frames.flatMap EncodableFrame.bytes ++ tail) =
        (frames.map (·.toMultiplexedFrame), tail) := by
  refine ⟨fun frame _ => frame.encode_eq, ?_, ?_, ?_⟩
  · rw [FrameCodec.run_eq]
    have all := ChunkReader.pushed_all splitFrame_bytes splitFrame_incomplete unfinished
      (show FrameCodec.new.buffer ++ fed calls = _ from cut) enough
    rw [all]
  · have unsplit := ChunkReader.parse_of_unfinished splitFrame_incomplete unfinished (List.prefix_refl tail)
    have many : frames.length ≤ (frames.flatMap EncodableFrame.bytes ++ tail).length := by
      rw [List.length_append]
      exact Nat.le_trans (length_le_flatMap_bytes frames) (Nat.le_add_right _ _)
    rw [parseFrames, parseFramesFrom_bytes unsplit many, Nat.zero_add]
  · rw [decodeRepeatedly_eq]
    exact ChunkReader.pushed_takes splitFrame_bytes splitFrame_incomplete unfinished enough

end decoders

namespace CodecSample

def first : EncodableFrame := ⟨⟨7, [1, 2]⟩, by decide, by decide⟩
def second : EncodableFrame := ⟨⟨8, [3]⟩, by decide, by decide⟩
def calls : List (Call UInt8) :=
  [.feed [0, 0, 0], .take, .feed [7, 0, 2, 1, 2], .take, .feed [0, 0, 0, 8, 0, 1, 3, 0, 0]]

end CodecSample

open CodecSample in
theorem frames_decoded_from_pieces :
    FrameCodec.new.run (calls ++ List.replicate 2 .take) = ([⟨7, [1, 2]⟩, ⟨8, [3]⟩], ⟨[0, 0]⟩) :=
  (decoders_inverse_of_encoder [first, second] [0, 0] ⟨first, by decide, by decide⟩ calls (by decide) 2
    (by decide)).2.1

end Rvpn.Mux
