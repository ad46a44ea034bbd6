import Rvpn.Crypto.Primitives
import Rvpn.Lib.BigEndian
import Rvpn.Lib.ChunkReader

/-! `MinimalWsReader` of the iOS client: it reads from the stream before it looks at its buffer. -/

namespace Rvpn.Mobile

inductive FrameType where
  | binary | ping | pong | close
  deriving DecidableEq, Repr

inductive WsError where
  | closed | masked | tooLong (payloadLen outLen : Nat) | unsupported (opcode : UInt8)
  deriving DecidableEq, Repr

def hexByte (byte : UInt8) : String :=
  let digits := (Nat.toDigits 16 byte.toNat).map Char.toUpper
  String.ofList (List.replicate (2 - digits.length) '0' ++ digits)

def WsError.message : WsError → String
  | .closed => "Connection closed (EOF)"
  | .masked => "Server sent masked frame (protocol violation)"
  | .tooLong payloadLen outLen =>
    s!"Frame payload ({payloadLen} bytes) exceeds output buffer ({outLen} bytes)"
  | .unsupported opcode => s!"Unsupported WebSocket opcode: 0x{hexByte opcode}"

/-- The lengths of the payload and of the header, once the header is there; `len` is the
second byte without the mask bit. -/
def headerOf (len : UInt8) (buffer : Bytes) : Option (Nat × Nat) :=
  if len ≤ 125 then some (len.toNat, 2)
  else if len = 126 then
    if buffer.length < 4 then none else some (BigEndian.decode ((buffer.drop 2).take 2), 4)
  else if buffer.length < 10 then none
  else some (BigEndian.decode ((buffer.drop 2).take 8), 10)

/-- The frame type and what is written to `out`: nothing for a close or a pong. -/
def frameOf (opcode : UInt8) (payload : Bytes) : Except WsError (FrameType × Bytes) :=
  if opcode = 0x02 then .ok (.binary, payload)
  else if opcode = 0x09 then .ok (.ping, payload)
  else if opcode = 0x08 then .ok (.close, [])
  else if opcode = 0x0A then .ok (.pong, [])
  else .error (.unsupported opcode)

/-- One round of the loop in `next_frame` after the read: `none` is `continue`; otherwise the
result with the buffer it leaves. -/
def parseBuffer (outLen : Nat) (buffer : Bytes) : Option (Except WsError (FrameType × Bytes) × Bytes) :=
  match buffer with
  | first :: second :: _ =>
    if second &&& 0x80 ≠ 0 then some (.error .masked, buffer)
    else match headerOf (second &&& 0x7F) buffer with
      | none => none
      | some (payloadLen, hdrLen) =>
        let frameEnd := (hdrLen + payloadLen) % 2 ^ 64
        if buffer.length < frameEnd then none
        else if outLen < payloadLen then some (.error (.tooLong payloadLen outLen), buffer)
        else
          match frameOf (first &&& 0x0F) ((buffer.drop hdrLen).take payloadLen) with
          | .ok frame => some (.ok frame, buffer.drop frameEnd)
          | .error failure => some (.error failure, buffer)
  | _ => none

/-- `next_frame` on a stream that delivers these reads and then ends. -/
def nextFrame (outLen : Nat) (buffer : Bytes) :
    List Bytes → Except WsError (FrameType × Bytes) × Bytes × List Bytes
  | [] => (.error .closed, buffer, [])
  | read :: rest =>
    if read = [] then (.error .closed, buffer, rest)
    else match parseBuffer outLen (buffer ++ read) with
      | some (result, left) => (result, left, rest)
      | none => nextFrame outLen (buffer ++ read) rest

def nextFrames (outLen : Nat) : Nat → Bytes → List Bytes → List (Except WsError (FrameType × Bytes))
  | 0, _, _ => []
  | count + 1, buffer, reads =>
    let (result, left, rest) := nextFrame outLen buffer reads
    result :: nextFrames outLen count left rest

/-- An unmasked, unfragmented frame that fits into the output buffer. -/
structure ServerFrame (outLen : Nat) where
  type : FrameType
  payload : Bytes
  fits : payload.length ≤ outLen

def FrameType.opcode : FrameType → UInt8
  | .binary => 0x02
  | .close => 0x08
  | .ping => 0x09
  | .pong => 0x0A

def lengthField (n : Nat) : Bytes :=
  if n ≤ 125 then [UInt8.ofNat n]
  else if n ≤ 65535 then 126 :: BigEndian.encode 2 n
  else 127 :: BigEndian.encode 8 n

variable {outLen : Nat}

def ServerFrame.encode (frame : ServerFrame outLen) : Bytes :=
  (0x80 ||| frame.type.opcode) :: (lengthField frame.payload.length ++ frame.payload)

def ServerFrame.returned (frame : ServerFrame outLen) : FrameType × Bytes :=
  match frame.type with
  | .binary | .ping => (frame.type, frame.payload)
  | .close | .pong => (frame.type, [])

theorem mask_bits : ∀ n : Fin 128, UInt8.ofNat n.val &&& 0x80 = 0 ∧ UInt8.ofNat n.val &&& 0x7F = UInt8.ofNat n.val := by
  decide

theorem opcode_bits (type : FrameType) : (0x80 ||| type.opcode) &&& 0x0F = type.opcode := by
  cases type <;> rfl

theorem take_extended {first second : UInt8} {extra rest : Bytes} {k : Nat} (arrived : 2 + extra.length ≤ k) :
    (((first :: second :: (extra ++ rest)).take k).drop 2).take extra.length = extra := by
  rw [List.drop_take, List.take_take, Nat.min_eq_left (by omega)]
  simp

theorem headerOf_medium (buffer : Bytes) : headerOf (126 &&& 0x7F) buffer =
    if buffer.length < 4 then none else some (BigEndian.decode ((buffer.drop 2).take 2), 4) := rfl

theorem headerOf_long (buffer : Bytes) : headerOf (127 &&& 0x7F) buffer =
    if buffer.length < 10 then none else some (BigEndian.decode ((buffer.drop 2).take 8), 10) := rfl

theorem headerOf_lengthField {n : Nat} (fits : n < 2 ^ 63) :
    ∃ second extra, lengthField n = second :: extra ∧ extra.length ≤ 8 ∧ second &&& 0x80 = 0 ∧
      ∀ (first : UInt8) (rest : Bytes) (k : Nat),
      k ≤ (first :: second :: (extra ++ rest)).length →
      (headerOf (second &&& 0x7F) ((first :: second :: (extra ++ rest)).take k) = none ∧ k < 2 + extra.length) ∨
        headerOf (second &&& 0x7F) ((first :: second :: (extra ++ rest)).take k) = some (n, 2 + extra.length) := by
  unfold lengthField
  split
  · rename_i short
    obtain ⟨unmasked, same⟩ := mask_bits ⟨n, by omega⟩
    refine ⟨_, [], rfl, Nat.zero_le 8, unmasked, fun first rest k _ => .inr ?_⟩
    have small : UInt8.ofNat n ≤ 125 := by
      rw [UInt8.le_iff_toNat_le, UInt8.toNat_ofNat']
      simp only [UInt8.reduceToNat]
      omega
    rw [headerOf, same, if_pos small, UInt8.toNat_ofNat', Nat.mod_eq_of_lt (by omega)]
    rfl
  · split
    · rename_i long short
      refine ⟨126, _, rfl, by simp, by decide, fun first rest k bound => ?_⟩
      have arrived := @take_extended first 126 (BigEndian.encode 2 n) rest k
      rw [BigEndian.length_encode] at arrived ⊢
      rw [headerOf_medium, List.length_take_of_le bound]
      by_cases partial_ : k < 4
      · exact .inl ⟨if_pos partial_, partial_⟩
      · rw [if_neg partial_, arrived (by omega), BigEndian.decode_encode (by omega)]
        exact .inr rfl
    · rename_i long
      refine ⟨127, _, rfl, by simp, by decide, fun first rest k bound => ?_⟩
      have arrived := @take_extended first 127 (BigEndian.encode 8 n) rest k
      rw [BigEndian.length_encode] at arrived ⊢
      rw [headerOf_long, List.length_take_of_le bound]
      by_cases partial_ : k < 10
      · exact .inl ⟨if_pos partial_, partial_⟩
      · rw [if_neg partial_, arrived (by omega), BigEndian.decode_encode (by omega)]
        exact .inr rfl

theorem frameOf_opcode (frame : ServerFrame outLen) :
    frameOf frame.type.opcode frame.payload = .ok frame.returned := by
  unfold ServerFrame.returned
  cases frame.type <;> rfl

theorem parseBuffer_encode (addressable : outLen < 2 ^ 63) (frame : ServerFrame outLen) (tail : Bytes) :
    parseBuffer outLen (frame.encode ++ tail) = some (.ok frame.returned, tail) := by
  have small := Nat.lt_of_le_of_lt frame.fits addressable
  obtain ⟨second, extra, field, few, unmasked, header⟩ := headerOf_lengthField small
  have shape : frame.encode ++ tail =
      (0x80 ||| frame.type.opcode) :: second :: (extra ++ (frame.payload ++ tail)) := by
    simp [ServerFrame.encode, field]
  rw [shape]
  have whole := header (0x80 ||| frame.type.opcode) (frame.payload ++ tail) _ (Nat.le_refl _)
  rw [List.take_length] at whole
  rcases whole with ⟨-, impossible⟩ | found
  · simp at impossible
    omega
  · have ends : (2 + extra.length + frame.payload.length) % 2 ^ 64 = 2 + extra.length + frame.payload.length :=
      Nat.mod_eq_of_lt (by omega)
    have payload : (((0x80 ||| frame.type.opcode) :: second :: (extra ++ (frame.payload ++ tail))).drop
        (2 + extra.length)).take frame.payload.length = frame.payload := by
      simp [Nat.add_comm 2]
    have room : ¬ ((0x80 ||| frame.type.opcode) :: second :: (extra ++ (frame.payload ++ tail))).length <
        2 + extra.length + frame.payload.length := by
      simp
      omega
    have left : ((0x80 ||| frame.type.opcode) :: second :: (extra ++ (frame.payload ++ tail))).drop
        (2 + extra.length + frame.payload.length) = tail := by
      rw [← List.drop_drop]
      simp [Nat.add_comm 2]
    rw [parseBuffer, if_neg (by simp [unmasked]), found]
    dsimp only
    rw [ends, if_neg room, if_neg (Nat.not_lt.mpr frame.fits), opcode_bits, payload, frameOf_opcode, left]

theorem parseBuffer_of_start (addressable : outLen < 2 ^ 63) (frame : ServerFrame outLen) (buffer : Bytes)
    (part : buffer <+: frame.encode) (proper : buffer ≠ frame.encode) : parseBuffer outLen buffer = none := by
  have small := Nat.lt_of_le_of_lt frame.fits addressable
  obtain ⟨second, extra, field, few, unmasked, header⟩ := headerOf_lengthField small
  have shape : frame.encode = (0x80 ||| frame.type.opcode) :: second :: (extra ++ frame.payload) := by
    simp [ServerFrame.encode, field]
  have short : buffer.length < frame.encode.length :=
    Nat.lt_of_le_of_ne part.length_le fun same => proper (part.eq_of_length same)
  have cut : buffer = frame.encode.take buffer.length := List.prefix_iff_eq_take.mp part
  have found := header (0x80 ||| frame.type.opcode) frame.payload buffer.length (by rw [← shape]; omega)
  rw [← shape, ← cut] at found
  match buffer, part with
  | [], _ => rfl
  | [_], _ => rfl
  | first :: other :: more, part =>
    rw [shape, List.cons_prefix_cons, List.cons_prefix_cons] at part
    obtain ⟨-, rfl, -⟩ := part
    rw [parseBuffer, if_neg (by simp [unmasked])]
    rcases found with ⟨waiting, -⟩ | arrived
    · rw [waiting]
    · rw [arrived]
      dsimp only
      rw [Nat.mod_eq_of_lt (by omega), if_pos]
      rw [shape] at short
      simp only [List.length_cons, List.length_append] at short ⊢
      omega

def resultOf : Option (Except WsError (FrameType × Bytes)) → Except WsError (FrameType × Bytes)
  | some result => result
  | none => .error .closed

theorem nextFrame_eq {buffer : Bytes} {reads : List Bytes} (solid : ∀ read ∈ reads, read ≠ []) :
    nextFrame outLen buffer reads =
      (resultOf (ChunkReader.next (parseBuffer outLen) buffer reads).1,
        (ChunkReader.next (parseBuffer outLen) buffer reads).2) := by
  induction reads generalizing buffer with
  | nil => rfl
  | cons read rest ih =>
    obtain ⟨here, onward⟩ := List.forall_mem_cons.mp solid
    rw [nextFrame, if_neg here, ChunkReader.next]
    cases parseBuffer outLen (buffer ++ read) with
    | some parsed => rfl
    | none => exact ih onward

theorem nextFrames_eq {count : Nat} {buffer : Bytes} {reads : List Bytes} (solid : ∀ read ∈ reads, read ≠ []) :
    nextFrames outLen count buffer reads =
      (ChunkReader.calls (parseBuffer outLen) count buffer reads).map resultOf := by
  induction count generalizing buffer reads with
  | zero => rfl
  | succ count ih =>
    have left := (ChunkReader.next_spec (parseBuffer outLen) buffer reads).2
    rw [nextFrames, nextFrame_eq solid, ChunkReader.calls]
    exact congrArg _ (ih fun read listed => solid read (left.mem listed))

theorem parseBuffer_ne_closed (buffer left : Bytes) : parseBuffer outLen buffer ≠ some (.error .closed, left) := by
  unfold parseBuffer
  split
  · split
    · simp
    · split
      · simp
      · dsimp only
        split
        · simp
        · split
          · simp
          · split
            · simp
            · rename_i failure refused
              unfold frameOf at refused
              split at refused <;> [cases refused; split at refused]
              · cases refused
              · split at refused <;> [cases refused; split at refused <;> cases refused]
                simp
  · simp

theorem resultOf_inj {first second : Option (Except WsError (FrameType × Bytes))}
    (clean : first ≠ some (.error .closed)) (cleanToo : second ≠ some (.error .closed))
    (same : resultOf first = resultOf second) : first = second := by
  cases first with
  | none =>
    cases second with
    | none => rfl
    | some result =>
      cases same
      exact absurd rfl cleanToo
  | some result =>
    cases second with
    | none =>
      cases same
      exact absurd rfl clean
    | some other => exact congrArg some same

theorem map_resultOf_inj {results expected : List (Option (Except WsError (FrameType × Bytes)))}
    (clean : some (.error .closed) ∉ results) (cleanToo : some (.error .closed) ∉ expected)
    (same : results.map resultOf = expected.map resultOf) : results = expected := by
  induction results generalizing expected with
  | nil =>
    cases expected with
    | nil => rfl
    | cons other rest => cases same
  | cons result results ih =>
    cases expected with
    | nil => cases same
    | cons other rest =>
      simp only [List.mem_cons, not_or] at clean cleanToo
      obtain ⟨here, onward⟩ := List.cons.inj same
      rw [resultOf_inj (Ne.symm clean.1) (Ne.symm cleanToo.1) here, ih clean.2 cleanToo.2 onward]

theorem returned_eq_iff (frame : ServerFrame outLen) :
    (.ok frame.returned : Except WsError (FrameType × Bytes)) = .ok (frame.type, frame.payload) ↔
      (frame.type = .close ∨ frame.type = .pong → frame.payload = []) := by
  unfold ServerFrame.returned
  cases type : frame.type <;> simp

/-- Repeated calls return every frame and then the end of the stream, exactly if for every number of frames at the end
as many reads lie wholly in them, and no close or pong has a payload. -/
theorem nextFrames_eq_frames_iff (addressable : outLen < 2 ^ 63) (frames : List (ServerFrame outLen))
    (reads : List Bytes) (solid : ∀ read ∈ reads, read ≠ [])
    (cut : reads.flatten = frames.flatMap ServerFrame.encode) :
    nextFrames outLen (frames.length + 1) [] reads =
        (frames.map fun frame => .ok (frame.type, frame.payload)) ++ [.error .closed] ↔
      ChunkReader.Paced ServerFrame.encode frames reads ∧
        ∀ frame ∈ frames, frame.type = .close ∨ frame.type = .pong → frame.payload = [] := by
  let expected (frame : ServerFrame outLen) : Except WsError (FrameType × Bytes) := .ok (frame.type, frame.payload)
  have spec : ChunkReader.calls (parseBuffer outLen) (frames.length + 1) [] reads =
        (frames.map fun frame => some (expected frame)) ++ [none] ↔
      ChunkReader.Paced ServerFrame.encode frames reads ∧
        ∀ frame ∈ frames, .ok frame.returned = expected frame :=
    ChunkReader.calls_eq_iff (parseBuffer_encode addressable) (parseBuffer_of_start addressable) solid cut
  simp only [expected, returned_eq_iff] at spec
  rw [← spec, nextFrames_eq solid]
  have target : (frames.map expected) ++ [.error .closed] =
      ((frames.map fun frame => some (expected frame)) ++ [none]).map resultOf := by
    simp [resultOf]
  rw [target]
  constructor
  · intro same
    refine map_resultOf_inj ?_ (by simp) same
    intro returned
    obtain ⟨whole, left, parsed⟩ := ChunkReader.parsed_of_mem_calls _ returned
    exact parseBuffer_ne_closed whole left parsed
  · intro same
    rw [same]

namespace WsSample

def ping : ServerFrame 4 := ⟨.ping, [1], by decide⟩

def data : ServerFrame 4 := ⟨.binary, [2, 3], by decide⟩

end WsSample

open WsSample in
/-- Two frames in one read: the second one is never returned. -/
theorem second_frame_lost :
    [ping.encode ++ data.encode].flatten = [ping, data].flatMap ServerFrame.encode ∧
      nextFrames 4 3 [] [ping.encode ++ data.encode] =
        [.ok (.ping, [1]), .error .closed, .error .closed] := by
  decide

open WsSample in
theorem paced_frames_returned :
    nextFrames 4 3 [] [ping.encode.take 2, ping.encode.drop 2 ++ data.encode.take 1, data.encode.drop 1] =
      [.ok (.ping, [1]), .ok (.binary, [2, 3]), .error .closed] := by
  have paced : ChunkReader.Paced ServerFrame.encode [ping, data]
      [ping.encode.take 2, ping.encode.drop 2 ++ data.encode.take 1, data.encode.drop 1] := by
    intro rest suffix
    rcases List.suffix_cons_iff.mp suffix with rfl | suffix
    · decide
    · rcases List.suffix_cons_iff.mp suffix with rfl | suffix
      · decide
      · rw [List.suffix_nil.mp suffix]
        exact Nat.zero_le _
  exact (nextFrames_eq_frames_iff (by decide) [ping, data] _ (by decide) (by decide)).mpr ⟨paced, by decide⟩

end Rvpn.Mobile
