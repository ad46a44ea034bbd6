import Rvpn.Mux.Encoding

/-! `padding.rs`: what the padding hides, and that it is removed exactly and inside the packet. -/

namespace Rvpn.Mux

/-- What ends a function of the source where it would go beyond a slice. -/
inductive Panic where
  | indexOutOfBounds (index length : Nat)
  | rangeEndOutOfBounds (stop length : Nat)
  | subtractWithOverflow
  deriving DecidableEq, Repr

abbrev Checked := Except Panic

/-- `data[i]`. -/
def indexed (data : Bytes) (i : Nat) : Checked UInt8 :=
  match data[i]? with
  | some byte => .ok byte
  | none => .error (.indexOutOfBounds i data.length)

/-- Subtraction of `usize` numbers. -/
def subtracted (n m : Nat) : Checked Nat := if n < m then .error .subtractWithOverflow else .ok (n - m)

/-- `&data[..stop]`, a part that is borrowed from the packet. -/
structure Borrowed (data : Bytes) where
  stop : Nat
  inside : stop ≤ data.length

def Borrowed.toVec {data : Bytes} (slice : Borrowed data) : Bytes := data.take slice.stop

def slicedTo (data : Bytes) (stop : Nat) : Checked (Borrowed data) :=
  if inside : stop ≤ data.length then .ok ⟨stop, inside⟩ else .error (.rangeEndOutOfBounds stop data.length)

/-- The body of the two functions, with every access to the packet. They differ in what they do with the slice. -/
def unpadWith {Result : Type} (data : Bytes) (finish : Borrowed data → Result) :
    Checked (Except PaddingError Result) :=
  if data.length < 2 then .ok (.error .dataTooShort)
  else do
    let high ← indexed data (← subtracted data.length 2)
    let low ← indexed data (← subtracted data.length 1)
    let paddingLen := ofBigEndian [high, low]
    if (← subtracted data.length 2) < paddingLen then return .error .invalidPaddingLength
    let slice ← slicedTo data (← subtracted (← subtracted data.length 2) paddingLen)
    return .ok (finish slice)

/-- `unpad_packet` with its accesses. -/
def unpadPacketChecked (data : Bytes) : Checked (Except PaddingError Bytes) := unpadWith data Borrowed.toVec

def unpadPacketSlice (data : Bytes) : Checked (Except PaddingError (Borrowed data)) := unpadWith data id

section unpad

variable {Result : Type} {data : Bytes}

theorem indexed_of_lt (inside : i < data.length) : indexed data i = .ok data[i] := by
  rw [indexed, List.getElem?_eq_getElem inside]

theorem subtracted_of_le (le : m ≤ n) : subtracted n m = .ok (n - m) := if_neg (Nat.not_lt.mpr le)

theorem ofBigEndian_last_two (long : ¬ data.length < 2) :
    ofBigEndian (data.drop (data.length - 2)) =
      ofBigEndian [data[data.length - 2], data[data.length - 1]] := by
  have last : data.drop (data.length - 2) = [data[data.length - 2], data[data.length - 1]] := by
    apply List.ext_getElem
    · simp only [List.length_drop, List.length_cons, List.length_nil]
      omega
    · intro i _ two
      rw [List.getElem_drop]
      match i, two with
      | 0, _ => rfl
      | 1, _ => exact getElem_congr rfl (by omega) _
  rw [last]

theorem checked_bind (value : Value) (next : Value → Checked Result) :
    ((.ok value : Checked Value) >>= next) = next value :=
  rfl

/-- No access fails, and both functions find the slice that `unpad_packet` copies, or its error. -/
theorem unpadWith_eq (data : Bytes) : ∃ outcome : Except PaddingError (Borrowed data),
    (∀ (Result : Type) (finish : Borrowed data → Result), unpadWith data finish = .ok (outcome.map finish)) ∧
      outcome.map Borrowed.toVec = unpadPacket data := by
  by_cases short : data.length < 2
  · exact ⟨.error .dataTooShort, fun _ _ => if_pos short, (if_pos short).symm⟩
  · have two : subtracted data.length 2 = .ok (data.length - 2) := subtracted_of_le (by omega)
    have one : subtracted data.length 1 = .ok (data.length - 1) := subtracted_of_le (by omega)
    have high : indexed data (data.length - 2) = .ok data[data.length - 2] := indexed_of_lt (by omega)
    have low : indexed data (data.length - 1) = .ok data[data.length - 1] := indexed_of_lt (by omega)
    simp only [unpadWith, unpadPacket, if_neg short, two, one, checked_bind, high, low, ofBigEndian_last_two short]
    generalize ofBigEndian [data[data.length - 2], data[data.length - 1]] = paddingLen
    by_cases wrong : data.length - 2 < paddingLen
    · exact ⟨.error .invalidPaddingLength, fun _ _ => if_pos wrong, (if_pos wrong).symm⟩
    · have rest : subtracted (data.length - 2) paddingLen = .ok (data.length - 2 - paddingLen) :=
        subtracted_of_le (by omega)
      have inside : data.length - 2 - paddingLen ≤ data.length := by omega
      have cut : slicedTo data (data.length - 2 - paddingLen) = .ok ⟨_, inside⟩ := dif_pos inside
      refine ⟨.ok ⟨_, inside⟩, fun _ _ => ?_, (if_neg wrong).symm⟩
      rw [if_neg wrong, rest, checked_bind, cut]
      rfl

theorem unpadPacketChecked_eq (data : Bytes) : unpadPacketChecked data = .ok (unpadPacket data) := by
  obtain ⟨outcome, returned, copied⟩ := unpadWith_eq data
  rw [unpadPacketChecked, returned, copied]

/-- The slice holds what `unpad_packet` copies. -/
theorem unpadPacketSlice_eq (data : Bytes) :
    ∃ outcome, unpadPacketSlice data = .ok outcome ∧ outcome.map Borrowed.toVec = unpadPacket data := by
  obtain ⟨outcome, returned, copied⟩ := unpadWith_eq data
  refine ⟨outcome, ?_, copied⟩
  rw [unpadPacketSlice, returned]
  cases outcome <;> rfl

end unpad

section pad

variable {fill : Nat → UInt8} {data : Bytes}

/-- The inputs that fit, with the two bytes of the padding length, in the same number of 1024 bytes. -/
def bucket (dataLen : Nat) : Nat := (dataLen + 1) / paddingBlockSize

theorem paddedSize_of_fits (fits : dataLen ≤ maxPaddedSize - 2) :
    paddedSize dataLen = (bucket dataLen + 1) * paddingBlockSize := by
  by_cases zero : dataLen = 0
  · subst zero
    rfl
  · rw [paddedSize_eq zero fits]
    unfold paddingBlocks bucket paddingBlockSize
    omega

theorem bucket_lt_iff : dataLen ≤ maxPaddedSize - 2 ↔ bucket dataLen < 16 := by
  unfold bucket maxPaddedSize paddingBlockSize
  omega

theorem padPacket_nil : padPacket fill [] = .ok (withPadding (fun _ => 0) [] (paddingBlockSize - 2)) := by
  have zeros : fillBytes (fun _ => 0) (paddingBlockSize - 2) = List.replicate (paddingBlockSize - 2) 0 := by
    rw [fillBytes, List.map_const', List.length_range]
  rw [withPadding, zeros]
  rfl

theorem padPacket_of_fits (fill : Nat → UInt8) (fits : data.length ≤ maxPaddedSize - 2) : ∃ filler,
    padPacket fill data = .ok (withPadding filler data (paddedSize data.length - 2 - data.length)) := by
  by_cases empty : data = []
  · subst empty
    exact ⟨_, padPacket_nil⟩
  · exact ⟨fill, padPacket_eq empty fits⟩

theorem padPacket_of_large (large : maxPaddedSize - 2 < data.length) :
    padPacket fill data = .error ⟨data.length, maxPaddedSize - 2⟩ := by
  have cover := paddingBlocks_spec data.length
  have capped : min (paddingBlocks data.length * paddingBlockSize) maxPaddedSize = maxPaddedSize := by
    unfold maxPaddedSize at *
    omega
  have nonempty : ¬ data.isEmpty = true := by
    rw [List.isEmpty_iff]
    rintro rfl
    cases large
  simp only [padPacket, if_neg nonempty, capped, if_pos large]

theorem paddedSize_spec (fits : data.length ≤ maxPaddedSize - 2) :
    data.length + 2 ≤ paddedSize data.length ∧ paddedSize data.length ≤ maxPaddedSize := by
  rw [paddedSize_of_fits fits]
  unfold bucket maxPaddedSize paddingBlockSize at *
  omega

theorem padPacket_length (fill : Nat → UInt8) (data : Bytes) :
    (padPacket fill data).toOption.map List.length =
      if bucket data.length < 16 then some ((bucket data.length + 1) * paddingBlockSize) else none := by
  by_cases fits : data.length ≤ maxPaddedSize - 2
  · obtain ⟨filler, padded⟩ := padPacket_of_fits fill fits
    have room := (paddedSize_spec fits).1
    rw [if_pos (bucket_lt_iff.mp fits), padded, ← paddedSize_of_fits fits]
    simp only [Except.toOption, Option.map_some, length_withPadding]
    congr 1
    omega
  · rw [if_neg (fun small => fits (bucket_lt_iff.mpr small)), padPacket_of_large (Nat.lt_of_not_le fits)]
    rfl

theorem exists_padPacket_error_iff :
    (∃ failure, padPacket fill data = .error failure) ↔ maxPaddedSize - 2 < data.length := by
  constructor
  · rintro ⟨failure, failed⟩
    by_contra fits
    obtain ⟨filler, padded⟩ := padPacket_of_fits fill (Nat.le_of_not_lt fits)
    rw [padded] at failed
    cases failed
  · intro large
    exact ⟨_, padPacket_of_large large⟩

/-- A padded packet has the size that `padded_size` predicts, and both functions get the data out of it again. -/
theorem of_padPacket_ok (made : padPacket fill data = .ok padded) :
    padded.length = paddedSize data.length ∧ paddingBlockSize ∣ padded.length ∧ padded.length ≤ maxPaddedSize ∧
      unpadPacket padded = .ok data := by
  have fits : data.length ≤ maxPaddedSize - 2 := by
    by_contra large
    rw [padPacket_of_large (Nat.lt_of_not_le large)] at made
    cases made
  obtain ⟨filler, shape⟩ := padPacket_of_fits fill fits
  rw [shape] at made
  cases made
  have room := paddedSize_spec fits
  have sized : (withPadding filler data (paddedSize data.length - 2 - data.length)).length =
      paddedSize data.length := by
    rw [length_withPadding]
    omega
  have small : paddedSize data.length - 2 - data.length < 65536 := by
    have limit : maxPaddedSize = 16384 := rfl
    omega
  rw [sized]
  refine ⟨rfl, ?_, room.2, unpadPacket_withPadding small⟩
  rw [paddedSize_of_fits fits]
  exact Nat.dvd_mul_left _ _

/-- The padding fails exactly for more than 16382 bytes. Otherwise the length of the packet is a multiple of 1024, up
to 16384, the one that `padded_size` says and the same for all inputs of a bucket, and both functions return the data.
On all bytes the two agree and no access is out of bounds. -/
theorem padding_spec (fill : Nat → UInt8) (data : Bytes) :
    ((∃ failure, padPacket fill data = .error failure) ↔ 16382 < data.length) ∧
      (∀ padded, padPacket fill data = .ok padded →
        padded.length = paddedSize data.length ∧ 1024 ∣ padded.length ∧ padded.length ≤ 16384 ∧
          unpadPacketChecked padded = .ok (.ok data) ∧
          ∃ slice, unpadPacketSlice padded = .ok (.ok slice) ∧ slice.toVec = data) ∧
      (∀ otherFill other, bucket other.length = bucket data.length →
        (padPacket otherFill other).toOption.map List.length = (padPacket fill data).toOption.map List.length) ∧
      ∀ bytes, unpadPacketChecked bytes = .ok (unpadPacket bytes) ∧
        ∃ outcome, unpadPacketSlice bytes = .ok outcome ∧ outcome.map Borrowed.toVec = unpadPacket bytes := by
  refine ⟨exists_padPacket_error_iff, fun padded made => ?_, fun otherFill other same => ?_, fun bytes =>
    ⟨unpadPacketChecked_eq bytes, unpadPacketSlice_eq bytes⟩⟩
  · obtain ⟨sized, whole, capped, restored⟩ := of_padPacket_ok made
    obtain ⟨outcome, sliced, copied⟩ := unpadPacketSlice_eq padded
    refine ⟨sized, whole, capped, by rw [unpadPacketChecked_eq, restored], ?_⟩
    rw [restored] at copied
    cases outcome with
    | error failure => cases copied
    | ok slice => exact ⟨slice, sliced, Except.ok.inj copied⟩
  · rw [padPacket_length, padPacket_length, same]

/-- Two messages of one bucket cannot be told apart by the length of their packets. -/
theorem one_and_two_bytes_padded_alike :
    (padPacket (fun _ => 7) [1]).toOption.map List.length = (padPacket (fun _ => 8) [2, 3]).toOption.map List.length :=
  (padding_spec (fun _ => 8) [2, 3]).2.2.1 (fun _ => 7) [1] (by decide)

end pad

end Rvpn.Mux
