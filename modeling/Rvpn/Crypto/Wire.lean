import Rvpn.Crypto.Ratchet
import Rvpn.Lib.ByteReader

/-! The bytes of a `RatchetMessage`: bincode's encoder and decoder, and the decoder written by hand. -/

namespace Rvpn.Crypto

inductive WireError where
  | unexpectedEof
  | invalidTag (tag : UInt8)
  | lengthOverflow
  | truncated (need position total : Nat)
  deriving DecidableEq, Repr

def keyBytes : Option PublicKey → Bytes
  | none => [0]
  | some key => 1 :: key.toList

def RatchetMessage.toBytes (message : RatchetMessage) : Bytes :=
  keyBytes message.header.dhPublic ++
  (LittleEndian.encode 4 message.header.messageNumber.toNat ++
  (LittleEndian.encode 4 message.header.previousChainLength.toNat ++
  (message.header.payloadType ::
  (message.nonce.toList ++
  (LittleEndian.encode 8 message.ciphertext.length ++ message.ciphertext)))))

/-- A cursor over the bytes still to be read. -/
abbrev Reader := StateT Bytes (Except WireError)

def readExact (count : Nat) : Reader Bytes := fun data =>
  if data.length < count then .error .unexpectedEof else .ok (data.take count, data.drop count)

def readArray (count : Nat) : Reader (Vector UInt8 count) := do
  let bytes ← readExact count
  return Vector.ofFn fun i => bytes.getD i 0

def readByte : Reader UInt8 := do
  let bytes ← readExact 1
  return bytes.headD 0

def readU32 : Reader UInt32 := do
  let bytes ← readExact 4
  return UInt32.ofNat (LittleEndian.decode bytes)

def readHeader (dhPublic : Option PublicKey) : Reader (MessageHeader × Nonce) := do
  let messageNumber ← readU32
  let previousChainLength ← readU32
  let payloadType ← readByte
  let nonce ← readArray nonceSize
  return ({ dhPublic, messageNumber, previousChainLength, payloadType }, nonce)

/-- The `Option` of bincode, which knows two tags. -/
def readKey : Reader (Option PublicKey) := do
  let tag ← readByte
  match tag with
  | 0 => return none
  | 1 => return some (← readArray 32)
  | _ => throw (.invalidTag tag)

def readKeyRef : Reader (Option PublicKey) := do
  let hasDh ← readByte
  if hasDh = 1 then return some (← readArray 32) else return none

/-- `RatchetMessage::from_bytes`. Bincode ignores trailing bytes. -/
def RatchetMessage.fromBytes (data : Bytes) : Except WireError RatchetMessage :=
  let parse : Reader RatchetMessage := do
    let dhPublic ← readKey
    let (header, nonce) ← readHeader dhPublic
    let length ← readExact 8
    let ciphertext ← readExact (LittleEndian.decode length)
    return { header, nonce, ciphertext }
  parse.run' data

/-- `RatchetMessageRef::from_bytes`, which cuts the ciphertext out of the whole buffer. -/
def RatchetMessage.fromBytesRef (data : Bytes) : Except WireError RatchetMessage :=
  let parse : Reader RatchetMessage := do
    let dhPublic ← readKeyRef
    let (header, nonce) ← readHeader dhPublic
    let length ← readExact 8
    let ctLen := LittleEndian.decode length
    let position := data.length - (← get).length
    if 2 ^ 64 ≤ position + ctLen then throw .lengthOverflow
    if data.length < position + ctLen then throw (.truncated ctLen position data.length)
    return { header, nonce, ciphertext := (data.drop position).take ctLen }
  parse.run' data

/-- What both decoders read between the key and the ciphertext, with the length of the latter. -/
def readFront (dhPublic : Option PublicKey) : Reader ((MessageHeader × Nonce) × Nat) := do
  let front ← readHeader dhPublic
  let length ← readExact 8
  return (front, LittleEndian.decode length)

section readers

open ByteReader (Reads reads_array reads_byte reads_exactly reads_pure)

theorem ok_bind (value : Value) (next : Value → Except WireError Result) :
    (Except.ok value >>= next) = next value :=
  rfl

theorem readByte_cons (byte : UInt8) : readByte.run (byte :: rest) = .ok (byte, rest) :=
  (reads_byte byte : Reads readByte [byte] byte) rest

theorem reads_u32 (n : UInt32) : Reads readU32 (LittleEndian.encode 4 n.toNat) n := by
  have read : Reads readU32 _ _ := (reads_exactly (LittleEndian.length_encode 4 n.toNat)).return
    fun bytes => UInt32.ofNat (LittleEndian.decode bytes)
  rwa [LittleEndian.decode_encode n.toNat_lt, UInt32.ofNat_toNat] at read

theorem reads_key (dhPublic : Option PublicKey) : Reads readKey (keyBytes dhPublic) dhPublic := by
  cases dhPublic with
  | none => exact (reads_byte 0).finish (reads_pure none)
  | some key => exact (reads_byte 1).bind ((reads_array key).return some)

theorem reads_header (header : MessageHeader) (nonce : Nonce) :
    Reads (readHeader header.dhPublic) (LittleEndian.encode 4 header.messageNumber.toNat ++
      (LittleEndian.encode 4 header.previousChainLength.toNat ++ ([header.payloadType] ++ nonce.toList)))
      (header, nonce) :=
  (reads_u32 _).bind ((reads_u32 _).bind ((reads_byte _).bind ((reads_array nonce).return _)))

theorem reads_front (header : MessageHeader) (nonce : Nonce) (fits : length < 2 ^ 64) :
    Reads (readFront header.dhPublic) (LittleEndian.encode 4 header.messageNumber.toNat ++
      (LittleEndian.encode 4 header.previousChainLength.toNat ++ ([header.payloadType] ++ nonce.toList)) ++
      LittleEndian.encode 8 length) ((header, nonce), length) := by
  have read : Reads (readFront header.dhPublic) _ _ := (reads_header header nonce).bind
    ((reads_exactly (LittleEndian.length_encode 8 length)).return fun bytes => (_, LittleEndian.decode bytes))
  rwa [LittleEndian.decode_encode fits] at read

end readers

namespace RatchetMessage

variable {message : RatchetMessage}

theorem toBytes_eq (message : RatchetMessage) :
    ∃ front : Bytes, message.toBytes = front ++ message.ciphertext ∧ front.length ≤ 62 := by
  have nonceLength : message.nonce.toList.length = 12 := Vector.length_toList
  have keyLength : (keyBytes message.header.dhPublic).length ≤ 33 := by
    cases message.header.dhPublic with
    | none => decide
    | some key => simp [keyBytes]
  refine ⟨keyBytes message.header.dhPublic ++ (LittleEndian.encode 4 message.header.messageNumber.toNat ++
    (LittleEndian.encode 4 message.header.previousChainLength.toNat ++ (message.header.payloadType ::
    (message.nonce.toList ++ LittleEndian.encode 8 message.ciphertext.length)))), by simp [toBytes], ?_⟩
  simp only [List.length_append, List.length_cons, LittleEndian.length_encode]
  omega

def readCiphertext (read : (MessageHeader × Nonce) × Nat) : Reader RatchetMessage := do
  let ciphertext ← readExact read.2
  return { header := read.1.1, nonce := read.1.2, ciphertext }

def cutCiphertext (data : Bytes) (read : (MessageHeader × Nonce) × Nat) : Reader RatchetMessage := do
  let position := data.length - (← get).length
  if 2 ^ 64 ≤ position + read.2 then throw .lengthOverflow
  if data.length < position + read.2 then throw (.truncated read.2 position data.length)
  return { header := read.1.1, nonce := read.1.2, ciphertext := (data.drop position).take read.2 }

theorem fromBytes_eq (data : Bytes) :
    fromBytes data = (readKey >>= fun key => readFront key >>= readCiphertext).run' data := by
  simp only [fromBytes, readFront, readCiphertext, bind_assoc, pure_bind]

theorem fromBytesRef_eq (data : Bytes) :
    fromBytesRef data = (readKeyRef >>= fun key => readFront key >>= cutCiphertext data).run' data := by
  simp only [fromBytesRef, readFront, cutCiphertext, bind_assoc, pure_bind]

theorem fromBytes_toBytes (fits : message.ciphertext.length < 2 ^ 64) :
    fromBytes message.toBytes = .ok message := by
  have read := ((reads_key message.header.dhPublic).bind ((reads_front message.header message.nonce fits).bind
    ((ByteReader.reads_exactly rfl).return fun ciphertext => RatchetMessage.mk message.header message.nonce ciphertext))
    : ByteReader.Reads (readKey >>= fun key => readFront key >>= readCiphertext) _ message).run'
  rw [fromBytes_eq, ← read]
  simp [toBytes]

end RatchetMessage

section agreement

open ByteReader (Takes)

theorem run_readExact (count : Nat) (data : Bytes) : (readExact count).run data =
    if data.length < count then .error .unexpectedEof else .ok (data.take count, data.drop count) :=
  rfl

theorem takes_readExact (count : Nat) : Takes (readExact count) count := ByteReader.takes_exactly _ count

theorem takes_readByte : Takes readByte 1 := (takes_readExact 1).bind fun _ => ByteReader.takes_pure _

theorem takes_readU32 : Takes readU32 4 := (takes_readExact 4).bind fun _ => ByteReader.takes_pure _

theorem takes_readArray (count : Nat) : Takes (readArray count) count :=
  (takes_readExact count).bind fun _ => ByteReader.takes_pure _

theorem takes_readHeader (dhPublic : Option PublicKey) : Takes (readHeader dhPublic) 21 :=
  takes_readU32.bind fun _ => takes_readU32.bind fun _ => takes_readByte.bind fun _ =>
    (takes_readArray nonceSize).bind fun _ => ByteReader.takes_pure _

theorem takes_readFront (dhPublic : Option PublicKey) : Takes (readFront dhPublic) 29 :=
  (takes_readHeader dhPublic).bind fun _ => (takes_readExact 8).bind fun _ => ByteReader.takes_pure _

def announced (left : Bytes) : Nat := LittleEndian.decode ((left.drop 21).take 8)

theorem run_readFront (dhPublic : Option PublicKey) (enough : 29 ≤ left.length) :
    ∃ front, (readFront dhPublic).run left = .ok ((front, announced left), left.drop 29) := by
  obtain ⟨front, read⟩ := (takes_readHeader dhPublic).enough (show 21 ≤ left.length by omega)
  have eight : ¬ (left.drop 21).length < 8 := by
    rw [List.length_drop]
    omega
  have length : (readExact 8).run (left.drop 21) = .ok ((left.drop 21).take 8, (left.drop 21).drop 8) := if_neg eight
  refine ⟨front, ByteReader.run_bind_eq_ok.mpr ⟨front, _, read, ByteReader.run_bind_eq_ok.mpr ⟨_, _, length, ?_⟩⟩⟩
  rw [List.drop_drop]
  rfl

end agreement

namespace RatchetMessage

section agreement

variable {data left : Bytes}

theorem cutCiphertext_agrees (read : (MessageHeader × Nonce) × Nat) (suffix : left <:+ data)
    (fits : data.length < 2 ^ 64) :
    ((cutCiphertext data read).run' left).toOption = ((readCiphertext read).run' left).toOption ∧
      (((cutCiphertext data read).run' left).toOption = none ↔ left.length < read.2) := by
  obtain ⟨front, rfl⟩ := suffix
  have position : (front ++ left).length - left.length = front.length := by simp
  have cut : ((front ++ left).drop front.length).take read.2 = left.take read.2 := by simp
  have total : (front ++ left).length = front.length + left.length := List.length_append
  have taken : (readCiphertext read).run' left = if left.length < read.2 then .error .unexpectedEof
      else .ok { header := read.1.1, nonce := read.1.2, ciphertext := left.take read.2 } := by
    simp only [readCiphertext, StateT.run'_eq, StateT.run_bind, run_readExact]
    split <;> rfl
  have cutOut : (cutCiphertext (front ++ left) read).run' left =
      if 2 ^ 64 ≤ front.length + read.2 then .error .lengthOverflow
      else if (front ++ left).length < front.length + read.2 then
        .error (.truncated read.2 front.length (front ++ left).length)
      else .ok { header := read.1.1, nonce := read.1.2, ciphertext := left.take read.2 } := by
    simp only [cutCiphertext, StateT.run'_eq, StateT.run_bind, StateT.run_get, pure_bind, position, cut]
    split
    · rfl
    · split <;> rfl
  rw [taken, cutOut]
  by_cases short : left.length < read.2
  · have missing : (front ++ left).length < front.length + read.2 := by omega
    split <;> exact ⟨rfl, iff_of_true rfl short⟩
  · have inside : ¬ 2 ^ 64 ≤ front.length + read.2 := by omega
    have complete : ¬ (front ++ left).length < front.length + read.2 := by omega
    rw [if_neg short, if_neg inside, if_neg complete]
    exact ⟨rfl, iff_of_false (nofun) short⟩

theorem readFront_agrees (key : Option PublicKey) (suffix : left <:+ data) (fits : data.length < 2 ^ 64) :
    ((readFront key >>= cutCiphertext data).run' left).toOption =
        ((readFront key >>= readCiphertext).run' left).toOption ∧
      (((readFront key >>= cutCiphertext data).run' left).toOption = none ↔
        left.length < 29 + announced left) := by
  by_cases enough : 29 ≤ left.length
  · obtain ⟨front, read⟩ := run_readFront key enough
    have onward := cutCiphertext_agrees (front, announced left) ((List.drop_suffix 29 left).trans suffix) fits
    simp only [StateT.run'_eq, StateT.run_bind, read, ok_bind] at onward ⊢
    refine ⟨onward.1, onward.2.trans ?_⟩
    rw [List.length_drop]
    omega
  · obtain ⟨failure, failed⟩ := (takes_readFront key).short (Nat.lt_of_not_le enough)
    simp only [StateT.run'_eq, StateT.run_bind, failed]
    exact ⟨rfl, iff_of_true rfl (by omega)⟩

theorem run_readKeyRef (tag : UInt8) (rest : Bytes) : readKeyRef.run (tag :: rest) =
    (if tag = 1 then some <$> readArray 32 else pure none : Reader (Option PublicKey)).run rest := by
  simp only [readKeyRef, StateT.run_bind, readByte_cons, ok_bind]
  split <;> rfl

theorem run_readKey (tag : UInt8) (rest : Bytes) : readKey.run (tag :: rest) =
    if tag ≤ 1 then readKeyRef.run (tag :: rest) else .error (.invalidTag tag) := by
  simp only [readKey, StateT.run_bind, readByte_cons, ok_bind]
  split
  · rfl
  · rfl
  · rename_i notZero notOne
    have odd : ¬ tag ≤ 1 := by
      intro small
      have value : tag.toNat ≤ 1 := small
      have zero : tag.toNat ≠ 0 := fun same => notZero (UInt8.toNat_inj.mp same)
      have one : tag.toNat ≠ 1 := fun same => notOne (UInt8.toNat_inj.mp same)
      omega
    rw [if_neg odd]
    rfl

theorem suffix_of_readKeyRef (read : readKeyRef.run (tag :: rest) = .ok (key, left)) : left <:+ tag :: rest := by
  refine List.IsSuffix.trans ?_ (List.suffix_cons tag rest)
  rw [run_readKeyRef] at read
  split at read
  · exact (takes_readArray 32 |>.bind fun _ => ByteReader.takes_pure _).suffix read
  · cases read
    exact List.suffix_refl _

theorem decoders_agree_of_tag (known : tag ≤ 1) (fits : (tag :: rest).length < 2 ^ 64) :
    (fromBytesRef (tag :: rest)).toOption = (fromBytes (tag :: rest)).toOption := by
  rw [fromBytes_eq, fromBytesRef_eq, StateT.run'_eq, StateT.run'_eq, StateT.run_bind, StateT.run_bind, run_readKey,
    if_pos known]
  cases read : readKeyRef.run (tag :: rest) with
  | error failure => rfl
  | ok pair =>
    obtain ⟨key, left⟩ := pair
    have agree := (readFront_agrees key (suffix_of_readKeyRef read) fits).1
    rwa [StateT.run'_eq, StateT.run'_eq] at agree

theorem eq_ok_of_toOption {decoded : Except WireError RatchetMessage} (same : decoded.toOption = some message) :
    decoded = .ok message := by
  cases decoded with
  | error failure => cases same
  | ok other => exact congrArg Except.ok (Option.some.inj same)

theorem fromBytesRef_toBytes (fits : message.toBytes.length < 2 ^ 64) :
    fromBytesRef message.toBytes = .ok message := by
  obtain ⟨front, whole, -⟩ := message.toBytes_eq
  have sized : message.ciphertext.length < 2 ^ 64 := by
    rw [whole, List.length_append] at fits
    omega
  obtain ⟨tag, rest, start, known⟩ : ∃ tag rest, message.toBytes = tag :: rest ∧ tag ≤ 1 := by
    cases key : message.header.dhPublic with
    | none => exact ⟨0, _, by rw [toBytes, key]; rfl, by decide⟩
    | some key' => exact ⟨1, _, by rw [toBytes, key]; rfl, by decide⟩
  refine eq_ok_of_toOption ?_
  rw [start] at fits ⊢
  rw [decoders_agree_of_tag known fits, ← start, fromBytes_toBytes sized]
  rfl

theorem decoders_agree_iff_of_tag (unknown : ¬ tag ≤ 1) (fits : (tag :: rest).length < 2 ^ 64) :
    (fromBytesRef (tag :: rest)).toOption = (fromBytes (tag :: rest)).toOption ↔
      rest.length < 29 + announced rest := by
  have notOne : tag ≠ 1 := fun same => unknown (by rw [same]; decide)
  have rejected : (fromBytes (tag :: rest)).toOption = none := by
    rw [fromBytes_eq, StateT.run'_eq, StateT.run_bind, run_readKey, if_neg unknown]
    rfl
  have taken : fromBytesRef (tag :: rest) = (readFront none >>= cutCiphertext (tag :: rest)).run' rest := by
    rw [fromBytesRef_eq, StateT.run'_eq, StateT.run'_eq, StateT.run_bind, run_readKeyRef, if_neg notOne]
    rfl
  rw [rejected, taken]
  exact (readFront_agrees none (List.suffix_cons tag rest) fits).2

/-- The hand-written decoder succeeds exactly when bincode does, with the same message, unless the buffer starts with
a byte that is no tag and what follows is long enough to be taken for a message without a key; and every message is
read back from its own bytes. -/
theorem decoders_agree_iff (data : Bytes) (fits : data.length < 2 ^ 64) (message : RatchetMessage)
    (sized : message.ciphertext.length < 2 ^ 64) :
    ((fromBytesRef data).toOption = (fromBytes data).toOption ↔
      ∀ tag rest, data = tag :: rest → tag ≤ 1 ∨ rest.length < 29 + announced rest) ∧
      fromBytes message.toBytes = .ok message := by
  refine ⟨?_, fromBytes_toBytes sized⟩
  cases data with
  | nil => exact iff_of_true rfl fun tag rest same => nomatch same
  | cons tag rest =>
    have only : (∀ other left, tag :: rest = other :: left → other ≤ 1 ∨ left.length < 29 + announced left) ↔
        tag ≤ 1 ∨ rest.length < 29 + announced rest := by
      constructor
      · intro all
        exact all tag rest rfl
      · rintro here other left same
        cases same
        exact here
    rw [only]
    by_cases known : tag ≤ 1
    · exact iff_of_true (decoders_agree_of_tag known fits) (.inl known)
    · rw [decoders_agree_iff_of_tag known fits, or_iff_right known]

end agreement

namespace Sample

def keyless : RatchetMessage where
  header := ⟨none, 7, 0, 3⟩
  nonce := Vector.replicate 12 9
  ciphertext := [1, 2, 3]

def oddTag : Bytes := 2 :: keyless.toBytes.tail

end Sample

open Sample in
theorem decoders_agree_on_keyless : fromBytesRef keyless.toBytes = .ok keyless ∧
    fromBytes keyless.toBytes = .ok keyless := by
  obtain ⟨agree, read⟩ := decoders_agree_iff keyless.toBytes (by decide) keyless (by decide)
  have same := agree.mpr fun tag rest whole => by
    cases whole
    exact .inl (by decide)
  exact ⟨eq_ok_of_toOption same, read⟩

open Sample in
/-- The hand-written decoder takes the unknown tag for a message without a key. -/
theorem odd_tag_read_as_keyless :
    fromBytesRef oddTag = .ok keyless ∧ fromBytes oddTag = .error (.invalidTag 2) := by
  decide

end RatchetMessage

end Rvpn.Crypto
