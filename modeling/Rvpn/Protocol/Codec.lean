import Rvpn.Crypto.Ratchet
import Rvpn.Lib.ByteReader

/-! The binary codec of `protocol/codec.rs`: lengths are cut to the format's width, and no encoder returns an error.
-/

namespace Rvpn.Protocol

open ByteReader
open Crypto (MessageHeader RatchetMessage nonceSize)

structure ProxyConnect where
  connectionId : UInt64
  host : String
  port : UInt16
  deriving DecidableEq

structure ProxyResponse where
  connectionId : UInt64
  success : Bool
  error : Option String
  deriving DecidableEq

/-- `ProxyData`, and `ProxyDataBatchItem` with the same fields. -/
structure ProxyData where
  connectionId : UInt64
  data : Bytes
  close : Bool
  deriving DecidableEq

structure ProxyDataBatch where
  items : List ProxyData
  deriving DecidableEq

structure DnsQuery where
  queryId : UInt64
  domain : String
  queryType : UInt16
  deriving DecidableEq

structure DnsResponse where
  queryId : UInt64
  success : Bool
  ipv4Addrs : List (Vector UInt8 4)
  ipv6Addrs : List (Vector UInt8 16)
  ttl : UInt32
  error : Option String
  deriving DecidableEq

def typeProxyConnect : UInt8 := 0x01
def typeProxyResponse : UInt8 := 0x02
def typeProxyData : UInt8 := 0x03
def typeRatchetMessage : UInt8 := 0x04
def typeDnsQuery : UInt8 := 0x05
def typeDnsResponse : UInt8 := 0x06
def typeProxyDataBatch : UInt8 := 0x0A

/-- `MAX_CIPHERTEXT_LEN`. -/
def maxCiphertextLen : Nat := 10 * 1024 * 1024

/-- `as_bytes`. -/
def asBytes (text : String) : Bytes := text.toUTF8.data.toList

/-- A `bool` as a `u8`. -/
def flagByte (flag : Bool) : UInt8 := if flag then 1 else 0

def errorBytes (error : Option String) : Bytes := (error.map asBytes).getD []

/-- A value with its length in so many bytes in front of it; `as` cuts the length off. -/
def withLength (width : Nat) (bytes : Bytes) : Bytes := BigEndian.encode width bytes.length ++ bytes

section encoders

def encodeProxyConnect (msg : ProxyConnect) : Bytes :=
  [typeProxyConnect] ++ (BigEndian.encode 8 msg.connectionId.toNat ++
    (withLength 1 (asBytes msg.host) ++ BigEndian.encode 2 msg.port.toNat))

def encodeProxyResponse (msg : ProxyResponse) : Bytes :=
  [typeProxyResponse] ++ (BigEndian.encode 8 msg.connectionId.toNat ++
    ([flagByte msg.success] ++ withLength 2 (errorBytes msg.error)))

/-- What a `ProxyData` and an item of a batch have in common. -/
def encodeItem (item : ProxyData) : Bytes :=
  BigEndian.encode 8 item.connectionId.toNat ++ ([flagByte item.close] ++ withLength 4 item.data)

def encodeProxyData (msg : ProxyData) : Bytes := [typeProxyData] ++ encodeItem msg

def encodeProxyDataBatch (batch : ProxyDataBatch) : Bytes :=
  [typeProxyDataBatch] ++ (BigEndian.encode 2 batch.items.length ++ batch.items.flatMap encodeItem)

def encodeKey : Option Crypto.PublicKey → Bytes
  | none => [0]
  | some key => [1] ++ key.toList

def encodeRatchetMessage (msg : RatchetMessage) : Bytes :=
  [typeRatchetMessage] ++ (encodeKey msg.header.dhPublic ++
    (BigEndian.encode 4 msg.header.messageNumber.toNat ++
    (BigEndian.encode 4 msg.header.previousChainLength.toNat ++
    ([msg.header.payloadType] ++ (msg.nonce.toList ++ withLength 4 msg.ciphertext)))))

def encodeDnsQuery (msg : DnsQuery) : Bytes :=
  [typeDnsQuery] ++ (BigEndian.encode 8 msg.queryId.toNat ++
    (BigEndian.encode 2 msg.queryType.toNat ++ withLength 1 (asBytes msg.domain)))

def encodeAddresses {width : Nat} (addrs : List (Vector UInt8 width)) : Bytes :=
  BigEndian.encode 1 addrs.length ++ addrs.flatMap (·.toList)

def encodeDnsResponse (msg : DnsResponse) : Bytes :=
  [typeDnsResponse] ++ (BigEndian.encode 8 msg.queryId.toNat ++ ([flagByte msg.success] ++
    (BigEndian.encode 4 msg.ttl.toNat ++ (encodeAddresses msg.ipv4Addrs ++
    (encodeAddresses msg.ipv6Addrs ++ withLength 2 (errorBytes msg.error))))))

end encoders

section decoders

abbrev Decoder := Reader String

def readType (kind : UInt8) : Decoder Unit := do
  let found ← byte "Invalid message type"
  if found = kind then return else throw "Invalid message type"

def readU64 (failure : String) : Decoder UInt64 := do
  let n ← number failure 8
  return .ofNat n

def readU32 (failure : String) : Decoder UInt32 := do
  let n ← number failure 4
  return .ofNat n

def readU16 (failure : String) : Decoder UInt16 := do
  let n ← number failure 2
  return .ofNat n

def readFlag (failure : String) : Decoder Bool := do
  let found ← byte failure
  return found ≠ 0

/-- `String::from_utf8`. -/
def fromUtf8 (invalid : String) (bytes : Bytes) : Decoder String :=
  match String.fromUTF8? ⟨bytes.toArray⟩ with
  | some text => return text
  | none => throw invalid

def readConnectionId : Decoder UInt64 := readU64 "Insufficient data for connection_id"

def readQueryId : Decoder UInt64 := readU64 "Insufficient data for query_id"

def readError : Decoder (Option String) := do
  let errorLen ← number "Insufficient data for error length" 2
  let bytes ← exactly "Insufficient data for error message" errorLen
  if errorLen > 0 then
    let text ← fromUtf8 "Invalid UTF-8 in error message" bytes
    return some text
  else return none

def decodeProxyConnect (bytes : Bytes) : Except String ProxyConnect :=
  let decode : Decoder ProxyConnect := do
    readType typeProxyConnect
    let connectionId ← readConnectionId
    let hostLen ← number "Insufficient data for host length" 1
    let hostBytes ← exactly "Insufficient data for host" hostLen
    let host ← fromUtf8 "Invalid UTF-8 in host" hostBytes
    let port ← readU16 "Insufficient data for port"
    return { connectionId, host, port }
  decode.run' bytes

def decodeProxyResponse (bytes : Bytes) : Except String ProxyResponse :=
  let decode : Decoder ProxyResponse := do
    readType typeProxyResponse
    let connectionId ← readConnectionId
    let success ← readFlag "Insufficient data for success flag"
    let error ← readError
    return { connectionId, success, error }
  decode.run' bytes

/-- The fields of a `ProxyData` or of an item of a batch. -/
def readItem : Decoder ProxyData := do
  let connectionId ← readConnectionId
  let close ← readFlag "Insufficient data for close flag"
  let dataLen ← number "Insufficient data for data length" 4
  let data ← exactly "Insufficient data for data payload" dataLen
  return { connectionId, data, close }

def decodeProxyData (bytes : Bytes) : Except String ProxyData :=
  let decode : Decoder ProxyData := do
    readType typeProxyData
    readItem
  decode.run' bytes

def decodeProxyDataBatch (bytes : Bytes) : Except String ProxyDataBatch :=
  let decode : Decoder ProxyDataBatch := do
    readType typeProxyDataBatch
    let itemCount ← number "Insufficient data for item count" 2
    let items ← times readItem itemCount
    return { items }
  decode.run' bytes

def readKey : Decoder (Option Crypto.PublicKey) := do
  let hasDhPublic ← readFlag "Insufficient data for header flags"
  if hasDhPublic then
    let key ← array "Insufficient data for DH public key" 32
    return some key
  else return none

def readCiphertext : Decoder Bytes := do
  let ciphertextLen ← number "Insufficient data for ciphertext length" 4
  if ciphertextLen > maxCiphertextLen then throw "Ciphertext length exceeds maximum allowed size"
  exactly "Insufficient data for ciphertext" ciphertextLen

def decodeRatchetMessage (bytes : Bytes) : Except String RatchetMessage :=
  let decode : Decoder RatchetMessage := do
    readType typeRatchetMessage
    let dhPublic ← readKey
    let messageNumber ← readU32 "Insufficient data for message number"
    let previousChainLength ← readU32 "Insufficient data for previous chain length"
    let payloadType ← byte "Insufficient data for payload type"
    let nonce ← array "Insufficient data for nonce" nonceSize
    let ciphertext ← readCiphertext
    return { header := { dhPublic, messageNumber, previousChainLength, payloadType }, nonce, ciphertext }
  decode.run' bytes

def decodeDnsQuery (bytes : Bytes) : Except String DnsQuery :=
  let decode : Decoder DnsQuery := do
    readType typeDnsQuery
    let queryId ← readQueryId
    let queryType ← readU16 "Insufficient data for query_type"
    let domainLen ← number "Insufficient data for domain length" 1
    let domainBytes ← exactly "Insufficient data for domain" domainLen
    let domain ← fromUtf8 "Invalid UTF-8 in domain" domainBytes
    return { queryId, domain, queryType }
  decode.run' bytes

/-- Addresses after their number; that all of them are there is checked before the first is read. -/
def readAddresses (width : Nat) (countFailure failure : String) : Decoder (List (Vector UInt8 width)) := do
  let count ← number countFailure 1
  let data ← get
  if data.length < count * width then throw failure
  times (array failure width) count

def decodeDnsResponse (bytes : Bytes) : Except String DnsResponse :=
  let decode : Decoder DnsResponse := do
    readType typeDnsResponse
    let queryId ← readQueryId
    let success ← readFlag "Insufficient data for success flag"
    let ttl ← readU32 "Insufficient data for TTL"
    let ipv4Addrs ← readAddresses 4 "Insufficient data for IPv4 count" "Insufficient data for IPv4 addresses"
    let ipv6Addrs ← readAddresses 16 "Insufficient data for IPv6 count" "Insufficient data for IPv6 addresses"
    let error ← readError
    return { queryId, success, ipv4Addrs, ipv6Addrs, ttl, error }
  decode.run' bytes

end decoders

section fields

variable {failure invalid : String} {others : Bytes}

theorem reads_type (kind : UInt8) : Reads (readType kind) [kind] () := by
  have read : Reads (byte "Invalid message type") [kind] kind := reads_byte kind
  have known : Reads (if kind = kind then return else throw "Invalid message type" : Decoder Unit) [] () := by
    rw [if_pos rfl]
    exact reads_pure ()
  exact read.bind known

theorem reads_u64 (n : UInt64) : Reads (readU64 failure) (BigEndian.encode 8 n.toNat) n := by
  have read : Reads (readU64 failure) _ _ := (reads_number n.toNat_lt).return UInt64.ofNat
  rwa [UInt64.ofNat_toNat] at read

theorem reads_u32 (n : UInt32) : Reads (readU32 failure) (BigEndian.encode 4 n.toNat) n := by
  have read : Reads (readU32 failure) _ _ := (reads_number n.toNat_lt).return UInt32.ofNat
  rwa [UInt32.ofNat_toNat] at read

theorem reads_u16 (n : UInt16) : Reads (readU16 failure) (BigEndian.encode 2 n.toNat) n := by
  have read : Reads (readU16 failure) _ _ := (reads_number n.toNat_lt).return UInt16.ofNat
  rwa [UInt16.ofNat_toNat] at read

theorem reads_flag (flag : Bool) : Reads (readFlag failure) [flagByte flag] flag := by
  have read : Reads (readFlag failure) _ _ := (reads_byte (flagByte flag)).return fun found => decide (found ≠ 0)
  have same : decide (flagByte flag ≠ 0) = flag := by
    cases flag <;> rfl
  rwa [same] at read

theorem fromUTF8?_eq_some_iff :
    String.fromUTF8? ⟨bytes.toArray⟩ = some text ↔ asBytes text = bytes := by
  have unfolded : asBytes text = bytes ↔ text.toByteArray = ⟨bytes.toArray⟩ := by
    constructor
    · rintro rfl
      rfl
    · intro same
      rw [asBytes, String.toUTF8, same]
  rw [unfolded, String.fromUTF8?]
  constructor
  · intro found
    split at found
    · cases found
      rfl
    · cases found
  · intro same
    have valid : (ByteArray.mk bytes.toArray).IsValidUTF8 := same ▸ text.isValidUTF8
    rw [dif_pos valid]
    exact congrArg some (String.toByteArray_inj.mp same.symm)

theorem reads_text (text : String) : Reads (fromUtf8 invalid (asBytes text)) [] text := by
  rw [fromUtf8, fromUTF8?_eq_some_iff.mpr rfl]
  exact reads_pure text

theorem returns_text (invalid : String) (bytes : Bytes) :
    Returns (fun text => asBytes text = bytes) (fromUtf8 invalid bytes) := by
  unfold fromUtf8
  split
  · rename_i text found
    exact returns_pure (fromUTF8?_eq_some_iff.mp found)
  · exact returns_throw invalid

theorem reads_withLength (fits : bytes.length < 256 ^ width) (onward : Reads (next bytes) others result) :
    Reads (number failure width >>= fun length => exactly invalid length >>= next)
      (withLength width bytes ++ others) result := by
  rw [withLength, List.append_assoc]
  exact (reads_number fits).bind ((reads_exactly rfl).bind onward)

theorem returns_withLength (onward : ∀ bytes : Bytes, bytes.length < 256 ^ width → Returns good (next bytes)) :
    Returns good (number failure width >>= fun length => exactly invalid length >>= next) :=
  (returns_number failure width).bind fun length fits => (returns_exactly invalid length).bind fun bytes sized =>
    onward bytes (sized ▸ fits)

def ErrorFits : Option String → Prop
  | none => True
  | some text => 0 < (asBytes text).length ∧ (asBytes text).length < 65536

theorem reads_error (fits : ErrorFits error) :
    Reads readError (withLength 2 (errorBytes error)) error := by
  cases error with
  | none => exact (reads_number (by decide)).bind ((reads_exactly rfl).finish (reads_pure none))
  | some text =>
    have present : (errorBytes (some text)).length > 0 := fits.1
    refine (reads_number fits.2).bind ((reads_exactly rfl).finish ?_)
    rw [if_pos present]
    exact (reads_text text).return some

theorem returns_error : Returns ErrorFits readError := by
  refine (returns_number _ 2).bind fun errorLen fits => (returns_exactly _ errorLen).bind fun bytes sized => ?_
  split
  · rename_i present
    refine (returns_text _ bytes).bind fun text same => returns_pure ?_
    rw [ErrorFits, same, sized]
    exact ⟨present, fits⟩
  · exact returns_pure trivial

theorem reads_addresses (few : addrs.length < 256) :
    Reads (readAddresses width countFailure failure) (encodeAddresses addrs) addrs := by
  have sized : (addrs.flatMap (·.toList)).length = addrs.length * width := by
    induction addrs with
    | nil => simp
    | cons addr addrs ih => simp [Nat.succ_mul, Nat.add_comm]
  refine (reads_number few).bind fun rest => ?_
  have all : ¬ (addrs.flatMap (·.toList) ++ rest).length < addrs.length * width := by
    rw [List.length_append, sized]
    omega
  have read : Reads (times (array failure width) addrs.length) (addrs.flatMap (·.toList)) addrs :=
    reads_times fun addr _ => reads_array addr
  simp only [StateT.run_bind, StateT.run_get, pure_bind, if_neg all]
  exact read rest

theorem returns_addresses :
    Returns (fun addrs => addrs.length < 256) (readAddresses width countFailure failure) := by
  refine (returns_number countFailure 1).bind fun count fits => returns_bind fun data => ?_
  have anything : Returns (fun _ => True) (array failure width) := fun _ _ _ _ => trivial
  split
  · exact returns_throw_bind failure
  · exact (returns_times anything count).mono fun addrs counted => counted.1 ▸ fits

end fields

namespace ProxyConnect

def Fits (msg : ProxyConnect) : Prop := (asBytes msg.host).length < 256

theorem decode_encode (fits : msg.Fits) :
    decodeProxyConnect (encodeProxyConnect msg) = .ok msg :=
  Reads.run' ((reads_type _).bind ((reads_u64 msg.connectionId).bind (reads_withLength fits
    ((reads_text msg.host).bind ((reads_u16 msg.port).return _)))))

theorem fits_of_decode (decoded : decodeProxyConnect bytes = .ok msg) :
    msg.Fits := by
  refine Returns.run' (returns_bind fun _ => returns_bind fun _ => returns_withLength fun bytes fits =>
    (returns_text _ bytes).bind fun host same => returns_bind fun _ => returns_pure ?_) decoded
  exact Nat.lt_of_le_of_lt (Nat.le_of_eq (congrArg List.length same)) fits

end ProxyConnect

namespace ProxyResponse

def Fits (msg : ProxyResponse) : Prop := ErrorFits msg.error

theorem decode_encode (fits : msg.Fits) :
    decodeProxyResponse (encodeProxyResponse msg) = .ok msg :=
  Reads.run' ((reads_type _).bind ((reads_u64 msg.connectionId).bind ((reads_flag msg.success).bind
    ((reads_error fits).return _))))

theorem fits_of_decode (decoded : decodeProxyResponse bytes = .ok msg) :
    msg.Fits := by
  refine Returns.run' (returns_bind fun _ => returns_bind fun _ => returns_bind fun _ =>
    returns_error.bind fun _ fits => returns_pure ?_) decoded
  exact fits

end ProxyResponse

namespace ProxyData

def Fits (msg : ProxyData) : Prop := msg.data.length < 2 ^ 32

theorem reads_item (fits : item.Fits) : Reads readItem (encodeItem item) item :=
  (reads_u64 item.connectionId).bind ((reads_flag item.close).bind
    ((reads_number fits).bind ((reads_exactly rfl).return _)))

theorem returns_item : Returns Fits readItem := by
  refine returns_bind fun _ => returns_bind fun _ => returns_withLength fun _ fits => returns_pure ?_
  exact fits

theorem decode_encode (fits : msg.Fits) : decodeProxyData (encodeProxyData msg) = .ok msg :=
  Reads.run' ((reads_type _).bind (reads_item fits))

theorem fits_of_decode (decoded : decodeProxyData bytes = .ok msg) : msg.Fits :=
  Returns.run' (returns_bind fun _ => returns_item) decoded

end ProxyData

namespace ProxyDataBatch

def Fits (batch : ProxyDataBatch) : Prop := batch.items.length < 65536 ∧ ∀ item ∈ batch.items, item.Fits

theorem decode_encode (fits : batch.Fits) :
    decodeProxyDataBatch (encodeProxyDataBatch batch) = .ok batch :=
  Reads.run' ((reads_type _).bind ((reads_number fits.1).bind
    ((reads_times fun item listed => ProxyData.reads_item (fits.2 item listed)).return _)))

theorem fits_of_decode (decoded : decodeProxyDataBatch bytes = .ok batch) :
    batch.Fits :=
  Returns.run' (returns_bind fun _ => (returns_number _ 2).bind fun count fits =>
    (returns_times ProxyData.returns_item count).bind fun _ counted =>
      returns_pure ⟨Nat.lt_of_le_of_lt (Nat.le_of_eq counted.1) fits, counted.2⟩) decoded

end ProxyDataBatch

section ratchet

def RatchetFits (msg : RatchetMessage) : Prop := msg.ciphertext.length ≤ maxCiphertextLen

theorem reads_key (key : Option Crypto.PublicKey) : Reads readKey (encodeKey key) key := by
  cases key with
  | none => exact (reads_flag false).finish (reads_pure none)
  | some key => exact (reads_flag true).bind ((reads_array key).return some)

theorem reads_ciphertext (fits : ciphertext.length ≤ maxCiphertextLen) :
    Reads readCiphertext (withLength 4 ciphertext) ciphertext := by
  have short : ciphertext.length < 256 ^ 4 := Nat.lt_of_le_of_lt fits (by decide)
  refine (reads_number short).bind ?_
  rw [if_neg (Nat.not_lt.mpr fits)]
  exact reads_exactly rfl

theorem returns_ciphertext : Returns (fun bytes => bytes.length ≤ maxCiphertextLen) readCiphertext := by
  refine returns_bind fun length => ?_
  split
  · exact returns_throw_bind _
  · rename_i fits
    exact (returns_exactly _ length).mono fun bytes sized => sized ▸ Nat.le_of_not_lt fits

theorem decode_encode_ratchet (fits : RatchetFits msg) :
    decodeRatchetMessage (encodeRatchetMessage msg) = .ok msg :=
  Reads.run' ((reads_type _).bind ((reads_key msg.header.dhPublic).bind ((reads_u32 msg.header.messageNumber).bind
    ((reads_u32 msg.header.previousChainLength).bind ((reads_byte msg.header.payloadType).bind
    ((reads_array msg.nonce).bind ((reads_ciphertext fits).return _)))))))

theorem ratchetFits_of_decode (decoded : decodeRatchetMessage bytes = .ok msg) :
    RatchetFits msg := by
  refine Returns.run' (returns_bind fun _ => returns_bind fun _ => returns_bind fun _ => returns_bind fun _ =>
    returns_bind fun _ => returns_bind fun _ => returns_ciphertext.bind fun _ fits => returns_pure ?_) decoded
  exact fits

end ratchet

namespace DnsQuery

def Fits (msg : DnsQuery) : Prop := (asBytes msg.domain).length < 256

theorem decode_encode (fits : msg.Fits) : decodeDnsQuery (encodeDnsQuery msg) = .ok msg :=
  Reads.run' ((reads_type _).bind ((reads_u64 msg.queryId).bind ((reads_u16 msg.queryType).bind
    ((reads_number fits).bind ((reads_exactly rfl).finish ((reads_text msg.domain).return _))))))

theorem fits_of_decode (decoded : decodeDnsQuery bytes = .ok msg) : msg.Fits := by
  refine Returns.run' (returns_bind fun _ => returns_bind fun _ => returns_bind fun _ =>
    returns_withLength fun bytes fits => (returns_text _ bytes).bind fun domain same => returns_pure ?_) decoded
  exact Nat.lt_of_le_of_lt (Nat.le_of_eq (congrArg List.length same)) fits

end DnsQuery

namespace DnsResponse

def Fits (msg : DnsResponse) : Prop :=
  msg.ipv4Addrs.length < 256 ∧ msg.ipv6Addrs.length < 256 ∧ ErrorFits msg.error

theorem decode_encode (fits : msg.Fits) : decodeDnsResponse (encodeDnsResponse msg) = .ok msg :=
  Reads.run' ((reads_type _).bind ((reads_u64 msg.queryId).bind ((reads_flag msg.success).bind
    ((reads_u32 msg.ttl).bind ((reads_addresses fits.1).bind ((reads_addresses fits.2.1).bind
    ((reads_error fits.2.2).return _)))))))

theorem fits_of_decode (decoded : decodeDnsResponse bytes = .ok msg) : msg.Fits :=
  Returns.run' (returns_bind fun _ => returns_bind fun _ => returns_bind fun _ => returns_bind fun _ =>
    returns_addresses.bind fun _ ipv4 => returns_addresses.bind fun _ ipv6 => returns_error.bind fun _ error =>
      returns_pure ⟨ipv4, ipv6, error⟩) decoded

end DnsResponse

inductive Message where
  | proxyConnect (msg : ProxyConnect)
  | proxyResponse (msg : ProxyResponse)
  | proxyData (msg : ProxyData)
  | proxyDataBatch (batch : ProxyDataBatch)
  | ratchetMessage (msg : RatchetMessage)
  | dnsQuery (msg : DnsQuery)
  | dnsResponse (msg : DnsResponse)
  deriving DecidableEq

namespace Message

/-- Every length is one that the format can say; an error is not empty, a ciphertext not more than is accepted. -/
def Fits : Message → Prop
  | .proxyConnect msg => msg.Fits
  | .proxyResponse msg => msg.Fits
  | .proxyData msg => msg.Fits
  | .proxyDataBatch batch => batch.Fits
  | .ratchetMessage msg => RatchetFits msg
  | .dnsQuery msg => msg.Fits
  | .dnsResponse msg => msg.Fits

def roundTrip : Message → Except String Message
  | .proxyConnect msg => (decodeProxyConnect (encodeProxyConnect msg)).map .proxyConnect
  | .proxyResponse msg => (decodeProxyResponse (encodeProxyResponse msg)).map .proxyResponse
  | .proxyData msg => (decodeProxyData (encodeProxyData msg)).map .proxyData
  | .proxyDataBatch batch => (decodeProxyDataBatch (encodeProxyDataBatch batch)).map .proxyDataBatch
  | .ratchetMessage msg => (decodeRatchetMessage (encodeRatchetMessage msg)).map .ratchetMessage
  | .dnsQuery msg => (decodeDnsQuery (encodeDnsQuery msg)).map .dnsQuery
  | .dnsResponse msg => (decodeDnsResponse (encodeDnsResponse msg)).map .dnsResponse

theorem map_eq_ok_iff {Content : Type} {decoded : Except String Content} {content : Content}
    {wrap : Content → Message} (injective : ∀ {first second}, wrap first = wrap second → first = second)
    {fits : Prop} (sound : decoded = .ok content → fits) (complete : fits → decoded = .ok content) :
    decoded.map wrap = .ok (wrap content) ↔ fits := by
  constructor
  · intro same
    apply sound
    cases decoded with
    | error failure => cases same
    | ok other => rw [injective (Except.ok.inj same)]
  · intro holds
    rw [complete holds]
    rfl

/-- The encoders return no errors, and a message is read back from its bytes exactly if it fits. -/
theorem roundTrip_eq_iff (message : Message) : message.roundTrip = .ok message ↔ message.Fits := by
  cases message with
  | proxyConnect msg => exact map_eq_ok_iff proxyConnect.inj ProxyConnect.fits_of_decode ProxyConnect.decode_encode
  | proxyResponse msg =>
    exact map_eq_ok_iff proxyResponse.inj ProxyResponse.fits_of_decode ProxyResponse.decode_encode
  | proxyData msg => exact map_eq_ok_iff proxyData.inj ProxyData.fits_of_decode ProxyData.decode_encode
  | proxyDataBatch batch =>
    exact map_eq_ok_iff proxyDataBatch.inj ProxyDataBatch.fits_of_decode ProxyDataBatch.decode_encode
  | ratchetMessage msg => exact map_eq_ok_iff ratchetMessage.inj ratchetFits_of_decode decode_encode_ratchet
  | dnsQuery msg => exact map_eq_ok_iff dnsQuery.inj DnsQuery.fits_of_decode DnsQuery.decode_encode
  | dnsResponse msg => exact map_eq_ok_iff dnsResponse.inj DnsResponse.fits_of_decode DnsResponse.decode_encode

def longHost : ProxyConnect := ⟨7, String.ofList (List.replicate 256 'a'), 443⟩

/-- Its length is cut to 0, so the host is lost, and two bytes of it are read as the port. -/
theorem long_host_lost : roundTrip (.proxyConnect longHost) = .ok (.proxyConnect ⟨7, "", 0x6161⟩) := by
  decide +kernel

end Message

end Rvpn.Protocol
