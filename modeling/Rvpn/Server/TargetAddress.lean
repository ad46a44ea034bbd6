import Mathlib.Data.FinEnum
import Rvpn.Client.ProxyRouting
import Rvpn.Server.Outbound
import Rvpn.Server.Packet

/-! The first frame of a legacy connection. An index out of bounds, by which the task would panic, is `none`. -/

namespace Rvpn.Client

open SplitTunnel (ErrorChain Text)

def encodeTargetAddress (target : Text) : Except ErrorChain Bytes :=
  match rsplitOnce ':' target with
  | none => .error ["Invalid target address format, expected host:port"]
  | some (host, portStr) =>
    match parseUnsigned 16 portStr with
    | none => .error [s!"Invalid port number: {String.ofList portStr}"]
    | some port =>
      if host.utf8.length > 255 then .error ["Hostname too long"]
      else .ok (UInt8.ofNat host.utf8.length :: (host.utf8 ++ BigEndian.encode 2 port))

end Rvpn.Client

namespace Rvpn.Server

open Client (encodeTargetAddress parseTarget parseUnsigned rsplitOnce)
open SplitTunnel (Text)

deriving instance DecidableEq for TargetAddress

/-- `String::from_utf8`. -/
def fromUtf8 (bytes : Bytes) : Option String := String.fromUTF8? bytes.toByteArray

theorem fromUtf8_utf8 (text : Text) : fromUtf8 text.utf8 = some (String.ofList text) :=
  dif_pos (show text.utf8.toByteArray.IsValidUTF8 from ⟨text, rfl⟩)

def slice (bytes : Bytes) (start count : Nat) : Option Bytes :=
  if start + count ≤ bytes.length then some ((bytes.drop start).take count) else none

def portAt (bytes : Bytes) (start : Nat) : Option UInt16 :=
  (slice bytes start 2).map fun port => UInt16.ofNat (BigEndian.decode port)

def parseTargetFormat (plaintext : Bytes) : Option (Option TargetAddress) :=
  if plaintext.length < 3 then some none
  else do
    let hostLen := (← plaintext[0]?).toNat
    if hostLen = 0 then some none
    else if hostLen > 253 then some none
    else if plaintext.length < 1 + hostLen + 2 then some none
    else
      match fromUtf8 (← slice plaintext 1 hostLen) with
      | none => some none
      | some host => return some ⟨host, ← portAt plaintext (1 + hostLen), .tcp⟩

def protocolOf (number : UInt8) : ProtocolType := if number = 17 then .udp else .tcp

def parseIpPacketForDestination (plaintext : Bytes) : Option (Option TargetAddress) :=
  if plaintext.length < 20 then some none
  else do
    let first : UInt8 ← plaintext[0]?
    if first >>> 4 = 4 then
      let ihl := (first &&& 0x0F).toNat
      if ihl < 5 ∨ plaintext.length < ihl * 4 + 4 then some none
      else
        let protocol ← plaintext[9]?
        let octets ← slice plaintext 16 4
        return some ⟨ipv4Text octets, ← portAt plaintext (ihl * 4 + 2), protocolOf protocol⟩
    else if first >>> 4 = 6 ∧ 40 ≤ plaintext.length then
      let nextHeader ← plaintext[6]?
      let octets ← slice plaintext 24 16
      return some ⟨ipv6Text octets, ← portAt plaintext 42, protocolOf nextHeader⟩
    else some none

/-- What `read_target_address` makes of the first frame. -/
def targetOf (plaintext : Bytes) : Option (Except String TargetAddress) := do
  match ← parseTargetFormat plaintext with
  | some target => return .ok target
  | none =>
    match ← parseIpPacketForDestination plaintext with
    | some target => return .ok target
    | none => return .error "Invalid target address format"

theorem slice_of_le (within : start + count ≤ bytes.length) :
    slice bytes start count = some ((bytes.drop start).take count) := if_pos within

theorem portAt_of_le (within : start + 2 ≤ bytes.length) :
    portAt bytes start = some (UInt16.ofNat (BigEndian.decode ((bytes.drop start).take 2))) := by
  rw [portAt, slice_of_le within]
  rfl

theorem parseTargetFormat_isSome (plaintext : Bytes) : (parseTargetFormat plaintext).isSome = true := by
  cases plaintext with
  | nil => rfl
  | cons first rest =>
    simp only [parseTargetFormat, List.getElem?_cons_zero, bind, Option.bind_some]
    split
    · rfl
    · split
      · rfl
      · split
        · rfl
        · split
          · rfl
          · rw [slice_of_le (by omega), portAt_of_le (by omega), Option.bind_some]
            split <;> rfl

theorem large_of_version_six : ∀ first : UInt8, first >>> 4 = 6 → 96 ≤ first.toNat := by decide +kernel

theorem parseTargetFormat_of_version_six {first : UInt8} (six : first >>> 4 = 6) (short : (first :: rest).length < 44) :
    parseTargetFormat (first :: rest) = some none := by
  have large := large_of_version_six first six
  simp only [parseTargetFormat, List.getElem?_cons_zero, bind, Option.bind_some]
  split
  · rfl
  · rw [if_neg (by omega)]
    split
    · rfl
    · rw [if_pos (by omega)]

theorem parseIpPacket_isSome_iff (first : UInt8) (rest : Bytes) :
    (parseIpPacketForDestination (first :: rest)).isSome ↔
      ¬ (first >>> 4 = 6 ∧ 40 ≤ (first :: rest).length ∧ (first :: rest).length < 44) := by
  generalize whole : first :: rest = plaintext
  have head : plaintext[0]? = some first := by rw [← whole]; rfl
  simp only [parseIpPacketForDestination, head, bind, Option.bind_some]
  split
  · exact iff_of_true rfl (by omega)
  · split
    · rename_i four
      have notSix : ¬ first >>> 4 = 6 := by rw [four]; decide
      refine iff_of_true ?_ (by simp [notSix])
      split
      · rfl
      · rw [List.getElem?_eq_getElem (by omega), slice_of_le (by omega), portAt_of_le (by omega)]
        rfl
    · split
      · rename_i six
        rw [List.getElem?_eq_getElem (by omega), slice_of_le (by omega)]
        simp only [Option.bind_some]
        by_cases ports : 44 ≤ plaintext.length
        · rw [portAt_of_le (by omega)]
          exact iff_of_true rfl (by omega)
        · rw [portAt, slice, if_neg (by omega)]
          exact iff_of_false (by simp) (fun short => short ⟨six.1, six.2, by omega⟩)
      · exact iff_of_true rfl (by tauto)

theorem targetOf_isSome_iff (plaintext : Bytes) :
    (targetOf plaintext).isSome ↔
      ¬ (plaintext.headD 0 >>> 4 = 6 ∧ 40 ≤ plaintext.length ∧ plaintext.length < 44) := by
  cases plaintext with
  | nil => exact iff_of_true rfl (by simp)
  | cons first rest =>
    obtain ⟨result, format⟩ := Option.isSome_iff_exists.mp (parseTargetFormat_isSome (first :: rest))
    rw [targetOf, format]
    cases result with
    | some target =>
      refine iff_of_true rfl ?_
      rintro ⟨six, -, short⟩
      rw [List.headD_cons] at six
      rw [parseTargetFormat_of_version_six six short] at format
      cases format
    | none =>
      rw [List.headD_cons, ← parseIpPacket_isSome_iff]
      cases parseIpPacketForDestination (first :: rest) with
      | none => rfl
      | some packet => cases packet <;> exact iff_of_true rfl rfl

theorem targetOf_encoded {host : Text} {port : Nat} (small : host.utf8.length ≤ 255) (fits : port < 2 ^ 16) :
    targetOf (UInt8.ofNat host.utf8.length :: (host.utf8 ++ BigEndian.encode 2 port)) =
        some (.ok ⟨String.ofList host, .ofNat port, .tcp⟩) ↔
      0 < host.utf8.length ∧ host.utf8.length ≤ 253 := by
  have first : (UInt8.ofNat host.utf8.length).toNat = host.utf8.length := Nat.mod_eq_of_lt (by omega)
  have size : (UInt8.ofNat host.utf8.length :: (host.utf8 ++ BigEndian.encode 2 port)).length =
      host.utf8.length + 3 := by simp
  by_cases usual : 0 < host.utf8.length ∧ host.utf8.length ≤ 253
  · refine iff_of_true ?_ usual
    have format : parseTargetFormat (UInt8.ofNat host.utf8.length :: (host.utf8 ++ BigEndian.encode 2 port)) =
        some (some ⟨String.ofList host, .ofNat port, .tcp⟩) := by
      have host' : ((UInt8.ofNat host.utf8.length :: (host.utf8 ++ BigEndian.encode 2 port)).drop 1).take
          host.utf8.length = host.utf8 := List.take_left
      have port' : ((UInt8.ofNat host.utf8.length :: (host.utf8 ++ BigEndian.encode 2 port)).drop
          (1 + host.utf8.length)).take 2 = BigEndian.encode 2 port := by
        rw [← List.drop_drop, List.drop_one, List.tail_cons, List.drop_left]
        exact List.take_of_length_le (by simp)
      simp only [parseTargetFormat, List.getElem?_cons_zero, bind, Option.bind_some, first]
      rw [if_neg (by omega), if_neg (by omega), if_neg (by omega), if_neg (by omega), slice_of_le (by omega),
        portAt_of_le (by omega), host', port', Option.bind_some, fromUtf8_utf8, BigEndian.decode_encode (by omega)]
      rfl
    rw [targetOf, format]
    rfl
  · refine iff_of_false ?_ usual
    have version : ∀ byte : UInt8, 254 ≤ byte.toNat → byte >>> 4 = 15 := by decide +kernel
    have format : parseTargetFormat (UInt8.ofNat host.utf8.length :: (host.utf8 ++ BigEndian.encode 2 port)) =
        some none := by
      simp only [parseTargetFormat, List.getElem?_cons_zero, bind, Option.bind_some, first]
      rw [if_neg (by omega)]
      split
      · rfl
      · exact if_pos (by omega)
    have packet : parseIpPacketForDestination
        (UInt8.ofNat host.utf8.length :: (host.utf8 ++ BigEndian.encode 2 port)) = some none := by
      simp only [parseIpPacketForDestination, List.getElem?_cons_zero, bind, Option.bind_some]
      split
      · rfl
      · rw [version _ (by omega)]
        rfl
    rw [targetOf, format]
    simp [packet]

/-- A target that the client encodes is read as such exactly if its host has from 1 to 253 bytes, and the reader stays
within its bounds exactly unless the bytes are the beginning of an IPv6 packet that ends before the ports. -/
theorem target_format_iff (target : Text) (encoded plaintext : Bytes)
    (accepted : encodeTargetAddress target = .ok encoded) :
    (∃ address, parseTarget target = .ok address ∧
      (targetOf encoded = some (.ok ⟨String.ofList address.host, address.port, .tcp⟩) ↔
        0 < address.host.utf8.length ∧ address.host.utf8.length ≤ 253)) ∧
      ((targetOf plaintext).isSome ↔
        ¬ (plaintext.headD 0 >>> 4 = 6 ∧ 40 ≤ plaintext.length ∧ plaintext.length < 44)) := by
  refine ⟨?_, targetOf_isSome_iff plaintext⟩
  unfold encodeTargetAddress at accepted
  split at accepted
  · cases accepted
  · rename_i host portStr split
    split at accepted
    · cases accepted
    · rename_i port digits
      split at accepted
      · cases accepted
      · rename_i small
        cases accepted
        have fits : port < 2 ^ 16 := by
          obtain ⟨⟨-, -, fits⟩, same⟩ := Option.ite_none_right_eq_some.mp digits
          exact Option.some.inj same ▸ fits
        exact ⟨⟨host, .ofNat port⟩, by simp [parseTarget, split, digits], targetOf_encoded (by omega) fits⟩

/-- A host of one letter. -/
theorem single_letter_host_read :
    encodeTargetAddress "a:80".toList = .ok [1, 97, 0, 80] ∧
      ∃ address, parseTarget "a:80".toList = .ok address ∧
        (targetOf [1, 97, 0, 80] = some (.ok ⟨String.ofList address.host, address.port, .tcp⟩) ↔
          0 < address.host.utf8.length ∧ address.host.utf8.length ≤ 253) :=
  have accepted : encodeTargetAddress "a:80".toList = .ok [1, 97, 0, 80] := by decide
  ⟨accepted, (target_format_iff _ _ [] accepted).1⟩

/-- A target without a host is encoded and refused, and 40 bytes of an IPv6 packet have no ports to read. -/
theorem target_refused_and_packet_out_of_bounds :
    encodeTargetAddress ":80".toList = .ok [0, 0, 80] ∧
      targetOf [0, 0, 80] = some (.error "Invalid target address format") ∧
      targetOf (0x60 :: List.replicate 39 0) = none := by
  decide +kernel

end Rvpn.Server
