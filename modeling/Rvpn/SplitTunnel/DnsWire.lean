import Rvpn.Crypto.Primitives
import Rvpn.Lib.BigEndian
import Rvpn.SplitTunnel.Router

/-! DNS on the wire, as `dns_cache.rs` reads and writes it. -/

namespace Rvpn.SplitTunnel

open Server (IpAddr)

def Text.utf8 (text : Text) : Bytes := text.flatMap String.utf8EncodeChar

structure DnsQuery where
  queryId : UInt64
  domain : Text
  queryType : UInt16
  deriving DecidableEq

structure DnsResponse where
  queryId : UInt64
  success : Bool
  ipv4Addrs : List (Vector UInt8 4)
  ipv6Addrs : List (Vector UInt16 8)
  ttl : Nat
  error : Option String
  deriving DecidableEq

def DnsResponse.addresses (response : DnsResponse) : List IpAddr :=
  response.ipv4Addrs.map .v4 ++ response.ipv6Addrs.map .v6

namespace DnsWire

/-- The number in the bytes from `pos` on, most significant first. -/
def u16At (data : Bytes) (pos : Nat) : Nat := BigEndian.decode ((data.drop pos).take 2)

def u32At (data : Bytes) (pos : Nat) : Nat := BigEndian.decode ((data.drop pos).take 4)

def txidOf (data : Bytes) : Bytes := data.take 2

def encodeLabel (label : Text) : Bytes := UInt8.ofNat label.utf8.length :: label.utf8

def buildDnsQueryPacket (domain : Text) (txid : UInt16) : Bytes :=
  BigEndian.encode 2 txid.toNat ++
    -- flags: recursion desired; one question and no records
    [0x01, 0x00, 0x00, 0x01, 0x00, 0x00, 0x00, 0x00, 0x00, 0x00] ++
    (domain.splitOn '.').flatMap encodeLabel ++ [0x00] ++
    -- QTYPE = A, QCLASS = IN
    [0x00, 0x01, 0x00, 0x01]

/-- The loop of `skip_dns_name`. A round moves on by a byte at least, so as many rounds as there are bytes end in a
result, or beyond the data. -/
def skipLabels (data : Bytes) : Nat → Nat → Except String Nat
  | 0, _ => .error "Truncated DNS name"
  | rounds + 1, pos =>
    match data[pos]? with
    | none => .error "Truncated DNS name"
    | some len =>
      if len = 0 then .ok (pos + 1)
      -- a pointer takes two bytes
      else if len &&& 0xC0 = 0xC0 then .ok (pos + 2)
      else skipLabels data rounds (pos + 1 + len.toNat)

def skipDnsName (data : Bytes) (pos : Nat) : Except String Nat := skipLabels data (data.length + 1) pos

def skipQuestions (data : Bytes) : Nat → Nat → Except String Nat
  | 0, pos => .ok pos
  | count + 1, pos => do
    let pos ← skipDnsName data pos
    skipQuestions data count (pos + 4)

/-- The loop over the answer records, with the addresses and the least time to live so far. -/
def readAnswers (data : Bytes) : Nat → Nat → List IpAddr → Nat → Except String (List IpAddr × Nat)
  | 0, _, ips, minTtl => .ok (ips, minTtl)
  | count + 1, pos, ips, minTtl => do
    let pos ← skipDnsName data pos
    if data.length < pos + 10 then .ok (ips, minTtl)
    else
      let qtype := u16At data pos
      let ttl := u32At data (pos + 4)
      let rdlength := u16At data (pos + 8)
      let pos := pos + 10
      if qtype = 1 ∧ rdlength = 4 ∧ pos + 4 ≤ data.length then
        let ip : IpAddr := .v4 (Vector.ofFn fun i => data.getD (pos + i) 0)
        readAnswers data count (pos + rdlength) (ips ++ [ip]) (if ttl < minTtl then ttl else minTtl)
      else readAnswers data count (pos + rdlength) ips minTtl

def maxTtl : Nat := 14400

def parseDnsAResponse (data : Bytes) (expectedTxid : UInt16) : Except String (List IpAddr × Nat) :=
  if data.length < 12 then .error ("DNS response too short (" ++ toString data.length ++ " bytes)")
  else
    let txid := u16At data 0
    let flags := u16At data 2
    if txid ≠ expectedTxid.toNat then
      .error ("DNS TXID mismatch: expected " ++ toString expectedTxid.toNat ++ ", got " ++ toString txid)
    else if flags / 2 ^ 15 ≠ 1 then .error "DNS response QR bit not set"
    else if flags % 16 ≠ 0 then .error ("DNS response error: RCODE=" ++ toString (flags % 16))
    else do
      let pos ← skipQuestions data (u16At data 4) 12
      let (ips, minTtl) ← readAnswers data (u16At data 6) pos [] (2 ^ 32 - 1)
      if ips = [] then .error "No A records in DNS response" else .ok (ips, min minTtl maxTtl)

def questionSection (data : Bytes) : Option Bytes :=
  if data.length < 12 then none
  else (skipQuestions data (u16At data 4) 12).toOption.map fun pos => (data.take pos).drop 12

end DnsWire

end Rvpn.SplitTunnel
