import Rvpn.Crypto.Primitives
import Rvpn.Lib.TextCodec
import Rvpn.Server.Address

/-! What the server looks at in a packet before it writes it to the TUN device. -/

namespace Rvpn.Server

def ipv6Text (octets : Bytes) : String :=
  String.intercalate ":" ((TextCodec.chunks 2 8 octets).map fun group => String.ofList (TextCodec.hexEncode group))

def ipv4Text (octets : Bytes) : String :=
  String.intercalate "." (octets.map fun octet => toString octet.toNat)

def extractSourceIp (payload : Bytes) : Option String :=
  if payload.length < 20 then none
  else
    let version := payload.headD 0 >>> 4
    if version = 4 then some (ipv4Text ((payload.drop 12).take 4))
    else if version = 6 ∧ 40 ≤ payload.length then some (ipv6Text ((payload.drop 8).take 16))
    else none

def isPacket (payload : Bytes) : Bool := (extractSourceIp payload).isSome

@[simp] theorem isPacket_nil : isPacket [] = false := rfl

def sourceOf (payload : Bytes) : Option IpAddr :=
  if payload.length < 20 then none
  else
    let version := payload.headD 0 >>> 4
    if version = 4 then
      some (.v4 (Vector.ofFn fun i => payload.getD (12 + i) 0))
    else if version = 6 ∧ 40 ≤ payload.length then
      some (.v6 (Vector.ofFn fun i =>
        (payload.getD (8 + 2 * i) 0).toUInt16 <<< 8 ||| (payload.getD (9 + 2 * i) 0).toUInt16))
    else none

end Rvpn.Server
