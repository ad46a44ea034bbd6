import Rvpn.Lib.BigEndian
import Rvpn.Lib.Splice
import Rvpn.Server.Packet

/-! `nat_rewrite.rs`: the address of a session is put into a packet in place, and the checksums that
cover it are updated by the difference. -/

namespace Rvpn.Mobile

open Splice (splice window)

/-- `while sum >> 16 != 0`: the carry is added back in. -/
def foldCarries : Nat → Nat → Nat
  | 0, sum => sum
  | fuel + 1, sum => if sum / 65536 = 0 then sum else foldCarries fuel (sum % 65536 + sum / 65536)

/-- `rfc1624_update` on 16-bit checksums and 32-bit words. -/
def rfc1624Update (oldCsum oldWord newWord : Nat) : Nat :=
  let sum := (65535 - oldCsum) + (65535 - oldWord / 65536) + (65535 - oldWord % 65536) + newWord / 65536 +
    newWord % 65536
  65535 - foldCarries sum sum

inductive AddrSlot where
  | source | destination
  deriving DecidableEq

def AddrSlot.offset : AddrSlot → Nat
  | .source => 12
  | .destination => 16

theorem AddrSlot.offset_le (slot : AddrSlot) : slot.offset + 4 ≤ 20 := by cases slot <;> decide

def field (offset width : Nat) (packet : Bytes) : Nat := BigEndian.decode (window offset width packet)

def checksumOffset (ihl : Nat) (packet : Bytes) : Option Nat :=
  -- Only the first fragment has the transport header.
  if field 6 2 packet % 8192 ≠ 0 then none
  else
    let proto := packet.getD 9 0
    let offset := if proto = 6 then some (ihl + 16) else if proto = 17 then some (ihl + 6) else none
    offset.filter fun offset =>
      offset + 2 ≤ packet.length && !(proto = 17 && field offset 2 packet = 0)

def transportChecksum (proto : UInt8) (csum : Nat) : Nat := if proto = 17 ∧ csum = 0 then 65535 else csum

def updateTransport (ihl old new : Nat) (packet : Bytes) : Bytes :=
  match checksumOffset ihl packet with
  | none => packet
  | some offset =>
    let csum := transportChecksum (packet.getD 9 0) (rfc1624Update (field offset 2 packet) old new)
    splice offset (BigEndian.encode 2 csum) packet

def updateHeader (old new : Nat) (packet : Bytes) : Bytes :=
  splice 10 (BigEndian.encode 2 (rfc1624Update (field 10 2 packet) old new)) packet

def rewriteAddr (packet : Bytes) (address : Vector UInt8 4) (slot : AddrSlot) : Option Bytes :=
  if packet.length < 20 ∨ packet.headD 0 >>> 4 ≠ 4 then none
  else
    let ihl := (packet.headD 0 &&& 0x0f).toNat * 4
    if ihl < 20 ∨ packet.length < ihl then none
    else
      let old := field slot.offset 4 packet
      let new := BigEndian.decode address.toList
      if old = new then some packet
      else some (updateTransport ihl old new (updateHeader old new (splice slot.offset address.toList packet)))

def rewriteSrcIp (packet : Bytes) (address : Vector UInt8 4) : Option Bytes := rewriteAddr packet address .source

def rewriteDstIp (packet : Bytes) (address : Vector UInt8 4) : Option Bytes := rewriteAddr packet address .destination

section transport

variable {ihl old new i : Nat} {packet : Bytes}

theorem checksumOffset_bounds (found : checksumOffset ihl packet = some offset) :
    ihl + 6 ≤ offset ∧ offset + 2 ≤ packet.length := by
  unfold checksumOffset at found
  split at found
  · cases found
  · obtain ⟨inside, kept⟩ := Option.filter_eq_some_iff.mp found
    simp only [Bool.and_eq_true, decide_eq_true_eq] at kept
    refine ⟨?_, kept.1⟩
    split at inside
    · cases inside
      omega
    · split at inside
      · cases inside
        omega
      · cases inside

theorem updateTransport_header (before : i < ihl) : (updateTransport ihl old new packet)[i]? = packet[i]? := by
  unfold updateTransport
  split
  · rfl
  · rename_i offset found
    have bounds := checksumOffset_bounds found
    refine Splice.getElem?_splice_of_outside ?_ (.inl (by omega))
    rw [BigEndian.length_encode]
    exact bounds.2

theorem length_updateTransport : (updateTransport ihl old new packet).length = packet.length := by
  unfold updateTransport
  split
  · rfl
  · rename_i offset found
    refine Splice.length_splice ?_
    rw [BigEndian.length_encode]
    exact (checksumOffset_bounds found).2

theorem updateHeader_outside (long : 20 ≤ packet.length) (outside : i < 10 ∨ 12 ≤ i) :
    (updateHeader old new packet)[i]? = packet[i]? := by
  refine Splice.getElem?_splice_of_outside ?_ ?_
  · rw [BigEndian.length_encode]
    omega
  · rwa [BigEndian.length_encode]

theorem length_updateHeader (long : 20 ≤ packet.length) : (updateHeader old new packet).length = packet.length := by
  refine Splice.length_splice ?_
  rw [BigEndian.length_encode]
  omega

end transport

variable {packet rewritten : Bytes} {address : Vector UInt8 4} {slot : AddrSlot}

theorem rewriteAddr_eq_some (done : rewriteAddr packet address slot = some rewritten) :
    20 ≤ packet.length ∧ packet.headD 0 >>> 4 = 4 ∧ ∃ ihl, 20 ≤ ihl ∧
      (window slot.offset 4 packet = address.toList ∧ rewritten = packet ∨ ∃ old new,
        rewritten = updateTransport ihl old new (updateHeader old new (splice slot.offset address.toList packet))) := by
  unfold rewriteAddr at done
  split at done
  · cases done
  · rename_i usable
    dsimp only at done
    split at done
    · cases done
    · rename_i whole
      simp only [not_or, Nat.not_lt, ne_eq, not_not] at usable whole
      refine ⟨usable.1, usable.2, _, whole.1, ?_⟩
      split at done
      · rename_i same
        cases done
        have inside : slot.offset + 4 ≤ packet.length := Nat.le_trans slot.offset_le usable.1
        refine .inl ⟨(BigEndian.decode_inj ?_).mp same, rfl⟩
        rw [Splice.length_window inside, Vector.length_toList]
      · cases done
        exact .inr ⟨_, _, rfl⟩

theorem address_fits (slot : AddrSlot) (address : Vector UInt8 4) (long : 20 ≤ packet.length) :
    slot.offset + address.toList.length ≤ packet.length := by
  rw [Vector.length_toList]
  exact Nat.le_trans slot.offset_le long

theorem length_rewriteAddr (done : rewriteAddr packet address slot = some rewritten) :
    rewritten.length = packet.length := by
  obtain ⟨long, -, ihl, -, ⟨-, rfl⟩ | ⟨old, new, rfl⟩⟩ := rewriteAddr_eq_some done
  · rfl
  · have kept := Splice.length_splice (address_fits slot address long)
    rw [length_updateTransport, length_updateHeader (kept ▸ long), kept]

theorem getElem?_rewriteAddr (done : rewriteAddr packet address slot = some rewritten) (header : i < 20)
    (outside : i < 10 ∨ 12 ≤ i) :
    rewritten[i]? = if slot.offset ≤ i ∧ i < slot.offset + 4 then address.toList[i - slot.offset]? else packet[i]? := by
  obtain ⟨long, -, ihl, whole, ⟨same, rfl⟩ | ⟨old, new, rfl⟩⟩ := rewriteAddr_eq_some done
  · split
    · rename_i inside
      rw [← same, Splice.getElem?_window (by omega)]
      congr 1
      omega
    · rfl
  · have fits := address_fits slot address long
    have kept : 20 ≤ (splice slot.offset address.toList packet).length := Splice.length_splice fits ▸ long
    rw [updateTransport_header (by omega), updateHeader_outside kept outside, Splice.getElem?_splice fits,
      Vector.length_toList]

/-- The address that `rewrite_src_ip` was given is the source address of the packet. -/
theorem sourceOf_rewriteSrcIp (done : rewriteSrcIp packet address = some rewritten) :
    Server.sourceOf rewritten = some (.v4 address) := by
  obtain ⟨long, version, -⟩ := rewriteAddr_eq_some done
  have first : rewritten.headD 0 = packet.headD 0 := by
    have same := getElem?_rewriteAddr done (i := 0) (by decide) (.inl (by decide))
    rw [if_neg (by decide), ← List.head?_eq_getElem?, ← List.head?_eq_getElem?] at same
    rw [List.headD_eq_head?_getD, same, List.headD_eq_head?_getD]
  have source (i : Fin 4) : rewritten.getD (12 + i) 0 = address[i] := by
    have cell := getElem?_rewriteAddr done (i := 12 + i) (by omega) (.inr (by omega))
    rw [if_pos ⟨Nat.le_add_right .., by show _ < 12 + 4; omega⟩] at cell
    rw [List.getD_eq_getElem?_getD, cell]
    simp [AddrSlot.offset]
  unfold Server.sourceOf
  rw [if_neg (by rw [length_rewriteAddr done]; omega), first, if_pos version]
  congr 2
  apply Vector.ext
  intro i inside
  rw [Vector.getElem_ofFn]
  exact source ⟨i, inside⟩

end Rvpn.Mobile
