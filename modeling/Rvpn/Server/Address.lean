import Mathlib.Algebra.Group.Nat.Defs
import Mathlib.Data.List.Basic

/-! Addresses, and the filter that the server puts before every outbound connection. -/

namespace Rvpn.Server

/-- Milliseconds of the monotonic clock. -/
abbrev Instant := Nat

inductive IpAddr where
  | v4 (octets : Vector UInt8 4)
  | v6 (segments : Vector UInt16 8)
  deriving DecidableEq, Repr

structure SocketAddr where
  ip : IpAddr
  port : UInt16
  deriving DecidableEq, Repr

namespace IpAddr

def toNat : IpAddr → Nat
  | .v4 octets => octets.toList.foldl (fun bits octet => bits * 256 + octet.toNat) 0
  | .v6 segments => segments.toList.foldl (fun bits segment => bits * 65536 + segment.toNat) 0

def width : IpAddr → Nat
  | .v4 _ => 32
  | .v6 _ => 128

def isV4 : IpAddr → Bool
  | .v4 _ => true
  | .v6 _ => false

end IpAddr

/-- `IpNetwork`: an address and the length of the part that names the network. -/
structure IpNetwork where
  ip : IpAddr
  length : Nat
  fits : length ≤ ip.width

def IpNetwork.contains (network : IpNetwork) (addr : IpAddr) : Bool :=
  network.ip.isV4 == addr.isV4 &&
    addr.toNat / 2 ^ (addr.width - network.length) == network.ip.toNat / 2 ^ (addr.width - network.length)

namespace Ipv4

def isLoopback (octets : Vector UInt8 4) : Bool := octets[0] == 127

def isPrivate (octets : Vector UInt8 4) : Bool :=
  octets[0] == 10 || octets[0] == 172 && octets[1] ≥ 16 && octets[1] ≤ 31 ||
    octets[0] == 192 && octets[1] == 168

def isLinkLocal (octets : Vector UInt8 4) : Bool := octets[0] == 169 && octets[1] == 254

def isMulticast (octets : Vector UInt8 4) : Bool := octets[0] ≥ 224 && octets[0] ≤ 239

def isUnspecified (octets : Vector UInt8 4) : Bool := octets == #v[0, 0, 0, 0]

/-- The address `i` further on; the last octet wraps. -/
def offset (octets : Vector UInt8 4) (i : Nat) : Vector UInt8 4 :=
  #v[octets[0], octets[1], octets[2], octets[3] + UInt8.ofNat i]

theorem offset_inj {octets : Vector UInt8 4} {i j : Nat} (small : i < 256) (smallToo : j < 256)
    (same : offset octets i = offset octets j) : i = j := by
  have octet : octets[3] + UInt8.ofNat i = octets[3] + UInt8.ofNat j := by
    simpa [offset] using same
  have number := congrArg UInt8.toNat ((UInt8.add_right_inj _).mp octet)
  simpa [Nat.mod_eq_of_lt small, Nat.mod_eq_of_lt smallToo] using number

end Ipv4

namespace Ipv6

def isLoopback (segments : Vector UInt16 8) : Bool := segments == #v[0, 0, 0, 0, 0, 0, 0, 1]

def isMulticast (segments : Vector UInt16 8) : Bool := segments[0] &&& 0xff00 == 0xff00

def isUnspecified (segments : Vector UInt16 8) : Bool := segments == #v[0, 0, 0, 0, 0, 0, 0, 0]

/-- `to_ipv4_mapped`: the last 32 bits of an address in `::ffff:0:0/96`. -/
def toIpv4Mapped (segments : Vector UInt16 8) : Option (Vector UInt8 4) :=
  if segments.take 6 == #v[0, 0, 0, 0, 0, 0xffff] then
    some #v[(segments[6] >>> 8).toUInt8, segments[6].toUInt8, (segments[7] >>> 8).toUInt8, segments[7].toUInt8]
  else none

end Ipv6

def isAllowed (allowed : Option IpNetwork) (addr : IpAddr) : Bool :=
  allowed.any fun network => network.contains addr

/-- `should_block_address` for an IPv4 address. -/
def shouldBlockV4 (allowed : Option IpNetwork) (octets : Vector UInt8 4) : Bool :=
  if isAllowed allowed (.v4 octets) then false
  else Ipv4.isLoopback octets || Ipv4.isPrivate octets || Ipv4.isLinkLocal octets ||
    Ipv4.isMulticast octets || Ipv4.isUnspecified octets

/-- `should_block_address`; `allowed` is what `allowed_cidr` parses to. -/
def shouldBlockAddress (allowed : Option IpNetwork) : IpAddr → Bool
  | .v4 octets => shouldBlockV4 allowed octets
  | .v6 segments =>
    if isAllowed allowed (.v6 segments) then false
    else if Ipv6.isLoopback segments then true
    -- fc00::/7 and fe80::/10
    else if segments[0] &&& 0xfe00 == 0xfc00 then true
    else if segments[0] &&& 0xffc0 == 0xfe80 then true
    else if Ipv6.isMulticast segments then true
    else if Ipv6.isUnspecified segments then true
    else match Ipv6.toIpv4Mapped segments with
      | some octets => shouldBlockV4 allowed octets
      | none => false

def protectedNetworks : List IpNetwork :=
  [ -- loopback
    ⟨.v4 #v[127, 0, 0, 0], 8, by decide⟩, ⟨.v6 #v[0, 0, 0, 0, 0, 0, 0, 1], 128, by decide⟩,
    -- private
    ⟨.v4 #v[10, 0, 0, 0], 8, by decide⟩, ⟨.v4 #v[172, 16, 0, 0], 12, by decide⟩,
    ⟨.v4 #v[192, 168, 0, 0], 16, by decide⟩, ⟨.v6 #v[0xfc00, 0, 0, 0, 0, 0, 0, 0], 7, by decide⟩,
    -- link-local
    ⟨.v4 #v[169, 254, 0, 0], 16, by decide⟩, ⟨.v6 #v[0xfe80, 0, 0, 0, 0, 0, 0, 0], 10, by decide⟩,
    -- multicast
    ⟨.v4 #v[224, 0, 0, 0], 4, by decide⟩, ⟨.v6 #v[0xff00, 0, 0, 0, 0, 0, 0, 0], 8, by decide⟩,
    -- unspecified
    ⟨.v4 #v[0, 0, 0, 0], 32, by decide⟩, ⟨.v6 #v[0, 0, 0, 0, 0, 0, 0, 0], 128, by decide⟩ ]

def Protected (addr : IpAddr) : Prop := ∃ network ∈ protectedNetworks, network.contains addr = true

instance (addr : IpAddr) : Decidable (Protected addr) := inferInstanceAs (Decidable (∃ _ ∈ _, _))

def forms : IpAddr → List IpAddr
  | .v4 octets => [.v4 octets]
  | .v6 segments => .v6 segments :: ((Ipv6.toIpv4Mapped segments).map .v4).toList

def Permitted (tunNetwork : Option IpNetwork) (addr : IpAddr) : Prop :=
  (∃ form ∈ forms addr, Protected form) → ∃ form ∈ forms addr, isAllowed tunNetwork form = true

section filter

theorem toNat_v4 (octets : Vector UInt8 4) : (IpAddr.v4 octets).toNat =
    ((octets[0].toNat * 256 + octets[1].toNat) * 256 + octets[2].toNat) * 256 + octets[3].toNat := by
  obtain ⟨⟨parts⟩, size⟩ := octets
  match parts, size with
  | [a, b, c, d], _ => simp [IpAddr.toNat]

theorem toNat_v6 (segments : Vector UInt16 8) : (IpAddr.v6 segments).toNat =
    ((((((segments[0].toNat * 65536 + segments[1].toNat) * 65536 + segments[2].toNat) * 65536 +
      segments[3].toNat) * 65536 + segments[4].toNat) * 65536 + segments[5].toNat) * 65536 +
      segments[6].toNat) * 65536 + segments[7].toNat := by
  obtain ⟨⟨parts⟩, size⟩ := segments
  match parts, size with
  | [a, b, c, d, e, f, g, h], _ => simp [IpAddr.toNat]

theorem contains_v4 {network octets : Vector UInt8 4} {length : Nat} {fits} :
    (IpNetwork.mk (.v4 network) length fits).contains (.v4 octets) = true ↔
      (IpAddr.v4 octets).toNat / 2 ^ (32 - length) = (IpAddr.v4 network).toNat / 2 ^ (32 - length) := by
  simp [IpNetwork.contains, IpAddr.isV4, IpAddr.width]

theorem contains_v6 {network segments : Vector UInt16 8} {length : Nat} {fits} :
    (IpNetwork.mk (.v6 network) length fits).contains (.v6 segments) = true ↔
      (IpAddr.v6 segments).toNat / 2 ^ (128 - length) = (IpAddr.v6 network).toNat / 2 ^ (128 - length) := by
  simp [IpNetwork.contains, IpAddr.isV4, IpAddr.width]

theorem contains_v4_v6 {network : Vector UInt8 4} {segments : Vector UInt16 8} {length : Nat} {fits} :
    (IpNetwork.mk (.v4 network) length fits).contains (.v6 segments) = false := by
  simp [IpNetwork.contains, IpAddr.isV4]

theorem contains_v6_v4 {network : Vector UInt16 8} {octets : Vector UInt8 4} {length : Nat} {fits} :
    (IpNetwork.mk (.v6 network) length fits).contains (.v4 octets) = false := by
  simp [IpNetwork.contains, IpAddr.isV4]

variable (octets : Vector UInt8 4)

theorem isLoopback_iff : Ipv4.isLoopback octets = true ↔ (IpAddr.v4 octets).toNat / 2 ^ 24 = 127 := by
  have := octets[1].toNat_lt; have := octets[2].toNat_lt; have := octets[3].toNat_lt
  rw [toNat_v4, Ipv4.isLoopback]
  simp only [beq_iff_eq, ← UInt8.toNat_inj, UInt8.toNat_ofNat]
  omega

theorem isPrivate_iff : Ipv4.isPrivate octets = true ↔ (IpAddr.v4 octets).toNat / 2 ^ 24 = 10 ∨
    (IpAddr.v4 octets).toNat / 2 ^ 20 = 172 * 16 + 1 ∨ (IpAddr.v4 octets).toNat / 2 ^ 16 = 192 * 256 + 168 := by
  have := octets[1].toNat_lt; have := octets[2].toNat_lt; have := octets[3].toNat_lt
  rw [toNat_v4, Ipv4.isPrivate]
  simp only [Bool.or_eq_true, Bool.and_eq_true, beq_iff_eq, decide_eq_true_eq, ← UInt8.toNat_inj,
    UInt8.le_iff_toNat_le, UInt8.toNat_ofNat, ge_iff_le]
  omega

theorem isLinkLocal_iff : Ipv4.isLinkLocal octets = true ↔
    (IpAddr.v4 octets).toNat / 2 ^ 16 = 169 * 256 + 254 := by
  have := octets[1].toNat_lt; have := octets[2].toNat_lt; have := octets[3].toNat_lt
  rw [toNat_v4, Ipv4.isLinkLocal]
  simp only [Bool.and_eq_true, beq_iff_eq, ← UInt8.toNat_inj, UInt8.toNat_ofNat]
  omega

theorem isMulticast_iff : Ipv4.isMulticast octets = true ↔ (IpAddr.v4 octets).toNat / 2 ^ 28 = 14 := by
  have := octets[1].toNat_lt; have := octets[2].toNat_lt; have := octets[3].toNat_lt
  rw [toNat_v4, Ipv4.isMulticast]
  simp only [Bool.and_eq_true, decide_eq_true_eq, UInt8.le_iff_toNat_le, UInt8.toNat_ofNat, ge_iff_le]
  omega

theorem isUnspecified_iff : Ipv4.isUnspecified octets = true ↔ (IpAddr.v4 octets).toNat = 0 := by
  obtain ⟨⟨parts⟩, size⟩ := octets
  match parts, size with
  | [a, b, c, d], _ =>
    simp [Ipv4.isUnspecified, IpAddr.toNat, ← UInt8.toNat_inj]
    omega

theorem protected_v4_iff : Protected (.v4 octets) ↔
    (Ipv4.isLoopback octets || Ipv4.isPrivate octets || Ipv4.isLinkLocal octets ||
      Ipv4.isMulticast octets || Ipv4.isUnspecified octets) = true := by
  simp only [Protected, protectedNetworks, List.exists_mem_cons_iff, contains_v4, contains_v6_v4, Bool.or_eq_true,
    isLoopback_iff, isPrivate_iff, isLinkLocal_iff, isMulticast_iff, isUnspecified_iff]
  simp [IpAddr.toNat, or_assoc]

theorem and_shiftLeft_mask (x j k : Nat) : x &&& (2 ^ j - 1) <<< k = x / 2 ^ k % 2 ^ j * 2 ^ k := by
  rw [← Nat.shiftLeft_eq, ← Nat.and_two_pow_sub_one_eq_mod, ← Nat.shiftRight_eq_div_pow]
  apply Nat.eq_of_testBit_eq
  intro i
  simp only [Nat.testBit_and, Nat.testBit_shiftLeft, Nat.testBit_shiftRight]
  by_cases high : k ≤ i
  · simp [high]
  · simp [high]

variable (segments : Vector UInt16 8)

theorem mask_iff {mask value : UInt16} {j k leading : Nat} (whole : j + k = 16)
    (masks : mask.toNat = (2 ^ j - 1) <<< k) (shifted : value.toNat = leading * 2 ^ k) :
    (segments[0] &&& mask == value) = true ↔ (IpAddr.v6 segments).toNat / 2 ^ (112 + k) = leading := by
  have first : (IpAddr.v6 segments).toNat / 2 ^ 112 = segments[0].toNat := by
    have := segments[1].toNat_lt; have := segments[2].toNat_lt; have := segments[3].toNat_lt
    have := segments[4].toNat_lt; have := segments[5].toNat_lt; have := segments[6].toNat_lt
    have := segments[7].toNat_lt
    rw [toNat_v6]
    omega
  have small : segments[0].toNat / 2 ^ k < 2 ^ j := by
    rw [Nat.div_lt_iff_lt_mul (Nat.two_pow_pos k), ← Nat.pow_add, whole]
    exact segments[0].toNat_lt
  rw [Nat.pow_add, ← Nat.div_div_eq_div_mul, first, beq_iff_eq, ← UInt16.toNat_inj, UInt16.toNat_and, masks,
    and_shiftLeft_mask, Nat.mod_eq_of_lt small, shifted]
  exact Nat.mul_left_inj (Nat.ne_of_gt (Nat.two_pow_pos k))

theorem isLoopback_v6_iff : Ipv6.isLoopback segments = true ↔ (IpAddr.v6 segments).toNat = 1 := by
  obtain ⟨⟨parts⟩, size⟩ := segments
  match parts, size with
  | [a, b, c, d, e, f, g, h], _ =>
    simp [Ipv6.isLoopback, IpAddr.toNat, ← UInt16.toNat_inj]
    omega

theorem isUnspecified_v6_iff : Ipv6.isUnspecified segments = true ↔ (IpAddr.v6 segments).toNat = 0 := by
  obtain ⟨⟨parts⟩, size⟩ := segments
  match parts, size with
  | [a, b, c, d, e, f, g, h], _ =>
    simp [Ipv6.isUnspecified, IpAddr.toNat, ← UInt16.toNat_inj]
    omega

theorem protected_v6_iff : Protected (.v6 segments) ↔
    Ipv6.isLoopback segments = true ∨ (segments[0] &&& 0xfe00 == 0xfc00) = true ∨
      (segments[0] &&& 0xffc0 == 0xfe80) = true ∨ Ipv6.isMulticast segments = true ∨
      Ipv6.isUnspecified segments = true := by
  have uniqueLocal := @mask_iff segments 0xfe00 0xfc00 7 9 126 rfl rfl rfl
  have linkLocal := @mask_iff segments 0xffc0 0xfe80 10 6 1018 rfl rfl rfl
  have multicast := @mask_iff segments 0xff00 0xff00 8 8 255 rfl rfl rfl
  simp only [Protected, protectedNetworks, List.exists_mem_cons_iff, contains_v4_v6, contains_v6,
    Ipv6.isMulticast, isLoopback_v6_iff, isUnspecified_v6_iff, uniqueLocal, linkLocal, multicast]
  simp [IpAddr.toNat]

theorem permitted_of_not_blocked {allowed : Option IpNetwork} {addr : IpAddr}
    (passed : shouldBlockAddress allowed addr = false) : Permitted allowed addr := by
  rintro ⟨form, presented, reserved⟩
  by_contra outside
  have foreign : ∀ other ∈ forms addr, isAllowed allowed other = false := by
    intro other listed
    by_contra inside
    exact outside ⟨other, listed, by simpa using inside⟩
  have v4 : ∀ octets, IpAddr.v4 octets ∈ forms addr → Protected (.v4 octets) →
      shouldBlockV4 allowed octets = true := by
    intro octets listed reserved
    rw [shouldBlockV4, foreign _ listed]
    simpa using (protected_v4_iff octets).mp reserved
  cases addr with
  | v4 octets =>
    obtain rfl := List.mem_singleton.mp presented
    rw [shouldBlockAddress, v4 octets presented reserved] at passed
    cases passed
  | v6 segments =>
    have direct := foreign _ List.mem_cons_self
    rcases List.mem_cons.mp presented with rfl | mapped
    · rcases (protected_v6_iff segments).mp reserved with kind | kind | kind | kind | kind <;>
        simp [shouldBlockAddress, direct, kind] at passed
    · obtain ⟨octets, found, rfl⟩ : ∃ octets, Ipv6.toIpv4Mapped segments = some octets ∧ .v4 octets = form := by
        simpa using mapped
      have blocked := v4 octets presented reserved
      simp [shouldBlockAddress, direct, found, blocked] at passed

end filter

end Rvpn.Server
