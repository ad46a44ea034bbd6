import Rvpn.Server.OutboundSafety
import Rvpn.Tun.Leases

/-! The exemption of the tunnel's own subnet from the filter: what `tun_ip` exempts in the two handlers. -/

namespace Rvpn.Server

open Tun (CidrParsers parseCidr)

/-- `IpNetwork::new` of the `ip_network` crate: no network has host bits set. -/
def IpNetwork.new (ip : Vector UInt8 4) (length : UInt8) : Option IpNetwork :=
  if valid : length.toNat ≤ 32 ∧ (IpAddr.v4 ip).toNat % 2 ^ (32 - length.toNat) = 0 then
    some ⟨.v4 ip, length.toNat, valid.1⟩
  else none

/-- The address, or the IPv4 address that it maps, has the first `length` bits of `ip`. -/
def InSubnet (ip : Vector UInt8 4) (length : UInt8) (addr : IpAddr) : Prop :=
  ∃ octets, .v4 octets ∈ forms addr ∧
    (IpAddr.v4 octets).toNat / 2 ^ (32 - length.toNat) = (IpAddr.v4 ip).toNat / 2 ^ (32 - length.toNat)

/-- An address that maps an IPv4 address is blocked only as that one. -/
theorem shouldBlockAddress_of_mapped {segments : Vector UInt16 8} {octets : Vector UInt8 4}
    (mapped : Ipv6.toIpv4Mapped segments = some octets) (allowed : Option IpNetwork) :
    shouldBlockAddress allowed (.v6 segments) =
      (!isAllowed allowed (.v6 segments) && shouldBlockV4 allowed octets) := by
  have first : segments[0] = 0 ∧ segments[5] = 0xffff := by
    have read := mapped
    simp only [Ipv6.toIpv4Mapped, Option.ite_none_right_eq_some, beq_iff_eq] at read
    exact ⟨(Vector.getElem_take ..).symm.trans (congrArg (·[0]) read.1),
      (Vector.getElem_take ..).symm.trans (congrArg (·[5]) read.1)⟩
  have loopback : Ipv6.isLoopback segments = false := by
    rw [Ipv6.isLoopback, beq_eq_false_iff_ne]
    rintro rfl
    exact absurd first.2 (by decide)
  have unspecified : Ipv6.isUnspecified segments = false := by
    rw [Ipv6.isUnspecified, beq_eq_false_iff_ne]
    rintro rfl
    exact absurd first.2 (by decide)
  simp [shouldBlockAddress, mapped, loopback, unspecified, Ipv6.isMulticast, first.1]

/-- What passes the filter is what passes without an exemption, and what is exempt. -/
theorem not_blocked_iff (allowed : Option IpNetwork) (addr : IpAddr) : shouldBlockAddress allowed addr = false ↔
    shouldBlockAddress none addr = false ∨ ∃ form ∈ forms addr, isAllowed allowed form = true := by
  have nothing : ∀ form, isAllowed none form = false := fun _ => rfl
  have v4 : ∀ octets, shouldBlockV4 allowed octets = false ↔
      shouldBlockV4 none octets = false ∨ isAllowed allowed (.v4 octets) = true := by
    intro octets
    cases inside : isAllowed allowed (.v4 octets) <;> simp [shouldBlockV4, inside, nothing]
  cases addr with
  | v4 octets => simp [shouldBlockAddress, forms, v4]
  | v6 segments =>
    cases mapped : Ipv6.toIpv4Mapped segments with
    | some octets =>
      simp only [shouldBlockAddress_of_mapped mapped, forms, mapped]
      cases inside : isAllowed allowed (.v6 segments) <;> simp [v4, inside, nothing]
    | none =>
      cases inside : isAllowed allowed (.v6 segments) <;> simp [shouldBlockAddress, forms, mapped, inside, nothing]

/-- With host bits in `ip` there is no network, and so no exemption. -/
theorem passes_iff {ip : Vector UInt8 4} {length : UInt8} (fits : length.toNat ≤ 32) (addr : IpAddr) :
    shouldBlockAddress (IpNetwork.new ip length) addr = false ↔ shouldBlockAddress none addr = false ∨
      (IpAddr.v4 ip).toNat % 2 ^ (32 - length.toNat) = 0 ∧ InSubnet ip length addr := by
  rw [not_blocked_iff, IpNetwork.new]
  apply or_congr_right
  split
  · rename_i valid
    rw [and_iff_right valid.2]
    constructor
    · rintro ⟨form, listed, inside⟩
      cases form with
      | v4 octets => exact ⟨octets, listed, contains_v4.mp inside⟩
      | v6 segments => cases inside
    · rintro ⟨octets, listed, inside⟩
      exact ⟨.v4 octets, listed, contains_v4.mpr inside⟩
  · rename_i invalid
    have host : (IpAddr.v4 ip).toNat % 2 ^ (32 - length.toNat) ≠ 0 := fun plain => invalid ⟨fits, plain⟩
    simp [isAllowed, host]

theorem length_le_of_parseCidr {parsers : CidrParsers} {cidr : String} {ip : Vector UInt8 4} {length : UInt8}
    (accepted : parseCidr parsers cidr = .ok (ip, length)) : length.toNat ≤ 32 := by
  unfold parseCidr at accepted
  split at accepted
  · split at accepted
    · cases accepted
    · cases accepted
    · split at accepted
      · cases accepted
      · rename_i bound
        cases accepted
        exact UInt8.le_iff_toNat_le.mp (UInt8.not_lt.mp bound)
  · cases accepted

/-- For every accepted `tun_ip`: the filter exempts the addresses of its subnet and no others, and both handlers
filter alike, exactly if `tun_ip` has no host bits and TUN mode is enabled, or nothing in the subnet is
blocked anyway. -/
theorem exemption_exact_iff {Socket : Type} (parsers : CidrParsers) (world : World (TcpStream Socket))
    (config : TunNetworkConfig) (ip : Vector UInt8 4) (length : UInt8) (one other : Purpose)
    (accepted : parseCidr parsers config.tunIp = .ok (ip, length))
    (parsed : world.parseNetwork config.tunIp = IpNetwork.new ip length)
    (legacy : one.legacy = true) (multiplexed : other.legacy = false) :
    ((∀ addr, shouldBlockAddress (world.parseNetwork config.tunIp) addr = false ↔
        shouldBlockAddress none addr = false ∨ InSubnet ip length addr) ∧
      ∀ addr, shouldBlockAddress (one.allowed world config) addr =
        shouldBlockAddress (other.allowed world config) addr) ↔
      (IpAddr.v4 ip).toNat % 2 ^ (32 - length.toNat) = 0 ∧ config.enabled = true ∨
        ∀ addr, InSubnet ip length addr → shouldBlockAddress none addr = false := by
  have fits := length_le_of_parseCidr accepted
  have first : one.allowed world config = IpNetwork.new ip length := by rw [Purpose.allowed, if_pos legacy, parsed]
  have second : ∀ addr, shouldBlockAddress (other.allowed world config) addr = false ↔
      shouldBlockAddress none addr = false ∨ config.enabled = true ∧
        (IpAddr.v4 ip).toNat % 2 ^ (32 - length.toNat) = 0 ∧ InSubnet ip length addr := by
    intro addr
    rw [Purpose.allowed, if_neg (by simp [multiplexed]), allowedNetwork]
    split
    · rename_i enabled
      simp [parsed, passes_iff fits, enabled]
    · rename_i disabled
      simp [disabled]
  have alike : ∀ addr, shouldBlockAddress (one.allowed world config) addr =
      shouldBlockAddress (other.allowed world config) addr ↔
      (shouldBlockAddress (one.allowed world config) addr = false ↔
        shouldBlockAddress (other.allowed world config) addr = false) := fun addr => by
    rw [← Bool.not_eq_true, ← Bool.not_eq_true, not_iff_not, Bool.eq_iff_iff]
  simp only [alike]
  simp only [first, second, parsed, passes_iff fits]
  by_cases plain : (IpAddr.v4 ip).toNat % 2 ^ (32 - length.toNat) = 0
  · cases config.enabled <;> simp [plain]
  · simp [plain]

open Outbound.TunnelSample in
theorem plain_subnet_exempt : shouldBlockAddress ((acceptingNetwork.world tunnelParsers).parseNetwork "10.200.0.0/24")
    (.v4 #v[10, 200, 0, 5]) = false ↔ shouldBlockAddress none (.v4 #v[10, 200, 0, 5]) = false ∨
      InSubnet #v[10, 200, 0, 0] 24 (.v4 #v[10, 200, 0, 5]) :=
  ((exemption_exact_iff ⟨fun _ => some #v[10, 200, 0, 0], fun _ => some 24⟩ (acceptingNetwork.world tunnelParsers)
    ⟨true, "10.200.0.0/24"⟩ #v[10, 200, 0, 0] 24 .relayUdp (.preconnect 0) (by decide) rfl rfl rfl).mpr
      (.inl ⟨by decide, rfl⟩)).1 _

/-- The default `tun_ip` is accepted, but no network is parsed from it. -/
theorem default_subnet_blocked :
    parseCidr ⟨fun _ => some #v[10, 200, 0, 1], fun _ => some 24⟩ "10.200.0.1/24" = .ok (#v[10, 200, 0, 1], 24) ∧
      InSubnet #v[10, 200, 0, 1] 24 (.v4 #v[10, 200, 0, 5]) ∧
      shouldBlockAddress (IpNetwork.new #v[10, 200, 0, 1] 24) (.v4 #v[10, 200, 0, 5]) = true :=
  ⟨by decide, ⟨_, List.mem_singleton_self _, by decide⟩, by decide⟩

end Rvpn.Server
