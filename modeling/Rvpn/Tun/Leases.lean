import Mathlib.Data.List.Range
import Mathlib.Tactic.IntervalCases
import Rvpn.Lib.Transition
import Rvpn.Tun.IpPool

/-! The pool of addresses from its creation on. -/

namespace Rvpn.Tun

open Server (Instant IpAddr)
open Transition

structure CidrParsers where
  parseIpv4 : String → Option (Vector UInt8 4)
  parseU8 : String → Option UInt8

def parseCidr (parsers : CidrParsers) (cidr : String) : Except String (Vector UInt8 4 × UInt8) :=
  match (cidr.toList.splitOn '/').map String.ofList with
  | [ip, length] =>
    match parsers.parseIpv4 ip, parsers.parseU8 length with
    | none, _ => .error s!"Invalid IP address: {ip}"
    | some _, none => .error s!"Invalid prefix length: {length}"
    | some gateway, some prefixLength =>
      if prefixLength > 32 then .error s!"Invalid prefix length for IPv4: {prefixLength}"
      else .ok (gateway, prefixLength)
  | _ => .error "Invalid CIDR format: expected 'ip/prefix'"

namespace IpPool

/-- The address `i` after the gateway. -/
def hostAddr (gateway : Vector UInt8 4) (i : Nat) : IpAddr := .v4 (Server.Ipv4.offset gateway i)

/-- `IpPool::new`. For a /32 the bound `total_hosts - 2` underflows: the loop does not come to
an end, so there is no pool. -/
def new (parsers : CidrParsers) (network : String) (leaseDuration : Nat) : Except String IpPool :=
  match parseCidr parsers network with
  | .error failure => .error failure
  | .ok (gateway, prefixLength) =>
    if prefixLength < 24 then .error "IP pool requires /24 or smaller prefix"
    else
      let totalHosts := 2 ^ (32 - prefixLength.toNat)
      if totalHosts < 2 then .error "attempt to subtract with overflow"
      else .ok
        { leaseDuration
          available := (List.range' 2 (totalHosts - 4)).map (hostAddr gateway)
          allocated := .empty }

inductive Call where
  | allocate (now : Instant) (clientId : String)
  | release (ip : IpAddr)
  | reclaimExpired (now : Instant) (isActive : IpAddr → Bool)

def perform (pool : IpPool) : Call → Option IpPool
  | .allocate now clientId => some (pool.allocate now clientId).2
  | .release ip => some (pool.release ip).2
  | .reclaimExpired now isActive => some (pool.reclaimExpired now isActive).2

def Leases (pool : IpPool) (clientId : String) (ip : IpAddr) : Prop :=
  ∃ entry, pool.allocated.lookup ip = some entry ∧ entry.clientId = clientId

/-- Every address is on the stack or leased, and only there; no client has two leases. -/
structure Shared (addrs : List IpAddr) (pool : IpPool) : Prop where
  partition : (pool.available ++ pool.allocated.keys).Perm addrs
  single : ∀ clientId ip other, pool.Leases clientId ip → pool.Leases clientId other → ip = other

variable {addrs : List IpAddr} {pool next final : IpPool} {now : Instant} {clientId : String} {ip other : IpAddr}

theorem leases_mapValues {change : IpAddr → LeaseEntry → LeaseEntry}
    (sameOwner : ∀ ip entry, (change ip entry).clientId = entry.clientId) {available : List IpAddr} :
    Leases { pool with available, allocated := pool.allocated.mapValues change } clientId ip ↔
      pool.Leases clientId ip := by
  simp [Leases, Table.lookup_mapValues, sameOwner]

theorem leases_insert {available : List IpAddr} {entry : LeaseEntry} (fresh : pool.allocated.lookup ip = none) :
    Leases { pool with available, allocated := pool.allocated.insert ip entry } clientId other ↔
      (other = ip ∧ entry.clientId = clientId) ∨ pool.Leases clientId other := by
  simp only [Leases, Table.lookup_insert]
  by_cases same : other = ip
  · subst same
    simp [fresh]
  · simp [same]

theorem leases_filter {keep : IpAddr → LeaseEntry → Bool} {available : List IpAddr}
    (held : Leases { pool with available, allocated := pool.allocated.filter keep } clientId ip) :
    pool.Leases clientId ip := by
  obtain ⟨entry, found, owned⟩ := held
  rw [Table.lookup_filter, Option.filter_eq_some_iff] at found
  exact ⟨entry, found.1, owned⟩

theorem extend_if_clientId (condition : Prop) [Decidable condition] (duration : Nat) (now : Instant)
    (entry : LeaseEntry) :
    (if condition then extend duration now entry else entry).clientId = entry.clientId := by
  split <;> rfl

theorem leases_of_find?
    (found : (pool.allocated.find? fun _ entry => entry.clientId = clientId) = some (ip, entry)) :
    pool.Leases clientId ip := by
  obtain ⟨present, owned⟩ := Table.lookup_of_find? found
  exact ⟨entry, present, by simpa using owned⟩

theorem not_leases_of_find? (missing : (pool.allocated.find? fun _ entry => entry.clientId = clientId) = none) :
    ¬ pool.Leases clientId ip := by
  rintro ⟨entry, found, owned⟩
  have passed := List.find?_eq_none.mp missing (ip, entry) (Table.lookup_eq_some_iff.mp found)
  exact passed (by simpa using owned)

theorem Shared.free (shared : pool.Shared addrs) (distinct : addrs.Nodup) (listed : ip ∈ pool.available) :
    pool.allocated.lookup ip = none := by
  have apart := (List.nodup_append.mp (shared.partition.nodup_iff.mpr distinct)).2.2
  rw [Table.lookup_eq_none_iff]
  exact fun leased => apart ip listed ip leased rfl

theorem Shared.allocate (shared : pool.Shared addrs) (distinct : addrs.Nodup) (now : Instant) (clientId : String) :
    (pool.allocate now clientId).2.Shared addrs := by
  unfold IpPool.allocate
  split
  · refine ⟨by simpa using shared.partition, ?_⟩
    intro owner ip other first second
    rw [leases_mapValues (fun _ _ => extend_if_clientId _ _ _ _)] at first second
    exact shared.single owner ip other first second
  · rename_i missing
    split
    · exact shared
    · rename_i addr rest stack
      have fresh : pool.allocated.lookup addr = none := shared.free distinct (by simp [stack])
      constructor
      · have partition := shared.partition
        rw [stack] at partition
        rw [Table.keys_insert_of_fresh fresh]
        exact List.perm_middle.trans partition
      · intro owner ip other first second
        rw [leases_insert fresh] at first second
        rcases first with ⟨rfl, rfl⟩ | first
        · rcases second with ⟨rfl, -⟩ | second
          · rfl
          · exact absurd second (not_leases_of_find? missing)
        · rcases second with ⟨rfl, rfl⟩ | second
          · exact absurd first (not_leases_of_find? missing)
          · exact shared.single owner ip other first second

theorem Shared.release (shared : pool.Shared addrs) (ip : IpAddr) : (pool.release ip).2.Shared addrs := by
  unfold IpPool.release
  split
  · rename_i entry found
    refine ⟨?_, ?_⟩
    · have moved := List.perm_middle.symm.trans ((Table.keys_erase_perm found).append_left pool.available)
      exact moved.trans shared.partition
    · intro owner first second held other
      exact shared.single owner first second (leases_filter held) (leases_filter other)
  · exact shared

/-- `reclaim_expired` drops leases and prolongs others. -/
theorem leases_of_reclaimExpired :
    (pool.reclaimExpired now isActive).2.Leases clientId ip ↔
      ∃ entry, pool.allocated.lookup ip = some entry ∧ entry.clientId = clientId ∧
        reclaimable now isActive ip entry = false := by
  simp only [IpPool.reclaimExpired]
  constructor
  · rintro ⟨entry, found, owned⟩
    rw [Table.lookup_mapValues, Option.map_eq_some_iff] at found
    obtain ⟨old, kept, rfl⟩ := found
    rw [Table.lookup_filter, Option.filter_eq_some_iff] at kept
    rw [extend_if_clientId] at owned
    exact ⟨old, kept.1, owned, by simpa using kept.2⟩
  · rintro ⟨entry, found, owned, kept⟩
    refine ⟨_, ?_, (extend_if_clientId (entry.expiresAt ≤ now) pool.leaseDuration now entry).trans owned⟩
    rw [Table.lookup_mapValues, Table.lookup_filter, found]
    simp [kept]

theorem Shared.reclaimExpired (shared : pool.Shared addrs) (now : Instant) (isActive : IpAddr → Bool) :
    (pool.reclaimExpired now isActive).2.Shared addrs := by
  constructor
  · let gone := (pool.allocated.filter (reclaimable now isActive)).keys
    let kept := (pool.allocated.filter fun ip entry => !reclaimable now isActive ip entry).keys
    have returned : (pool.reclaimExpired now isActive).2.available = gone.reverse ++ pool.available := rfl
    have left : (pool.reclaimExpired now isActive).2.allocated.keys = kept := Table.keys_mapValues _
    rw [returned, left]
    have unordered : (gone.reverse ++ pool.available).Perm (pool.available ++ gone) :=
      ((List.reverse_perm gone).append_right _).trans List.perm_append_comm
    have split : (pool.available ++ gone ++ kept).Perm (pool.available ++ pool.allocated.keys) := by
      rw [List.append_assoc]
      exact (Table.keys_filter_perm _ _).append_left _
    exact ((unordered.append_right kept).trans split).trans shared.partition
  · intro owner ip other first second
    obtain ⟨entry, found, owned, -⟩ := leases_of_reclaimExpired.mp first
    obtain ⟨stored, foundToo, ownedToo, -⟩ := leases_of_reclaimExpired.mp second
    exact shared.single owner ip other ⟨entry, found, owned⟩ ⟨stored, foundToo, ownedToo⟩

theorem Shared.perform (shared : pool.Shared addrs) (distinct : addrs.Nodup)
    (performed : pool.perform call = some next) : next.Shared addrs := by
  cases call with
  | allocate now clientId =>
    cases performed
    exact shared.allocate distinct now clientId
  | release ip =>
    cases performed
    exact shared.release ip
  | reclaimExpired now isActive =>
    cases performed
    exact shared.reclaimExpired now isActive

def ends (ip : IpAddr) (pool : IpPool) : Call → Bool
  | .allocate _ _ => false
  | .release other => other = ip
  | .reclaimExpired now isActive => (pool.allocated.lookup ip).any (reclaimable now isActive ip)

theorem Leases.allocate (held : pool.Leases clientId ip) (shared : pool.Shared addrs) (distinct : addrs.Nodup)
    (now : Instant) (caller : String) : (pool.allocate now caller).2.Leases clientId ip := by
  unfold IpPool.allocate
  split
  · exact (leases_mapValues fun _ _ => extend_if_clientId _ _ _ _).mpr held
  · split
    · exact held
    · rename_i addr rest stack
      exact (leases_insert (shared.free distinct (by simp [stack]))).mpr (.inr held)

theorem Leases.perform (held : pool.Leases clientId ip) (shared : pool.Shared addrs) (distinct : addrs.Nodup)
    (kept : ends ip pool call = false) (performed : pool.perform call = some next) :
    next.Leases clientId ip := by
  obtain ⟨entry, found, owned⟩ := held
  cases call with
  | allocate now caller =>
    cases performed
    exact Leases.allocate ⟨entry, found, owned⟩ shared distinct now caller
  | release other =>
    cases performed
    have different : other ≠ ip := by simpa [ends] using kept
    unfold release
    split
    · refine ⟨entry, ?_, owned⟩
      simp only [Table.erase, Table.lookup_filter, found]
      simp [Ne.symm different]
    · exact ⟨entry, found, owned⟩
  | reclaimExpired now isActive =>
    cases performed
    refine leases_of_reclaimExpired.mpr ⟨entry, found, owned, ?_⟩
    simpa [ends, found] using kept

theorem Leases.run (held : pool.Leases clientId ip) (shared : pool.Shared addrs) (distinct : addrs.Nodup)
    (kept : Meets IpPool.perform (fun state call => ends ip state call = false) pool calls)
    (reached : run IpPool.perform pool calls = some final) :
    final.Shared addrs ∧ final.Leases clientId ip := by
  have preserved (state : IpPool) (call : Call) (next : IpPool)
      (holds : state.Shared addrs ∧ state.Leases clientId ip) (unended : ends ip state call = false)
      (performed : state.perform call = some next) : next.Shared addrs ∧ next.Leases clientId ip :=
    ⟨holds.1.perform distinct performed, holds.2.perform holds.1 distinct unended performed⟩
  exact run_preserves_of_meets preserved ⟨shared, held⟩ kept reached

theorem allocate_of_leases (shared : pool.Shared addrs) (held : pool.Leases clientId ip) (now : Instant) :
    (pool.allocate now clientId).1 = some ip := by
  unfold allocate
  split
  · rename_i addr entry found
    rw [shared.single clientId addr ip (leases_of_find? found) held]
  · rename_i missing
    exact absurd held (not_leases_of_find? missing)

theorem leases_of_allocate (given : (pool.allocate now clientId).1 = some ip) :
    (pool.allocate now clientId).2.Leases clientId ip := by
  obtain ⟨entry, found, owned, -⟩ := leasedUntil_of_allocate given
  exact ⟨entry, found, owned⟩

theorem new_ok {parsers : CidrParsers} {network : String} {leaseDuration : Nat}
    (created : new parsers network leaseDuration = .ok pool) :
    pool.available.Nodup ∧ pool.allocated = .empty := by
  unfold new at created
  split at created <;> [cases created; rename_i gateway prefixLength parsed]
  split at created <;> [cases created; rename_i long]
  dsimp only at created
  split at created <;> [cases created; rename_i wide]
  cases created
  refine ⟨?_, rfl⟩
  have few : 2 ^ (32 - prefixLength.toNat) ≤ 2 ^ 8 := by
    have := UInt8.le_iff_toNat_le.mp (UInt8.not_lt.mp long)
    exact Nat.pow_le_pow_right (by decide) (by simp only [UInt8.reduceToNat] at this; omega)
  refine List.Nodup.map_on ?_ List.nodup_range'
  intro i first j second same
  rw [List.mem_range'_1] at first second
  exact Server.Ipv4.offset_inj (by omega) (by omega) (IpAddr.v4.inj same)

theorem shared_of_new {parsers : CidrParsers} {network : String} {leaseDuration : Nat} {initial : IpPool}
    (created : new parsers network leaseDuration = .ok initial) : initial.Shared initial.available := by
  have empty := (new_ok created).2
  constructor
  · rw [empty]
    simp [Table.keys, Table.empty]
  · rintro clientId ip other ⟨entry, found, -⟩
    rw [empty] at found
    cases found

/-- After any calls on a new pool: no address is both on the stack and leased, none is there twice, together they are
the initial ones; no client has two leases and no address two clients; and a client that allocates again gets the same
address, if no call between has ended its lease. -/
theorem leases_consistent {parsers : CidrParsers} {network : String} {leaseDuration : Nat} {initial pool : IpPool}
    {calls : List Call} (created : new parsers network leaseDuration = .ok initial)
    (reached : Transition.run perform initial calls = some pool) :
    (∀ ip ∈ pool.available, pool.allocated.lookup ip = none) ∧ pool.available.Nodup ∧
      pool.allocated.keys.Nodup ∧
      (∀ ip, ip ∈ initial.available ↔ ip ∈ pool.available ∨ ∃ clientId, pool.Leases clientId ip) ∧
      (∀ clientId ip other, pool.Leases clientId ip → pool.Leases clientId other → ip = other) ∧
      (∀ clientId owner ip, pool.Leases clientId ip → pool.Leases owner ip → clientId = owner) ∧
      ∀ clientId ip now later between final, (pool.allocate now clientId).1 = some ip →
        Transition.run perform (pool.allocate now clientId).2 between = some final →
        Transition.Meets perform (fun state call => ends ip state call = false)
          (pool.allocate now clientId).2 between →
        (final.allocate later clientId).1 = some ip := by
  have distinct := (new_ok created).1
  have shared : pool.Shared initial.available :=
    run_preserves (fun _ _ _ shared performed => shared.perform distinct performed)
      (shared_of_new created) reached
  have whole := shared.partition.nodup_iff.mpr distinct
  refine ⟨fun ip => shared.free distinct, (List.nodup_append.mp whole).1, pool.allocated.keys_nodup, ?_,
    shared.single, ?_, ?_⟩
  · intro ip
    rw [← shared.partition.mem_iff, List.mem_append, Table.mem_keys_iff]
    simp [Leases]
  · rintro clientId owner ip ⟨entry, found, rfl⟩ ⟨other, foundToo, rfl⟩
    rw [Option.some.inj (found.symm.trans foundToo)]
  · intro clientId ip now later between final given onward kept
    have shared := shared.allocate distinct now clientId
    obtain ⟨shared, held⟩ := Leases.run (leases_of_allocate given) shared distinct kept onward
    exact allocate_of_leases shared held later

/-- The parsers' answers for `10.200.0.1/29`. -/
def smallNetwork : CidrParsers where
  parseIpv4 text := if text = "10.200.0.1" then some #v[10, 200, 0, 1] else none
  parseU8 text := if text = "29" then some 29 else none

def smallPool : IpPool where
  leaseDuration := 10
  available := [3, 4, 5, 6].map fun last => .v4 #v[10, 200, 0, last]
  allocated := .empty

def smallCalls : List Call :=
  [.allocate 0 "a", .allocate 5 "b", .reclaimExpired 12 fun _ => false, .allocate 12 "c"]

def smallFinal : IpPool := (run perform smallPool smallCalls).getD smallPool

theorem leases_consistent_small :
    new smallNetwork "10.200.0.1/29" 10 = .ok smallPool ∧
      (∀ ip, ip ∈ smallPool.available ↔ ip ∈ smallFinal.available ∨ ∃ clientId, smallFinal.Leases clientId ip) ∧
      ((smallFinal.allocate 13 "b").2.allocate 14 "b").1 = some (.v4 #v[10, 200, 0, 4]) := by
  have created : new smallNetwork "10.200.0.1/29" 10 = .ok smallPool := by
    rfl
  have reached : run perform smallPool smallCalls = some smallFinal := rfl
  obtain ⟨-, -, -, exact_, -, -, sticky⟩ := leases_consistent created reached
  exact ⟨created, exact_, sticky "b" _ 13 14 [] _ (by decide) rfl trivial⟩

/-- The address is one of the gateway's subnet that a client can have. -/
structure Assignable (gateway : Vector UInt8 4) (totalHosts : Nat) (addr : IpAddr) : Prop where
  isV4 : addr.isV4 = true
  inside : addr.toNat / totalHosts = (IpAddr.v4 gateway).toNat / totalHosts
  notNetwork : addr.toNat % totalHosts ≠ 0
  notBroadcast : addr.toNat % totalHosts ≠ totalHosts - 1
  notGateway : addr ≠ .v4 gateway

theorem toNat_hostAddr {gateway : Vector UInt8 4} {i : Nat} (fits : (gateway.get 3).toNat + i < 256) :
    (hostAddr gateway i).toNat = (IpAddr.v4 gateway).toNat + i := by
  have last : (gateway[3] + UInt8.ofNat i).toNat = gateway[3].toNat + i := by
    rw [UInt8.toNat_add, UInt8.toNat_ofNat', Nat.add_mod_mod]
    exact Nat.mod_eq_of_lt fits
  simp only [hostAddr, Server.Ipv4.offset, Server.toNat_v4]
  simp [last, Nat.add_assoc]

theorem assignable_hostAddr_iff {gateway : Vector UInt8 4} (few : bits ≤ 8) (later : 0 < i)
    (fits : gateway[3].toNat + i < 256) :
    Assignable gateway (2 ^ bits) (hostAddr gateway i) ↔ gateway[3].toNat % 2 ^ bits + i + 1 < 2 ^ bits := by
  have number := toNat_hostAddr fits
  have octets := Server.toNat_v4 gateway
  constructor
  · rintro ⟨-, inside, -, broadcast, -⟩
    interval_cases bits <;> omega
  · intro room
    refine ⟨rfl, ?_, ?_, ?_, fun same => ?_⟩
    · rw [number]
      interval_cases bits <;> omega
    · rw [number]
      interval_cases bits <;> omega
    · rw [number]
      interval_cases bits <;> omega
    · rw [same] at number
      omega

/-- For an accepted network of length 24 to 32: no subtraction underflows and no octet overflows, and the pool has
only addresses of the subnet for clients, each once, exactly if the network is no /32, and the gateway is the subnet's
first address or the next one or the pool is empty. -/
theorem pool_assignable_iff (parsers : CidrParsers) (network : String) (leaseDuration : Nat)
    (gateway : Vector UInt8 4) (prefixLength : UInt8) (accepted : parseCidr parsers network = .ok (gateway, prefixLength))
    (long : 24 ≤ prefixLength.toNat) :
    (∃ pool, new parsers network leaseDuration = .ok pool ∧
      (∀ i ∈ List.range' 2 (2 ^ (32 - prefixLength.toNat) - 4), gateway[3].toNat + i < 256) ∧
      pool.available.Nodup ∧ ∀ addr ∈ pool.available, Assignable gateway (2 ^ (32 - prefixLength.toNat)) addr) ↔
      prefixLength.toNat < 32 ∧ (30 ≤ prefixLength.toNat ∨ gateway[3].toNat % 2 ^ (32 - prefixLength.toNat) ≤ 1) := by
  have enough : ¬ prefixLength < 24 := fun short => by
    have := UInt8.lt_iff_toNat_lt.mp short
    simp only [UInt8.reduceToNat] at this
    omega
  constructor
  · rintro ⟨pool, created, fits, -, assignable⟩
    simp only [new, accepted, if_neg enough] at created
    split at created <;> [cases created; rename_i wide]
    cases created
    have proper : prefixLength.toNat < 32 := by
      by_contra full
      exact wide (by simp [show 32 - prefixLength.toNat = 0 by omega])
    refine ⟨proper, or_iff_not_imp_left.mpr fun short => ?_⟩
    have several : 8 ≤ 2 ^ (32 - prefixLength.toNat) :=
      Nat.pow_le_pow_right (by decide : 0 < 2) (by omega : 3 ≤ 32 - prefixLength.toNat)
    -- the last address of the pool
    have listed : 2 ^ (32 - prefixLength.toNat) - 3 ∈ List.range' 2 (2 ^ (32 - prefixLength.toNat) - 4) :=
      List.mem_range'_1.mpr (by omega)
    have room := (assignable_hostAddr_iff (by omega) (by omega) (fits _ listed)).mp
      (assignable _ (List.mem_map_of_mem listed))
    omega
  · rintro ⟨proper, placed⟩
    have wide : ¬ 2 ^ (32 - prefixLength.toNat) < 2 :=
      Nat.not_lt.mpr (Nat.pow_le_pow_right (by decide : 0 < 2) (by omega : 1 ≤ 32 - prefixLength.toNat))
    have created : new parsers network leaseDuration =
        .ok ⟨leaseDuration, (List.range' 2 (2 ^ (32 - prefixLength.toNat) - 4)).map (hostAddr gateway), .empty⟩ := by
      rw [new, accepted]
      exact (if_neg enough).trans (if_neg wide)
    have room : ∀ i ∈ List.range' 2 (2 ^ (32 - prefixLength.toNat) - 4), 0 < i ∧ gateway[3].toNat + i < 256 ∧
        gateway[3].toNat % 2 ^ (32 - prefixLength.toNat) + i + 1 < 2 ^ (32 - prefixLength.toNat) := by
      intro i listed
      have bound := List.mem_range'_1.mp listed
      have octet := gateway[3].toNat_lt
      generalize prefixLength.toNat = length at *
      interval_cases length <;> omega
    refine ⟨_, created, fun i listed => (room i listed).2.1, (new_ok created).1, fun addr member => ?_⟩
    obtain ⟨i, listed, rfl⟩ := List.mem_map.mp member
    obtain ⟨later, fits, inside⟩ := room i listed
    exact (assignable_hostAddr_iff (by omega) later fits).mpr inside

theorem small_pool_assignable :
    ∃ pool, new smallNetwork "10.200.0.1/29" 10 = .ok pool ∧ pool.available.Nodup ∧
      ∀ addr ∈ pool.available, Assignable #v[10, 200, 0, 1] 8 addr := by
  obtain ⟨pool, created, -, distinct, assignable⟩ := (pool_assignable_iff smallNetwork "10.200.0.1/29" 10
    #v[10, 200, 0, 1] 29 (by decide +kernel) (by decide)).mpr (by decide)
  exact ⟨pool, created, distinct, assignable⟩

/-- With the gateway at the end of the subnet all addresses of the pool are outside it; for a /32 there is no pool. -/
theorem pool_outside_subnet :
    (new ⟨fun _ => some #v[10, 60, 0, 6], fun _ => some 29⟩ "10.60.0.6/29" 10).toOption.map (·.available) =
        some ([8, 9, 10, 11].map fun last => .v4 #v[10, 60, 0, last]) ∧
      (∀ last ∈ [8, 9, 10, 11], ¬ Assignable #v[10, 60, 0, 6] 8 (.v4 #v[10, 60, 0, last])) ∧
      new ⟨fun _ => some #v[10, 60, 0, 6], fun _ => some 32⟩ "10.60.0.6/32" 10 =
        .error "attempt to subtract with overflow" := by
  refine ⟨by decide +kernel, fun last listed assignable => ?_, by rfl⟩
  have outside : ∀ last ∈ [8, 9, 10, 11],
      (IpAddr.v4 #v[10, 60, 0, last]).toNat / 8 ≠ (IpAddr.v4 #v[10, 60, 0, 6]).toNat / 8 := by decide +kernel
  exact outside last listed assignable.inside

end IpPool

end Rvpn.Tun
