import Rvpn.Lib.Table
import Rvpn.Server.Address

/-! `IpPool` of `tun_server.rs`: leases that stick to a client's identifier. -/

namespace Rvpn.Tun

open Server (Instant IpAddr)

structure LeaseEntry where
  clientId : String
  grantedAt : Instant
  expiresAt : Instant
  deriving DecidableEq, Repr

/-- `available` is a stack: its first address is the next to be popped. -/
structure IpPool where
  leaseDuration : Nat
  available : List IpAddr
  allocated : Table IpAddr LeaseEntry

namespace IpPool

def extend (leaseDuration : Nat) (now : Instant) (entry : LeaseEntry) : LeaseEntry :=
  { entry with expiresAt := now + leaseDuration }

def allocate (now : Instant) (clientId : String) (pool : IpPool) : Option IpAddr × IpPool :=
  match pool.allocated.find? fun _ entry => entry.clientId = clientId with
  | some (ip, _) =>
    (some ip, { pool with allocated := pool.allocated.mapValues fun other entry =>
      if other = ip then extend pool.leaseDuration now entry else entry })
  | none =>
    match pool.available with
    | [] => (none, pool)
    | ip :: rest =>
      (some ip, { pool with
        available := rest
        allocated := pool.allocated.insert ip ⟨clientId, now, now + pool.leaseDuration⟩ })

def release (ip : IpAddr) (pool : IpPool) : Bool × IpPool :=
  match pool.allocated.lookup ip with
  | some _ => (true, { pool with available := ip :: pool.available, allocated := pool.allocated.erase ip })
  | none => (false, pool)

/-- The leases that `reclaim_expired` takes back. -/
def reclaimable (now : Instant) (isActive : IpAddr → Bool) (ip : IpAddr) (entry : LeaseEntry) : Bool :=
  !isActive ip && entry.expiresAt ≤ now

def reclaimExpired (now : Instant) (isActive : IpAddr → Bool) (pool : IpPool) : Nat × IpPool :=
  let reclaimed := (pool.allocated.filter (reclaimable now isActive)).entries.map Prod.fst
  let kept := pool.allocated.filter fun ip entry => !reclaimable now isActive ip entry
  (reclaimed.length, { pool with
    available := reclaimed.reverse ++ pool.available
    allocated := kept.mapValues fun _ entry =>
      if entry.expiresAt ≤ now then extend pool.leaseDuration now entry else entry })

def LeasedUntil (pool : IpPool) (ip : IpAddr) (clientId : String) (time : Instant) : Prop :=
  ∃ entry, pool.allocated.lookup ip = some entry ∧ entry.clientId = clientId ∧ time ≤ entry.expiresAt

variable {pool : IpPool} {now : Instant} {ip other : IpAddr} {clientId owner : String} {time : Instant}

theorem leaseDuration_allocate (pool : IpPool) (now : Instant) (clientId : String) :
    (pool.allocate now clientId).2.leaseDuration = pool.leaseDuration := by
  unfold allocate
  split
  · rfl
  · split <;> rfl

/-- `allocate` shortens no lease and moves none to another client, if the clock does not run
backwards and the addresses on the stack are not leased. -/
theorem LeasedUntil.allocate (held : pool.LeasedUntil ip owner time) (current : time ≤ now + pool.leaseDuration)
    (free : ∀ addr ∈ pool.available, pool.allocated.lookup addr = none) :
    (pool.allocate now clientId).2.LeasedUntil ip owner time := by
  obtain ⟨entry, found, owned, lasting⟩ := held
  unfold IpPool.allocate
  split
  · rename_i leased stored _
    refine ⟨if ip = leased then extend pool.leaseDuration now entry else entry, ?_, ?_⟩
    · rw [Table.lookup_mapValues, found]
      rfl
    · split
      · exact ⟨owned, current⟩
      · exact ⟨owned, lasting⟩
  · split
    · exact ⟨entry, found, owned, lasting⟩
    · rename_i addr rest stack
      have fresh : ip ≠ addr := by
        rintro rfl
        have unleased := free ip (by simp [stack])
        simp [found] at unleased
      refine ⟨entry, ?_, owned, lasting⟩
      rw [Table.lookup_insert, if_neg fresh, found]

/-- The address that `allocate` hands out is leased to the client for the whole duration. -/
theorem leasedUntil_of_allocate (given : (pool.allocate now clientId).1 = some ip) :
    (pool.allocate now clientId).2.LeasedUntil ip clientId (now + pool.leaseDuration) := by
  unfold IpPool.allocate at given ⊢
  split at given
  · rename_i leased stored found
    cases given
    obtain ⟨present, owned⟩ := Table.lookup_of_find? found
    refine ⟨extend pool.leaseDuration now stored, ?_, by simpa [extend] using owned, Nat.le_refl _⟩
    rw [Table.lookup_mapValues, present, Option.map_some, if_pos rfl]
  · split at given
    · cases given
    · cases given
      refine ⟨⟨clientId, now, now + pool.leaseDuration⟩, ?_, rfl, Nat.le_refl _⟩
      rw [Table.lookup_insert, if_pos rfl]

/-- `reclaim_expired` leaves alone what has not expired. -/
theorem LeasedUntil.reclaimExpired (held : pool.LeasedUntil ip owner time) (early : now < time)
    (isActive : IpAddr → Bool) : (pool.reclaimExpired now isActive).2.LeasedUntil ip owner time := by
  obtain ⟨entry, found, owned, lasting⟩ := held
  have unexpired : ¬ entry.expiresAt ≤ now := Nat.not_le.mpr (Nat.lt_of_lt_of_le early lasting)
  have kept : reclaimable now isActive ip entry = false := by simp [reclaimable, unexpired]
  refine ⟨entry, ?_, owned, lasting⟩
  simp only [IpPool.reclaimExpired]
  rw [Table.lookup_mapValues, Table.lookup_filter, found]
  simp [Option.filter, kept, unexpired]

/-- The stack and the leases have no address in common, and the stack has none twice. -/
structure Apart (pool : IpPool) : Prop where
  distinct : pool.available.Nodup
  free : ∀ addr ∈ pool.available, pool.allocated.lookup addr = none

theorem Apart.allocate (apart : pool.Apart) : (pool.allocate now clientId).2.Apart := by
  obtain ⟨distinct, free⟩ := apart
  unfold IpPool.allocate
  split
  · refine ⟨distinct, fun addr member => ?_⟩
    rw [Table.lookup_mapValues, free addr member]
    rfl
  · split
    · exact ⟨distinct, free⟩
    · rename_i ip rest stack
      rw [stack, List.nodup_cons] at distinct
      refine ⟨distinct.2, fun addr member => ?_⟩
      have fresh : addr ≠ ip := fun same => distinct.1 (same ▸ member)
      rw [Table.lookup_insert, if_neg fresh]
      exact free addr (by simp [stack, member])

theorem mem_reclaimed :
    ip ∈ (pool.allocated.filter (reclaimable now isActive)).entries.map Prod.fst ↔
      ∃ entry, pool.allocated.lookup ip = some entry ∧ reclaimable now isActive ip entry = true := by
  constructor
  · intro member
    obtain ⟨⟨addr, entry⟩, listed, rfl⟩ := List.mem_map.mp member
    have found := Table.lookup_eq_some_iff.mpr listed
    rw [Table.lookup_filter, Option.filter_eq_some_iff] at found
    exact ⟨entry, found⟩
  · rintro ⟨entry, found, gone⟩
    refine List.mem_map.mpr ⟨(ip, entry), Table.lookup_eq_some_iff.mp ?_, rfl⟩
    rw [Table.lookup_filter, Option.filter_eq_some_iff]
    exact ⟨found, gone⟩

theorem Apart.reclaimExpired (apart : pool.Apart) (isActive : IpAddr → Bool) :
    (pool.reclaimExpired now isActive).2.Apart := by
  obtain ⟨distinct, free⟩ := apart
  simp only [IpPool.reclaimExpired]
  constructor
  · refine List.nodup_append.mpr ⟨List.nodup_reverse.mpr (Table.nodup _), distinct, ?_⟩
    rintro addr returned _ listed rfl
    obtain ⟨entry, found, -⟩ := mem_reclaimed.mp (List.mem_reverse.mp returned)
    simp [free addr listed] at found
  · intro addr member
    rw [Table.lookup_mapValues, Table.lookup_filter]
    rcases List.mem_append.mp member with returned | listed
    · obtain ⟨entry, found, gone⟩ := mem_reclaimed.mp (List.mem_reverse.mp returned)
      simp [found, Option.filter, gone]
    · simp [free addr listed]

end IpPool

end Rvpn.Tun
