import Rvpn.Lib.Table
import Rvpn.Server.Address

/-! `route_map.rs`: the exits of addresses, learned from DNS answers, with their expiry. -/

namespace Rvpn.Mobile

open Server (Instant IpAddr)

structure RouteEntry where
  server : String
  expires : Instant
  deriving DecidableEq

abbrev RouteMap := Table IpAddr RouteEntry

namespace RouteMap

def maxEntries : Nat := 4096

/-- The entry that expires first; of several the one that the iteration comes to first. -/
def soonest : List (IpAddr × RouteEntry) → Option (IpAddr × RouteEntry)
  | [] => none
  | entry :: rest =>
    match soonest rest with
    | none => some entry
    | some other => if other.2.expires < entry.2.expires then some other else some entry

/-- A new address in a full map: expired entries go, and if there are none the soonest to expire. -/
def makeRoom (now : Instant) (map : RouteMap) : RouteMap :=
  let live : RouteMap := map.filter fun _ entry => now < entry.expires
  if maxEntries ≤ live.entries.length then
    match soonest live.entries with
    | some (oldest, _) => live.erase oldest
    | none => live
  else live

def insertRoute (now : Instant) (ip : IpAddr) (server : String) (ttl : Nat) (map : RouteMap) : RouteMap :=
  let map := if maxEntries ≤ map.entries.length ∧ map.lookup ip = none then map.makeRoom now else map
  map.insert ip ⟨server, now + ttl⟩

def lookupRoute (now : Instant) (ip : IpAddr) (map : RouteMap) : Option String × RouteMap :=
  match map.lookup ip with
  | some entry => if now < entry.expires then (some entry.server, map) else (none, map.erase ip)
  | none => (none, map)

def Names (allowed : String → Prop) (map : RouteMap) : Prop :=
  ∀ ip entry, map.lookup ip = some entry → allowed entry.server

variable {allowed : String → Prop} {map : RouteMap} {now : Instant} {ip : IpAddr} {server : String} {ttl : Nat}

theorem names_empty : Names allowed .empty := nofun

section

variable (names : Names allowed map)
include names

theorem Names.filter (keep : IpAddr → RouteEntry → Bool) :
    Names allowed (Table.filter keep map) := by
  intro ip entry found
  rw [Table.lookup_filter, Option.filter_eq_some_iff] at found
  exact names ip entry found.1

theorem Names.makeRoom : Names allowed (map.makeRoom now) := by
  have live := names.filter fun _ entry => decide (now < entry.expires)
  unfold RouteMap.makeRoom
  dsimp only
  split
  · split
    · exact live.filter _
    · exact live
  · exact live

theorem Names.insertRoute (permitted : allowed server) :
    Names allowed (map.insertRoute now ip server ttl) := by
  intro other entry found
  unfold RouteMap.insertRoute at found
  rcases Table.of_lookup_insert found with ⟨-, rfl⟩ | ⟨-, found⟩
  · exact permitted
  · split at found
    · exact names.makeRoom other entry found
    · exact names other entry found

theorem Names.lookupRoute : Names allowed (map.lookupRoute now ip).2 := by
  unfold RouteMap.lookupRoute
  split
  · split
    · exact names
    · exact names.filter _
  · exact names

theorem Names.server_of_lookupRoute (found : (map.lookupRoute now ip).1 = some server) :
    allowed server := by
  unfold RouteMap.lookupRoute at found
  split at found
  · rename_i entry stored
    split at found
    · cases found
      exact names ip entry stored
    · cases found
  · cases found

end

end RouteMap

end Rvpn.Mobile
