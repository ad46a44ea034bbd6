import Rvpn.Mux.Protocol
import Rvpn.Server.Address

/-! How the server gets a connection to a target. -/

namespace Rvpn.Server

def dnsTtl : Nat := 300000
def dnsCacheMaxEntries : Nat := 10000
def tcpPoolMaxIdle : Nat := 30000
def maxPoolPerTarget : Nat := 5

/-- What `try_read` on a pooled connection says. -/
inductive Probe where
  | wouldBlock | read (n : Nat) | failed
  deriving DecidableEq

/-- How a connection attempt of `connect_fastest` ends. -/
inductive Attempted (Stream : Type) where
  | connected (stream : Stream)
  | failed (error : String)
  | timedOut
  | panicked

/-- What a `try_send` on the uplink queue of a flow finds, or that the flow is gone. -/
inductive FlowData where
  | queued | full | closed | unknown
  deriving DecidableEq

/-- What the handler finds outside: the standard library's parsers, the clock when it
starts and after a lookup, the resolver, the network, and for each frame that it flushes
how far the flow's own tasks have got. `finished` is the order in which attempts started
together end. -/
structure World (Stream : Type) where
  parseNetwork : String → Option IpNetwork
  parseSocketAddr : String → Option SocketAddr
  parseIpAddr : String → Option IpAddr
  parsePort : String → Option UInt16
  now : Instant
  lookedUp : Instant
  lookupHost : String → Except String (List SocketAddr)
  connect : SocketAddr → Attempted Stream
  finished : List SocketAddr → List SocketAddr
  finished_perm : ∀ addrs, (finished addrs).Perm addrs
  probe : Stream → Probe
  flowData : Nat → FlowData

structure DnsEntry where
  addrs : List SocketAddr
  cachedAt : Instant

/-- A hash map, in the order in which it is iterated. -/
abbrev DnsCache := List (String × DnsEntry)

/-- Connections waiting under `host:port`, oldest first; no entry is an empty queue. -/
abbrev TcpPool (Stream : Type) := String → List (Instant × Stream)

structure TunNetworkConfig where
  enabled : Bool
  tunIp : String

variable {Stream : Type} (world : World Stream)

/-- `rsplit_once(':')`. -/
def rsplitColon (text : List Char) : Option (List Char × List Char) :=
  match text.reverse.span (· ≠ ':') with
  | (_, []) => none
  | (last, _ :: rest) => some (rest.reverse, last.reverse)

/-- What stands between `[` and `]`. -/
def unbracket (text : List Char) : Option (List Char) :=
  match text with
  | '[' :: rest => if rest.getLast? = some ']' then some rest.dropLast else none
  | _ => none

def parseSocketAddrLiteral (target : String) : Option SocketAddr :=
  match world.parseSocketAddr target with
  | some addr => some addr
  | none => do
    let (host, portText) ← rsplitColon target.toList
    let port ← world.parsePort (String.ofList portText)
    let host ← unbracket host
    let ip ← world.parseIpAddr (String.ofList host)
    return { ip, port }

def oldest : DnsCache → Option String
  | [] => none
  | (key, entry) :: rest =>
    some (rest.foldl (fun best next => if next.2.cachedAt < best.2.cachedAt then next else best) (key, entry)).1

def pruneDnsCache (now : Instant) (cache : DnsCache) : DnsCache :=
  let kept := cache.filter fun entry => now - entry.2.cachedAt < dnsTtl
  if dnsCacheMaxEntries ≤ kept.length then
    match oldest kept with
    | some key => kept.filter fun entry => entry.1 ≠ key
    | none => kept
  else kept

/-- `sort_by_key`, which is stable: IPv4 first. -/
def preferV4 (addrs : List SocketAddr) : List SocketAddr :=
  addrs.filter (·.ip.isV4) ++ addrs.filter (!·.ip.isV4)

def resolveAndCache (target : String) (cache : DnsCache) : Except String (List SocketAddr) × DnsCache :=
  match world.lookupHost target with
  | .error failure => (.error failure, cache)
  | .ok [] => (.error s!"No addresses found for {target}", cache)
  | .ok found =>
    let addrs := preferV4 found
    let kept := (pruneDnsCache world.lookedUp cache).filter fun entry => entry.1 ≠ target
    (.ok addrs, (target, ⟨addrs, world.lookedUp⟩) :: kept)

/-- The loop over `join_next`: the first connection, or the last error. -/
def joinAll (lastError : Option String) : List (Attempted Stream) → Except (Option String) Stream
  | [] => .error lastError
  | .connected stream :: _ => .ok stream
  | .failed error :: rest => joinAll (some error) rest
  | .timedOut :: rest =>
    joinAll (some "Custom \x7b kind: TimedOut, error: \"Connection timeout\" \x7d") rest
  | .panicked :: rest => joinAll lastError rest

/-- The text of `last_error` in the message. -/
def debugError : Option String → String
  | none => "None"
  | some error => s!"Some({error})"

def connectFastest (allowed : Option IpNetwork) (addrs : List SocketAddr) (target : String) :
    Except String Stream :=
  let blocked := addrs.filter fun addr => shouldBlockAddress allowed addr.ip
  let started := addrs.filter fun addr => !shouldBlockAddress allowed addr.ip
  match joinAll none ((world.finished started).map world.connect) with
  | .ok stream => .ok stream
  | .error lastError =>
    if 0 < blocked.length ∧ lastError = none then .error s!"All addresses blocked for {target}"
    else .error s!"Failed to connect to {target}: {debugError lastError}"

/-- `allowed_cidr`, parsed. -/
def allowedNetwork (config : TunNetworkConfig) : Option IpNetwork :=
  if config.enabled then world.parseNetwork config.tunIp else none

/-- The addresses that `connect_with_dns_cache` tries. -/
def targetAddrs (target : String) (cache : DnsCache) : Except String (List SocketAddr) × DnsCache :=
  match parseSocketAddrLiteral world target with
  | some addr => (.ok [addr], cache)
  | none =>
    match cache.lookup target with
    | some entry =>
      if world.now - entry.cachedAt < dnsTtl then (.ok entry.addrs, cache)
      else resolveAndCache world target cache
    | none => resolveAndCache world target cache

def connectWithDnsCache (config : TunNetworkConfig) (target : String) (cache : DnsCache) :
    Except String Stream × DnsCache :=
  match targetAddrs world target cache with
  | (.error failure, cache) => (.error failure, cache)
  | (.ok addrs, cache) => (connectFastest world (allowedNetwork world config) addrs target, cache)

def tcpPoolEntryUsable (entry : Instant × Stream) : Bool :=
  if tcpPoolMaxIdle < world.now - entry.1 then false else world.probe entry.2 = .wouldBlock

def popUsable : List (Instant × Stream) → Option Stream × List (Instant × Stream)
  | [] => (none, [])
  | entry :: rest => if tcpPoolEntryUsable world entry then (some entry.2, rest) else popUsable rest

variable {world}

theorem joinAll_ok_iff {results : List (Attempted Stream)} {lastError : Option String} :
    (∃ stream, joinAll lastError results = .ok stream) ↔ ∃ stream, .connected stream ∈ results := by
  induction results generalizing lastError with
  | nil => simp [joinAll]
  | cons result rest ih =>
    cases result with
    | connected stream => simp [joinAll]
    | failed | timedOut | panicked => simp [joinAll, ih]

/-- `connect_fastest` succeeds exactly when an address that is not blocked accepts. -/
theorem connectFastest_ok_iff :
    (∃ stream, connectFastest world allowed addrs target = .ok stream) ↔
      ∃ addr ∈ addrs, shouldBlockAddress allowed addr.ip = false ∧
        ∃ stream, world.connect addr = .connected stream := by
  let started := addrs.filter fun addr => !shouldBlockAddress allowed addr.ip
  have joined : (∃ stream, connectFastest world allowed addrs target = .ok stream) ↔
      ∃ stream, joinAll none ((world.finished started).map world.connect) = .ok stream := by
    unfold connectFastest
    dsimp only
    cases joinAll none ((world.finished started).map world.connect) with
    | ok stream => simp
    | error lastError =>
      dsimp only
      split <;> simp
  rw [joined, joinAll_ok_iff]
  simp only [List.mem_map, (world.finished_perm started).mem_iff]
  constructor
  · rintro ⟨stream, addr, member, accepted⟩
    obtain ⟨listed, open_⟩ := List.mem_filter.mp member
    exact ⟨addr, listed, by simpa using open_, stream, accepted⟩
  · rintro ⟨addr, listed, unblocked, stream, accepted⟩
    exact ⟨stream, addr, List.mem_filter.mpr ⟨listed, by simpa using unblocked⟩, accepted⟩

theorem mem_of_joinAll (joined : joinAll lastError results = .ok stream) : .connected stream ∈ results := by
  induction results generalizing lastError with
  | nil => cases joined
  | cons result rest ih =>
    cases result with
    | connected first =>
      cases joined
      exact List.mem_cons_self
    | failed | timedOut | panicked => exact List.mem_cons_of_mem _ (ih joined)

/-- The connection that `connect_fastest` returns is one of an address that is not blocked. -/
theorem connect_of_connectFastest (connected : connectFastest world allowed addrs target = .ok stream) :
    ∃ addr ∈ addrs.filter fun addr => !shouldBlockAddress allowed addr.ip,
      world.connect addr = .connected stream := by
  unfold connectFastest at connected
  dsimp only at connected
  split at connected
  · rename_i first joined
    cases connected
    obtain ⟨addr, member, accepted⟩ := List.mem_map.mp (mem_of_joinAll joined)
    exact ⟨addr, (world.finished_perm _).mem_iff.mp member, accepted⟩
  · split at connected <;> cases connected

def Reachable (world : World Stream) (config : TunNetworkConfig) (cache : DnsCache) (target : String) : Prop :=
  ∃ addrs, (targetAddrs world target cache).1 = .ok addrs ∧
    ∃ addr ∈ addrs, shouldBlockAddress (allowedNetwork world config) addr.ip = false ∧
      ∃ stream, world.connect addr = .connected stream

theorem connectWithDnsCache_ok_iff :
    (∃ stream, (connectWithDnsCache world config target cache).1 = .ok stream) ↔
      Reachable world config cache target := by
  unfold connectWithDnsCache Reachable
  obtain ⟨found, after⟩ := targetAddrs world target cache
  cases found with
  | error failure => simp
  | ok addrs => simpa using connectFastest_ok_iff

theorem popUsable_isSome_iff :
    (∃ stream, (popUsable world queue).1 = some stream) ↔
      ∃ entry ∈ queue, tcpPoolEntryUsable world entry = true := by
  induction queue with
  | nil => simp [popUsable]
  | cons entry rest ih =>
    by_cases usable : tcpPoolEntryUsable world entry = true
    · simp [popUsable, usable]
    · simp [popUsable, usable, ih]

theorem popUsable_sublist :
    (∀ stream, (popUsable world queue).1 = some stream → ∃ time, (time, stream) ∈ queue) ∧
      (popUsable world queue).2.Sublist queue := by
  induction queue with
  | nil => simp [popUsable]
  | cons entry rest ih =>
    obtain ⟨popped, left⟩ := ih
    by_cases usable : tcpPoolEntryUsable world entry = true
    · simp only [popUsable, usable, if_true]
      refine ⟨?_, List.sublist_cons_self _ _⟩
      intro stream first
      cases first
      exact ⟨entry.1, List.mem_cons_self⟩
    · simp only [popUsable, usable]
      refine ⟨?_, left.cons _⟩
      intro stream later
      obtain ⟨time, member⟩ := popped stream later
      exact ⟨time, List.mem_cons_of_mem _ member⟩

end Rvpn.Server
