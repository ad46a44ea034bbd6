import Rvpn.Server.CreateFlow

/-! Everything the server connects or sends datagrams to: sessions, pools and the relays of the one-flow handler. -/

namespace Rvpn.Server

open Mux (FlowId)

structure TcpStream (Socket : Type) where
  peer : SocketAddr
  socket : Socket

inductive ProtocolType where
  | tcp | udp
  deriving DecidableEq, Repr

structure TargetAddress where
  host : String
  port : UInt16
  protocol : ProtocolType

/-- What the network, the resolver and the clock answer in one step. -/
structure Answers (Socket : Type) where
  now : Instant
  lookedUp : Instant
  lookupHost : String → Except String (List SocketAddr)
  connect : SocketAddr → Attempted Socket
  finished : List SocketAddr → List SocketAddr
  finished_perm : ∀ addrs, (finished addrs).Perm addrs
  probe : Socket → Probe

structure Parsers where
  parseNetwork : String → Option IpNetwork
  parseSocketAddr : String → Option SocketAddr
  parseIpAddr : String → Option IpAddr
  parsePort : String → Option UInt16

variable {Socket : Type}

def Attempted.opened (addr : SocketAddr) : Attempted Socket → Attempted (TcpStream Socket)
  | .connected socket => .connected ⟨addr, socket⟩
  | .failed error => .failed error
  | .timedOut => .timedOut
  | .panicked => .panicked

def Answers.world (parsers : Parsers) (answers : Answers Socket) : World (TcpStream Socket) where
  parseNetwork := parsers.parseNetwork
  parseSocketAddr := parsers.parseSocketAddr
  parseIpAddr := parsers.parseIpAddr
  parsePort := parsers.parsePort
  now := answers.now
  lookedUp := answers.lookedUp
  lookupHost := answers.lookupHost
  connect addr := (answers.connect addr).opened addr
  finished := answers.finished
  finished_perm := answers.finished_perm
  probe stream := answers.probe stream.socket
  flowData _ := .queued

/-- Who waits for a connection: a `CreateFlow`, the task that connects in advance, or a
relay of the one-flow handler. -/
inductive Purpose where
  | flow (session : Nat) (f : FlowId)
  | preconnect (session : Nat)
  | relayTcp (host : String)
  | relayUdp
  deriving DecidableEq, Repr

/-- How far it has got. Every await between two of these lets other jobs go on. -/
inductive Progress (Socket : Type) where
  | checkingPool
  | lookingUp
  | resolving
  | connecting (addrs : List SocketAddr)
  | relaying (stream : TcpStream Socket)
  | sending (addr : SocketAddr)
  | ended

structure Job (Socket : Type) where
  purpose : Purpose
  target : String
  progress : Progress Socket

inductive Contact where
  | tcp (addr : SocketAddr)
  | udp (addr : SocketAddr)
  deriving DecidableEq, Repr

def Contact.addr : Contact → SocketAddr
  | .tcp addr | .udp addr => addr

structure MuxSession (Socket : Type) where
  flows : List (FlowId × TcpStream Socket)
  tcpPool : TcpPool (TcpStream Socket)

/-- The two handlers have a cache each. `contacted` is a history: the addresses of all
connection attempts and datagrams so far. -/
structure Outbound (Socket : Type) where
  muxCache : DnsCache
  vpnCache : DnsCache
  sessions : Nat → MuxSession Socket
  jobs : List (Job Socket)
  contacted : List Contact

/-- A session's jobs may overlap here, which its receive loop would not let them. -/
inductive OutboundAction (Socket : Type) where
  | createFlow (session : Nat) (f : FlowId) (target : String) (port : UInt16) (answers : Answers Socket)
  | connectRequest (target : TargetAddress)
  | advance (index : Nat) (answers : Answers Socket)
  | datagram (index : Nat)
  | removeFlow (session : Nat) (f : FlowId)
  | endSession (session : Nat)

namespace Outbound

def start : Outbound Socket where
  muxCache := []
  vpnCache := []
  sessions _ := ⟨[], fun _ => []⟩
  jobs := []
  contacted := []

def spawn (server : Outbound Socket) (purpose : Purpose) (target : String) (progress : Progress Socket) :
    Outbound Socket :=
  { server with jobs := server.jobs ++ [⟨purpose, target, progress⟩] }

def setProgress (server : Outbound Socket) (index : Nat) (job : Job Socket) (progress : Progress Socket) :
    Outbound Socket :=
  { server with jobs := server.jobs.set index { job with progress } }

def setSession (server : Outbound Socket) (session : Nat) (state : MuxSession Socket) : Outbound Socket :=
  { server with sessions := Function.update server.sessions session state }

def storeFlow (server : Outbound Socket) (session : Nat) (f : FlowId) (target : String)
    (stream : TcpStream Socket) : Outbound Socket :=
  let state := server.sessions session
  (server.setSession session { state with flows := (f, stream) :: Server.removeFlow f state.flows }).spawn
    (.preconnect session) target .checkingPool

def createFlow (world : World (TcpStream Socket)) (server : Outbound Socket) (session : Nat) (f : FlowId)
    (connectTarget : String) : Outbound Socket :=
  let state := server.sessions session
  if Mux.maxFlowsPerSession ≤ state.flows.length then server
  else
    let (pooled, queue) := popUsable world (state.tcpPool connectTarget)
    let server := server.setSession session
      { state with tcpPool := Function.update state.tcpPool connectTarget queue }
    match pooled with
    | some stream => server.storeFlow session f connectTarget stream
    | none => server.spawn (.flow session f) connectTarget .lookingUp

end Outbound

def Purpose.legacy : Purpose → Bool
  | .relayTcp _ | .relayUdp => true
  | .flow _ _ | .preconnect _ => false

/-- `allowed_cidr`, parsed: the one-flow handler does not ask whether TUN mode is enabled. -/
def Purpose.allowed (world : World (TcpStream Socket)) (config : TunNetworkConfig) (purpose : Purpose) :
    Option IpNetwork :=
  if purpose.legacy then world.parseNetwork config.tunIp else allowedNetwork world config

/-- The name in `connect_fastest`'s messages. -/
def Job.label (job : Job Socket) : String :=
  match job.purpose with
  | .relayTcp host => host
  | .flow _ _ | .preconnect _ | .relayUdp => job.target

namespace Outbound

def cache (server : Outbound Socket) (purpose : Purpose) : DnsCache :=
  if purpose.legacy then server.vpnCache else server.muxCache

def setCache (server : Outbound Socket) (purpose : Purpose) (cache : DnsCache) : Outbound Socket :=
  if purpose.legacy then { server with vpnCache := cache } else { server with muxCache := cache }

/-- The cache lookup of `connect_with_dns_cache` and `connect_to_target`; only the former
takes an address literal as it stands. -/
def lookUp (world : World (TcpStream Socket)) (purpose : Purpose) (target : String) (cache : DnsCache) :
    Progress Socket :=
  match if purpose.legacy then none else parseSocketAddrLiteral world target with
  | some addr => .connecting [addr]
  | none =>
    match cache.lookup target with
    | some entry => if world.now - entry.cachedAt < dnsTtl then .connecting entry.addrs else .resolving
    | none => .resolving

/-- What is done with the resolver's answer: the UDP relay takes the first address, if it may. -/
def resolved (world : World (TcpStream Socket)) (config : TunNetworkConfig) (purpose : Purpose)
    (addrs : List SocketAddr) : Progress Socket :=
  match purpose with
  | .relayUdp =>
    match addrs.head? with
    | none => .ended
    | some addr => if shouldBlockAddress (purpose.allowed world config) addr.ip then .ended else .sending addr
  | .flow _ _ | .preconnect _ | .relayTcp _ => .connecting addrs

/-- The addresses for which `connect_fastest` spawns an attempt. -/
def attempted (allowed : Option IpNetwork) (addrs : List SocketAddr) : List SocketAddr :=
  addrs.filter fun addr => !shouldBlockAddress allowed addr.ip

/-- The record of one run of `connect_fastest`. -/
def recordAttempts (server : Outbound Socket) (allowed : Option IpNetwork) (addrs : List SocketAddr) :
    Outbound Socket :=
  { server with contacted := server.contacted ++ (attempted allowed addrs).map Contact.tcp }

def connected (world : World (TcpStream Socket)) (server : Outbound Socket) (index : Nat) (job : Job Socket)
    (stream : TcpStream Socket) : Outbound Socket :=
  match job.purpose with
  | .flow session f => (server.setProgress index job .ended).storeFlow session f job.target stream
  | .preconnect session =>
    let state := server.sessions session
    let queue := state.tcpPool job.target ++ [(world.lookedUp, stream)]
    (server.setProgress index job .ended).setSession session
      { state with tcpPool := Function.update state.tcpPool job.target queue }
  | .relayTcp _ => server.setProgress index job (.relaying stream)
  | .relayUdp => server.setProgress index job .ended

def advance (world : World (TcpStream Socket)) (config : TunNetworkConfig) (server : Outbound Socket)
    (index : Nat) (job : Job Socket) : Option (Outbound Socket) :=
  match job.progress with
  | .checkingPool =>
    match job.purpose with
    | .preconnect session =>
      let room := ((server.sessions session).tcpPool job.target).length < maxPoolPerTarget
      some (server.setProgress index job (if room then .lookingUp else .ended))
    | .flow _ _ | .relayTcp _ | .relayUdp => none
  | .lookingUp =>
    some (server.setProgress index job (lookUp world job.purpose job.target (server.cache job.purpose)))
  | .resolving =>
    match resolveAndCache world job.target (server.cache job.purpose) with
    | (.error _, _) => some (server.setProgress index job .ended)
    | (.ok addrs, cache) =>
      some ((server.setCache job.purpose cache).setProgress index job
        (resolved world config job.purpose addrs))
  | .connecting addrs =>
    let allowed := job.purpose.allowed world config
    let server := server.recordAttempts allowed addrs
    match connectFastest world allowed addrs job.label with
    | .error _ => some (server.setProgress index job .ended)
    | .ok stream => some (server.connected world index job stream)
  | .relaying _ | .sending _ | .ended => none

def step (parsers : Parsers) (config : TunNetworkConfig) (server : Outbound Socket) :
    OutboundAction Socket → Option (Outbound Socket)
  | .createFlow session f target port answers =>
    some (server.createFlow (answers.world parsers) session f s!"{target}:{port}")
  | .connectRequest target =>
    let key := s!"{target.host}:{target.port}"
    match target.protocol with
    | .tcp => some (server.spawn (.relayTcp target.host) key .lookingUp)
    | .udp => some (server.spawn .relayUdp key .resolving)
  | .advance index answers =>
    server.jobs[index]?.bind fun job => server.advance (answers.world parsers) config index job
  | .datagram index =>
    server.jobs[index]?.bind fun job =>
      match job.progress with
      | .sending addr => some { server with contacted := server.contacted ++ [.udp addr] }
      | _ => none
  | .removeFlow session f =>
    let state := server.sessions session
    some (server.setSession session { state with flows := Server.removeFlow f state.flows })
  | .endSession session => some (server.setSession session ⟨[], fun _ => []⟩)

inductive Holds (server : Outbound Socket) (stream : TcpStream Socket) : Prop where
  | flow (session : Nat) (f : FlowId) (stored : (f, stream) ∈ (server.sessions session).flows)
  | pooled (session : Nat) (target : String) (time : Instant)
      (queued : (time, stream) ∈ (server.sessions session).tcpPool target)
  | relay (job : Job Socket) (listed : job ∈ server.jobs) (relaying : job.progress = .relaying stream)

variable {server next : Outbound Socket} {stream other : TcpStream Socket}

theorem Holds.of_same (held : next.Holds stream) (sessions : next.sessions = server.sessions)
    (jobs : next.jobs = server.jobs) : server.Holds stream := by
  cases held with
  | flow session f stored => exact .flow session f (sessions ▸ stored)
  | pooled session target time queued => exact .pooled session target time (sessions ▸ queued)
  | relay job listed relaying => exact .relay job (jobs ▸ listed) relaying

theorem Holds.of_spawn (held : (server.spawn purpose target progress).Holds stream) :
    server.Holds stream ∨ progress = .relaying stream := by
  cases held with
  | flow session f stored => exact .inl (.flow session f stored)
  | pooled session target time queued => exact .inl (.pooled session target time queued)
  | relay job listed relaying =>
    rcases List.mem_append.mp listed with earlier | added
    · exact .inl (.relay job earlier relaying)
    · obtain rfl := List.mem_singleton.mp added
      exact .inr relaying

theorem Holds.of_setProgress (held : (server.setProgress index job progress).Holds stream) :
    server.Holds stream ∨ progress = .relaying stream := by
  cases held with
  | flow session f stored => exact .inl (.flow session f stored)
  | pooled session target time queued => exact .inl (.pooled session target time queued)
  | relay other listed relaying =>
    rcases List.mem_or_eq_of_mem_set listed with kept | rfl
    · exact .inl (.relay other kept relaying)
    · exact .inr relaying

theorem Holds.of_setSession (held : (server.setSession session state).Holds stream) :
    server.Holds stream ∨ (∃ f, (f, stream) ∈ state.flows) ∨
      ∃ target time, (time, stream) ∈ state.tcpPool target := by
  cases held with
  | flow changed f stored =>
    by_cases same : changed = session
    · subst same
      exact .inr (.inl ⟨f, by simpa [setSession] using stored⟩)
    · exact .inl (.flow changed f (by simpa [setSession, same] using stored))
  | pooled changed target time queued =>
    by_cases same : changed = session
    · subst same
      exact .inr (.inr ⟨target, time, by simpa [setSession] using queued⟩)
    · exact .inl (.pooled changed target time (by simpa [setSession, same] using queued))
  | relay job listed relaying => exact .inl (.relay job listed relaying)

theorem Holds.of_setPool (held : (server.setSession session { server.sessions session with
      tcpPool := Function.update (server.sessions session).tcpPool target queue }).Holds stream) :
    server.Holds stream ∨ ∃ time, (time, stream) ∈ queue := by
  rcases held.of_setSession with kept | ⟨f, stored⟩ | ⟨other, time, queued⟩
  · exact .inl kept
  · exact .inl (.flow session f stored)
  · by_cases same : other = target
    · subst same
      exact .inr ⟨time, by simpa using queued⟩
    · exact .inl (.pooled session other time (by simpa [same] using queued))

theorem Holds.of_storeFlow (held : (server.storeFlow session f target other).Holds stream) :
    server.Holds stream ∨ stream = other := by
  rcases held.of_spawn with held | impossible
  · rcases held.of_setSession with kept | ⟨g, stored⟩ | ⟨target, time, queued⟩
    · exact .inl kept
    · rcases List.mem_cons.mp stored with added | earlier
      · exact .inr (Prod.mk.inj added).2
      · exact .inl (.flow session g (List.mem_filter.mp earlier).1)
    · exact .inl (.pooled session target time queued)
  · cases impossible

theorem Holds.of_createFlow (held : (server.createFlow world session f target).Holds stream) :
    server.Holds stream := by
  unfold createFlow at held
  dsimp only at held
  split at held
  · exact held
  · obtain ⟨popped, left⟩ := @popUsable_sublist _ world ((server.sessions session).tcpPool target)
    generalize popUsable world ((server.sessions session).tcpPool target) = result at held popped left
    have queued {stream} (held : (server.setSession session { server.sessions session with
        tcpPool := Function.update (server.sessions session).tcpPool target result.2 }).Holds stream) :
        server.Holds stream := by
      rcases held.of_setPool with kept | ⟨time, queued⟩
      · exact kept
      · exact .pooled session target time (left.subset queued)
    split at held
    · rename_i first chosen
      rcases held.of_storeFlow with kept | rfl
      · exact queued kept
      · obtain ⟨time, member⟩ := popped _ chosen
        exact .pooled session target time member
    · rcases held.of_spawn with kept | impossible
      · exact queued kept
      · cases impossible

section advance

variable {world : World (TcpStream Socket)} {config : TunNetworkConfig} {index : Nat} {job : Job Socket}

theorem lookUp_cases (world : World (TcpStream Socket)) (purpose : Purpose) (target : String) (cache : DnsCache) :
    lookUp world purpose target cache = .resolving ∨
      ∃ addrs, lookUp world purpose target cache = .connecting addrs := by
  unfold lookUp
  split
  · exact .inr ⟨_, rfl⟩
  · split
    · split
      · exact .inr ⟨_, rfl⟩
      · exact .inl rfl
    · exact .inl rfl

theorem resolved_cases (world : World (TcpStream Socket)) (config : TunNetworkConfig) (purpose : Purpose)
    (addrs : List SocketAddr) :
    resolved world config purpose addrs = .ended ∨ resolved world config purpose addrs = .connecting addrs ∨
      ∃ addr, resolved world config purpose addrs = .sending addr ∧
        shouldBlockAddress (purpose.allowed world config) addr.ip = false := by
  cases purpose with
  | relayUdp =>
    cases addrs with
    | nil => exact .inl rfl
    | cons addr rest =>
      by_cases blocked : shouldBlockAddress (Purpose.relayUdp.allowed world config) addr.ip = true
      · exact .inl (by simp [resolved, blocked])
      · exact .inr (.inr ⟨addr, by simp [resolved, blocked]⟩)
  | flow | preconnect | relayTcp => exact .inr (.inl rfl)

/-- What a job can do on its way to its next await: go on, with its cache changed at most;
fail to connect; or connect. -/
inductive Advances (world : World (TcpStream Socket)) (config : TunNetworkConfig) (server : Outbound Socket)
    (index : Nat) (job : Job Socket) : Outbound Socket → Prop where
  | goOn (cache : DnsCache) (progress : Progress Socket) (unconnected : ∀ stream, progress ≠ .relaying stream)
      (checked : ∀ addr, progress = .sending addr →
        shouldBlockAddress (job.purpose.allowed world config) addr.ip = false) :
      Advances world config server index job ((server.setCache job.purpose cache).setProgress index job progress)
  | fail (addrs : List SocketAddr) :
      Advances world config server index job
        ((server.recordAttempts (job.purpose.allowed world config) addrs).setProgress index job .ended)
  | connect (addrs : List SocketAddr) (addr : SocketAddr) (stream : TcpStream Socket)
      (listed : addr ∈ attempted (job.purpose.allowed world config) addrs)
      (accepted : world.connect addr = .connected stream) :
      Advances world config server index job
        ((server.recordAttempts (job.purpose.allowed world config) addrs).connected world index job stream)

theorem setCache_cache (server : Outbound Socket) (purpose : Purpose) :
    server.setCache purpose (server.cache purpose) = server := by
  unfold setCache cache
  split <;> rfl

theorem Advances.stay (progress : Progress Socket) (unconnected : ∀ stream, progress ≠ .relaying stream)
    (unsent : ∀ addr, progress ≠ .sending addr) :
    Advances world config server index job (server.setProgress index job progress) := by
  have goes : Advances world config server index job
      ((server.setCache job.purpose (server.cache job.purpose)).setProgress index job progress) :=
    .goOn _ progress unconnected fun addr sends => absurd sends (unsent addr)
  rwa [setCache_cache] at goes

theorem advances_of_advance (taken : server.advance world config index job = some next) :
    Advances world config server index job next := by
  unfold advance at taken
  split at taken
  · split at taken
    · cases taken
      split <;> exact .stay _ (by simp) (by simp)
    all_goals cases taken
  · cases taken
    rcases lookUp_cases world job.purpose job.target (server.cache job.purpose) with found | ⟨addrs, found⟩
    all_goals
      rw [found]
      exact .stay _ (by simp) (by simp)
  · split at taken
    · cases taken
      exact .stay _ (by simp) (by simp)
    · rename_i addrs cache answered
      cases taken
      apply Advances.goOn
      · intro stream
        rcases resolved_cases world config job.purpose addrs with found | found | ⟨addr, found, _⟩
        all_goals simp [found]
      · intro addr sends
        rcases resolved_cases world config job.purpose addrs with found | found | ⟨first, found, open_⟩
        · simp [found] at sends
        · simp [found] at sends
        · cases found.symm.trans sends
          exact open_
  · rename_i addrs connecting
    dsimp only at taken
    split at taken
    · cases taken
      exact .fail addrs
    · rename_i stream connected
      cases taken
      obtain ⟨addr, listed, accepted⟩ := connect_of_connectFastest connected
      exact .connect addrs addr stream listed accepted
  all_goals cases taken

end advance

end Outbound

end Rvpn.Server
