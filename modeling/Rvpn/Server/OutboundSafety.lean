import Rvpn.Server.Outbound

/-! Every connection the server holds comes from a recorded attempt, and every address on
record has passed the filter. -/

namespace Rvpn.Server

open Mux (FlowId)

variable {Socket : Type}

namespace Outbound

variable {server next : Outbound Socket} {stream other : TcpStream Socket}

def Recorded (server : Outbound Socket) : Prop :=
  ∀ stream, server.Holds stream → .tcp stream.peer ∈ server.contacted

theorem setCache_frame (server : Outbound Socket) (purpose : Purpose) (cache : DnsCache) :
    (server.setCache purpose cache).contacted = server.contacted ∧
      (server.setCache purpose cache).sessions = server.sessions ∧
      (server.setCache purpose cache).jobs = server.jobs := by
  unfold setCache
  split <;> exact ⟨rfl, rfl, rfl⟩

theorem contacted_connected (world : World (TcpStream Socket)) (server : Outbound Socket) (index : Nat)
    (job : Job Socket) (stream : TcpStream Socket) :
    (server.connected world index job stream).contacted = server.contacted := by
  unfold connected
  split <;> rfl

theorem Holds.of_connected (held : (server.connected world index job other).Holds stream) :
    server.Holds stream ∨ stream = other := by
  unfold connected at held
  split at held
  · rcases held.of_storeFlow with held | rfl
    · rcases held.of_setProgress with kept | impossible
      · exact .inl kept
      · cases impossible
    · exact .inr rfl
  · rename_i session purpose
    rcases Holds.of_setPool held with held | ⟨time, queued⟩
    · rcases held.of_setProgress with kept | impossible
      · exact .inl kept
      · cases impossible
    · rcases List.mem_append.mp queued with earlier | added
      · exact .inl (.pooled session job.target time earlier)
      · exact .inr (Prod.mk.inj (List.mem_singleton.mp added)).2
  · rcases held.of_setProgress with kept | relaying
    · exact .inl kept
    · exact .inr (Progress.relaying.inj relaying).symm
  · rcases held.of_setProgress with kept | impossible
    · exact .inl kept
    · cases impossible

theorem connect_peer {parsers : Parsers} {answers : Answers Socket} {addr : SocketAddr}
    (accepted : (answers.world parsers).connect addr = .connected stream) : stream.peer = addr := by
  simp only [Answers.world] at accepted
  cases outcome : answers.connect addr with
  | connected socket =>
    rw [outcome] at accepted
    cases accepted
    rfl
  | failed | timedOut | panicked => simp [outcome, Attempted.opened] at accepted

theorem Recorded.advance {answers : Answers Socket} (recorded : server.Recorded)
    (advances : Advances (answers.world parsers) config server index job next) : next.Recorded := by
  intro stream held
  cases advances with
  | goOn cache progress unconnected checked =>
    obtain ⟨contacted, sessions, jobs⟩ := setCache_frame server job.purpose cache
    rcases held.of_setProgress with kept | relaying
    · exact contacted ▸ recorded stream (kept.of_same sessions jobs)
    · exact absurd relaying (unconnected stream)
  | fail addrs =>
    rcases held.of_setProgress with kept | impossible
    · exact List.mem_append_left _ (recorded stream (kept.of_same rfl rfl))
    · cases impossible
  | connect addrs addr opened listed accepted =>
    rw [contacted_connected]
    rcases held.of_connected with kept | rfl
    · exact List.mem_append_left _ (recorded stream (kept.of_same rfl rfl))
    · rw [connect_peer accepted]
      exact List.mem_append_right _ (List.mem_map_of_mem listed)

theorem contacted_createFlow (world : World (TcpStream Socket)) (server : Outbound Socket) (session : Nat)
    (f : FlowId) (target : String) : (server.createFlow world session f target).contacted = server.contacted := by
  unfold createFlow
  dsimp only
  split
  · rfl
  · split <;> rfl

theorem Recorded.step (recorded : server.Recorded) (taken : step parsers config server action = some next) :
    next.Recorded := by
  cases action with
  | createFlow session f target port answers =>
    cases taken
    intro stream held
    rw [contacted_createFlow]
    exact recorded stream held.of_createFlow
  | connectRequest target =>
    intro stream held
    simp only [Outbound.step] at taken
    split at taken
    all_goals
      cases taken
      rcases held.of_spawn with kept | impossible
      · exact recorded stream kept
      · cases impossible
  | advance index answers =>
    obtain ⟨job, -, taken⟩ := Option.bind_eq_some_iff.mp taken
    exact recorded.advance (advances_of_advance taken)
  | datagram index =>
    obtain ⟨job, -, taken⟩ := Option.bind_eq_some_iff.mp taken
    split at taken <;> [skip; cases taken]
    cases taken
    intro stream held
    exact List.mem_append_left _ (recorded stream (held.of_same rfl rfl))
  | removeFlow session f =>
    cases taken
    intro stream held
    rcases held.of_setSession with kept | ⟨g, stored⟩ | ⟨target, time, queued⟩
    · exact recorded stream kept
    · exact recorded stream (.flow session g (List.mem_filter.mp stored).1)
    · exact recorded stream (.pooled session target time queued)
  | endSession session =>
    cases taken
    intro stream held
    rcases held.of_setSession with kept | ⟨g, stored⟩ | ⟨target, time, queued⟩
    · exact recorded stream kept
    · cases stored
    · cases queued

/-- Every address on record, and every address that a UDP relay sends to, is permitted. -/
structure Guarded (tunNetwork : Option IpNetwork) (server : Outbound Socket) : Prop where
  contacted : ∀ contact ∈ server.contacted, Permitted tunNetwork contact.addr.ip
  sending : ∀ job ∈ server.jobs, ∀ addr, job.progress = .sending addr → Permitted tunNetwork addr.ip

section guarded

variable {parsers : Parsers} {answers : Answers Socket} {config : TunNetworkConfig}
  {tunNetwork : Option IpNetwork}

/-- What a job's filter lets pass is permitted: it exempts the network of `tun_ip` or none. -/
theorem permitted_of_purpose {purpose : Purpose}
    (passed : shouldBlockAddress (purpose.allowed (answers.world parsers) config) addr = false) :
    Permitted (parsers.parseNetwork config.tunIp) addr := by
  have permitted := permitted_of_not_blocked passed
  intro reserved
  obtain ⟨form, presented, inside⟩ := permitted reserved
  refine ⟨form, presented, ?_⟩
  unfold Purpose.allowed allowedNetwork at inside
  split at inside
  · exact inside
  · split at inside
    · exact inside
    · cases inside

section

variable (guarded : server.Guarded tunNetwork)
include guarded

theorem Guarded.setProgress (checked : ∀ addr, progress = .sending addr → Permitted tunNetwork addr.ip) :
    (server.setProgress index job progress).Guarded tunNetwork := by
  refine ⟨guarded.contacted, ?_⟩
  intro other listed addr sends
  rcases List.mem_or_eq_of_mem_set listed with kept | rfl
  · exact guarded.sending other kept addr sends
  · exact checked addr sends

theorem Guarded.spawn (silent : ∀ addr, progress ≠ .sending addr) :
    (server.spawn purpose target progress).Guarded tunNetwork := by
  refine ⟨guarded.contacted, ?_⟩
  intro other listed addr sends
  rcases List.mem_append.mp listed with kept | added
  · exact guarded.sending other kept addr sends
  · obtain rfl := List.mem_singleton.mp added
    exact absurd sends (silent addr)

theorem Guarded.setSession (session : Nat) (state : MuxSession Socket) :
    (server.setSession session state).Guarded tunNetwork := ⟨guarded.contacted, guarded.sending⟩

theorem Guarded.storeFlow (session : Nat) (f : FlowId) (target : String)
    (stream : TcpStream Socket) : (server.storeFlow session f target stream).Guarded tunNetwork :=
  (guarded.setSession session _).spawn (by simp)

theorem Guarded.createFlow (world : World (TcpStream Socket))
    (session : Nat) (f : FlowId) (target : String) :
    (server.createFlow world session f target).Guarded tunNetwork := by
  unfold Outbound.createFlow
  dsimp only
  split
  · exact guarded
  · split
    · exact (guarded.setSession session _).storeFlow session f target _
    · exact (guarded.setSession session _).spawn (by simp)

end

theorem Guarded.recordAttempts (guarded : server.Guarded (parsers.parseNetwork config.tunIp)) (purpose : Purpose)
    (addrs : List SocketAddr) :
    (server.recordAttempts (purpose.allowed (answers.world parsers) config) addrs).Guarded
      (parsers.parseNetwork config.tunIp) := by
  refine ⟨?_, guarded.sending⟩
  intro contact listed
  rcases List.mem_append.mp listed with earlier | added
  · exact guarded.contacted contact earlier
  · obtain ⟨addr, attempted, rfl⟩ := List.mem_map.mp added
    have passed : shouldBlockAddress (purpose.allowed (answers.world parsers) config) addr.ip = false := by
      simpa using (List.mem_filter.mp attempted).2
    exact permitted_of_purpose passed

theorem Guarded.connected (guarded : server.Guarded tunNetwork) (world : World (TcpStream Socket)) (index : Nat)
    (job : Job Socket) (stream : TcpStream Socket) :
    (server.connected world index job stream).Guarded tunNetwork := by
  unfold Outbound.connected
  split
  · exact (guarded.setProgress (by simp)).storeFlow _ _ _ _
  · exact (guarded.setProgress (by simp)).setSession _ _
  · exact guarded.setProgress (by simp)
  · exact guarded.setProgress (by simp)

theorem Guarded.advance (guarded : server.Guarded (parsers.parseNetwork config.tunIp))
    (advances : Advances (answers.world parsers) config server index job next) :
    next.Guarded (parsers.parseNetwork config.tunIp) := by
  cases advances with
  | goOn cache progress unconnected checked =>
    obtain ⟨contacted, -, jobs⟩ := setCache_frame server job.purpose cache
    have cached : (server.setCache job.purpose cache).Guarded (parsers.parseNetwork config.tunIp) :=
      ⟨contacted ▸ guarded.contacted, jobs ▸ guarded.sending⟩
    exact cached.setProgress fun addr sends => permitted_of_purpose (checked addr sends)
  | fail addrs => exact (guarded.recordAttempts job.purpose addrs).setProgress (by simp)
  | connect addrs addr stream listed accepted => exact (guarded.recordAttempts job.purpose addrs).connected _ _ _ _

theorem Guarded.step (guarded : server.Guarded (parsers.parseNetwork config.tunIp))
    (taken : step parsers config server action = some next) :
    next.Guarded (parsers.parseNetwork config.tunIp) := by
  cases action with
  | createFlow session f target port answers =>
    cases taken
    exact guarded.createFlow _ session f _
  | connectRequest target =>
    simp only [Outbound.step] at taken
    split at taken
    all_goals
      cases taken
      exact guarded.spawn (by simp)
  | advance index answers =>
    obtain ⟨job, -, taken⟩ := Option.bind_eq_some_iff.mp taken
    exact guarded.advance (advances_of_advance taken)
  | datagram index =>
    obtain ⟨job, found, taken⟩ := Option.bind_eq_some_iff.mp taken
    split at taken <;> [rename_i addr sends; cases taken]
    cases taken
    refine ⟨?_, guarded.sending⟩
    exact List.forall_mem_append.mpr ⟨guarded.contacted,
      List.forall_mem_singleton.mpr (guarded.sending job (List.mem_of_getElem? found) addr sends)⟩
  | removeFlow session | endSession session =>
    cases taken
    exact guarded.setSession session _

end guarded

/-- Each address that the server opens a connection to or sends a datagram to is protected in no form unless a form of
it lies in the network of `tun_ip`; and each connection in a flow, a pool or a relay is one of those. -/
theorem outbound_permitted {parsers : Parsers} {config : TunNetworkConfig} {actions : List (OutboundAction Socket)}
    {final : Outbound Socket} (reached : Transition.run (step parsers config) start actions = some final) :
    (∀ contact ∈ final.contacted, Permitted (parsers.parseNetwork config.tunIp) contact.addr.ip) ∧
      ∀ stream, final.Holds stream → .tcp stream.peer ∈ final.contacted := by
  have guarded : final.Guarded (parsers.parseNetwork config.tunIp) := by
    apply Transition.run_preserves (fun _ _ _ guarded taken => guarded.step taken) _ reached
    exact ⟨by simp [start], by simp [start]⟩
  have recorded : final.Recorded := by
    apply Transition.run_preserves (fun _ _ _ recorded taken => recorded.step taken) _ reached
    intro stream held
    cases held with
    | flow session f stored => cases stored
    | pooled session target time queued => cases queued
    | relay job listed relaying => cases listed
  exact ⟨guarded.contacted, recorded⟩

namespace TunnelSample

def tunnelParsers : Parsers where
  parseNetwork _ := some ⟨.v4 #v[10, 200, 0, 0], 24, by decide⟩
  parseSocketAddr _ := some ⟨.v4 #v[10, 200, 0, 9], 80⟩
  parseIpAddr _ := none
  parsePort _ := none

def acceptingNetwork : Answers Unit where
  now := 0
  lookedUp := 0
  lookupHost _ := .ok []
  connect _ := .connected ()
  finished addrs := addrs
  finished_perm _ := .refl _
  probe _ := .wouldBlock

def tunnelActions : List (OutboundAction Unit) :=
  [.createFlow 0 1 "10.200.0.9" 80 acceptingNetwork, .advance 0 acceptingNetwork, .advance 0 acceptingNetwork]

def tunnelFinal : Outbound Unit :=
  (Transition.run (step tunnelParsers ⟨true, "10.200.0.0/24"⟩) start tunnelActions).getD start

end TunnelSample

open TunnelSample in
theorem tunnel_contact_permitted :
    tunnelFinal.contacted = [.tcp ⟨.v4 #v[10, 200, 0, 9], 80⟩] ∧ Protected (.v4 #v[10, 200, 0, 9]) ∧
      (∀ contact ∈ tunnelFinal.contacted,
        Permitted (tunnelParsers.parseNetwork "10.200.0.0/24") contact.addr.ip) ∧
      ∀ stream, tunnelFinal.Holds stream → .tcp stream.peer ∈ tunnelFinal.contacted := by
  have reached : Transition.run (step tunnelParsers ⟨true, "10.200.0.0/24"⟩) start tunnelActions =
      some tunnelFinal := rfl
  exact ⟨by decide, by decide, outbound_permitted reached⟩

end Outbound

end Rvpn.Server
