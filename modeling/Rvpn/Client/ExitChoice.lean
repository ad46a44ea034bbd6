import Rvpn.Client.ProxyRouting

/-! Through which server plain requests and CONNECT requests for one target leave. -/

namespace Rvpn.Client

open Interaction
open SplitTunnel (ErrorChain NetReply RoutingDecision SplitTunnelManager Text)

/-- What a trace makes of the slot that the proxies share, if the tunnels found there were in it. -/
def followSlot : Option ServerAddr → List (Event RouteReply) → Option (Option ServerAddr)
  | slot, [] => some slot
  | _, ⟨.inr (.storeTunnel server), _⟩ :: rest => followSlot (some server) rest
  | slot, ⟨.inr .muxTunnel, (found : Option ServerAddr)⟩ :: rest =>
    -- a tunnel that is dead is not found, and no longer there
    if found = none ∨ found = slot then followSlot found rest else none
  | slot, _ :: rest => followSlot slot rest

def Aside : Event RouteReply → Prop
  | ⟨.inr (.storeTunnel _), _⟩ => False
  | ⟨.inr .muxTunnel, _⟩ => False
  | _ => True

theorem IsDial.aside (dials : IsDial event) : Aside event := by
  obtain ⟨question | question, reply⟩ := event
  · trivial
  · cases question <;> exact dials

theorem followSlot_cons_of_aside (aside : Aside event) : followSlot slot (event :: rest) = followSlot slot rest := by
  obtain ⟨question, reply⟩ := event
  cases question with
  | inl question => rfl
  | inr question => cases question <;> first | exact aside.elim | rfl

theorem followSlot_append_of_aside (aside : ∀ event ∈ first, Aside event) :
    followSlot slot (first ++ rest) = followSlot slot rest := by
  induction first with
  | nil => rfl
  | cons event onward ih =>
    rw [List.cons_append, followSlot_cons_of_aside (aside event List.mem_cons_self)]
    exact ih fun event listed => aside event (List.mem_cons_of_mem _ listed)

theorem followSlot_of_aside (aside : ∀ event ∈ trace, Aside event) : followSlot slot trace = some slot := by
  rw [← List.append_nil trace, followSlot_append_of_aside aside]
  rfl

structure Desktop where
  socks5 : ProxyHandle
  http : ProxyHandle

def Desktop.new (loading : Loading) (splitTunnel : SplitTunnelManager) (config : ClientConfig) :
    Except ErrorChain Desktop := do
  let socks5 ← Socks5Proxy.new loading splitTunnel config
  return ⟨socks5, HttpProxy.new config socks5⟩

inductive DesktopRequest where
  | socks5 (target : Text)
  | connect (uri : Text)
  | plain (uri hostFromHeader : Text)
  deriving DecidableEq

namespace Desktop

def serve (desktop : Desktop) : DesktopRequest → RouteProgram (Except ErrorChain Route)
  | .socks5 target => (Request.route target).run desktop.socks5
  | .connect uri => (Request.route (connectTarget uri)).run desktop.http
  | .plain uri hostFromHeader => (Request.forward uri hostFromHeader).run desktop.http

/-- A request is handled, with what is asked and replied meanwhile. The state is the shared slot, which is locked from
its first use to its last. -/
def step (desktop : Desktop) (slot : Option ServerAddr) (action : DesktopRequest × List (Event RouteReply)) :
    Option (Option ServerAddr) :=
  ((desktop.serve action.1).replay action.2).bind fun _ => followSlot slot action.2

/-- After some requests, one of this kind may leave through a tunnel to the server. -/
def LeavesThrough (desktop : Desktop) (request : DesktopRequest) (server : ServerAddr) : Prop :=
  ∃ actions slot trace next, Transition.run desktop.step none actions = some slot ∧
    Yields (desktop.serve request) trace (.ok (.tunnel server)) ∧ followSlot slot trace = some next

end Desktop

namespace Request

variable {handle : ProxyHandle} {slot next : Option ServerAddr} {trace : List (Event RouteReply)}

def usesSlot (handle : ProxyHandle) : Request → Bool
  | .route _ => handle.mode = .multiplex
  | .forward _ _ => true

end Request

namespace ProxyHandle

variable {handle : ProxyHandle} {slot next : Option ServerAddr} {trace : List (Event RouteReply)} {host : Text}

theorem sharedTunnel_slot (connecting : Only IsDial connect)
    (yields : Yields (handle.sharedTunnel connect) trace result) (followed : followSlot slot trace = some next) :
    (next = slot ∨ next = none ∨ next = some handle.server) ∧
      ∀ server, result = .ok server → server = handle.server ∨ slot = some server := by
  obtain ⟨found, rest, rfl, going⟩ := yields.of_request_bind
  obtain ⟨there, later⟩ := Option.ite_none_right_eq_some.mp followed
  cases found with
  | some server =>
    obtain ⟨rfl, rfl⟩ := going.of_pure
    have held : some server = slot := there.resolve_left (by simp)
    cases later
    refine ⟨.inl held, ?_⟩
    rintro other ⟨⟩
    exact .inr held.symm
  | none =>
    obtain ⟨first, second, connected, rfl, dialling, ending⟩ := going.of_bind
    rw [followSlot_append_of_aside fun event listed => (connecting first connected dialling event listed).aside] at later
    cases connected with
    | error causes =>
      obtain ⟨rfl, rfl⟩ := ending.of_pure
      cases later
      exact ⟨.inr (.inl rfl), fun server same => (by cases same)⟩
    | ok _ =>
      obtain ⟨written, final, rfl, stored⟩ := ending.of_request_bind
      obtain ⟨rfl, rfl⟩ := stored.of_pure
      cases later
      refine ⟨.inr (.inr rfl), ?_⟩
      rintro server ⟨⟩
      exact .inl rfl

def chosenServer (handle : ProxyHandle) (host : Text) : ServerAddr :=
  (handle.pool.getOrDefault (handle.router.choose handle.parsers host)).addr

theorem handleTunnelPooled_server : (handle.handleTunnelPooled host).After past fun _ result =>
    ∀ server, result = .ok server → server = handle.chosenServer host := by
  unfold handleTunnelPooled
  split
  · refine after_request fun picked => ?_
    cases picked <;> rintro _ ⟨⟩
    rfl
  · rintro _ ⟨⟩

theorem handleTunnelLegacy_server : (handle.handleTunnelLegacy host).After past fun _ result =>
    ∀ server, result = .ok server → server = handle.chosenServer host := by
  refine after_request fun connected => ?_
  cases connected <;> rintro _ ⟨⟩
  rfl

end ProxyHandle

/-- What a request does to the slot, and the server it may leave through. -/
structure SlotUse (handle : ProxyHandle) (uses : Bool) (host : Text) (slot next : Option ServerAddr)
    (result : Except ErrorChain ServerAddr) : Prop where
  after : next = slot ∨ next = none ∨ uses = true ∧ next = some handle.server
  through : ∀ server, result = .ok server →
    if uses then server = handle.server ∨ slot = some server else server = handle.chosenServer host

namespace Request

variable {handle : ProxyHandle} {slot next : Option ServerAddr} {trace : List (Event RouteReply)} {host : Text}

theorem throughTunnel_slot (request : Request)
    (yields : Yields (request.throughTunnel handle host) trace result)
    (followed : followSlot slot trace = some next) :
    SlotUse handle (request.usesSlot handle) host slot next result := by
  have shared : ∀ {connect : RouteProgram (Except ErrorChain Unit)}, Only IsDial connect →
      Yields (handle.sharedTunnel connect) trace result → SlotUse handle true host slot next result := by
    intro connect connecting yields
    obtain ⟨after, through⟩ := ProxyHandle.sharedTunnel_slot connecting yields followed
    exact ⟨after.imp_right (Or.imp_right fun same => ⟨rfl, same⟩), through⟩
  cases request with
  | forward uri hostFromHeader => exact shared ProxyHandle.connectOnce_dials yields
  | route target =>
    change Yields (handle.handleTunnel host) trace result at yields
    change SlotUse handle (decide (handle.mode = .multiplex)) host slot next result
    cases mode : handle.mode with
    | multiplex =>
      rw [ProxyHandle.handleTunnel, mode] at yields
      exact shared (ProxyHandle.connectAttempts_dials _ _) yields
    | pooled =>
      rw [ProxyHandle.handleTunnel, mode] at yields
      have dials := ProxyHandle.handleTunnelPooled_dials trace result yields
      rw [followSlot_of_aside fun event listed => (dials event listed).aside] at followed
      cases followed
      exact ⟨.inl rfl, yields.after ProxyHandle.handleTunnelPooled_server⟩
    | legacy =>
      rw [ProxyHandle.handleTunnel, mode] at yields
      have dials := ProxyHandle.handleTunnelLegacy_dials trace result yields
      rw [followSlot_of_aside fun event listed => (dials event listed).aside] at followed
      cases followed
      exact ⟨.inl rfl, yields.after ProxyHandle.handleTunnelLegacy_server⟩

theorem aside_lift (inner : List (Event NetReply)) :
    ∀ event ∈ (inner.map Event.lift : List (Event RouteReply)), Aside event := by
  intro event listed
  obtain ⟨below, -, rfl⟩ := List.mem_map.mp listed
  trivial

theorem run_slot (request : Request) {target : ServerAddr} (aimed : request.target = .ok target)
    (yields : Yields (request.run handle) trace result) (followed : followSlot slot trace = some next) :
    ∃ tunnelled, SlotUse handle (request.usesSlot handle) target.host slot next tunnelled ∧
      ∀ server, result = .ok (.tunnel server) → tunnelled = .ok server := by
  rw [run, aimed] at yields
  obtain ⟨decision, rest, -, onward, same⟩ := ProxyHandle.routeTo_trace (request.throughTunnel_beyond _) yields
  rw [same, followSlot_append_of_aside (aside_lift _)] at followed
  have idle : SlotUse handle (request.usesSlot handle) target.host slot slot (.error []) :=
    ⟨.inl rfl, fun server same => (by cases same)⟩
  cases decision with
  | bypass =>
    obtain ⟨connected, final, rfl, ending⟩ := onward.of_request_bind
    cases connected with
    | error | ok =>
      obtain ⟨rfl, rfl⟩ := ending.of_pure
      cases followed
      exact ⟨_, idle, fun server same => (by cases same)⟩
  | block =>
    obtain ⟨rfl, rfl⟩ := onward.of_pure
    cases followed
    exact ⟨_, idle, fun server same => (by cases same)⟩
  | tunnel =>
    obtain ⟨first, final, tunnelled, rfl, through, ending⟩ := onward.of_bind
    obtain ⟨rfl, rfl⟩ := ending.of_pure
    rw [List.append_nil] at followed
    refine ⟨tunnelled, request.throughTunnel_slot through followed, ?_⟩
    intro server mapped
    cases tunnelled with
    | error causes => cases mapped
    | ok other =>
      cases mapped
      rfl

theorem run_slot_after (request : Request) (yields : Yields (request.run handle) trace result)
    (followed : followSlot slot trace = some next) :
    next = slot ∨ next = none ∨ request.usesSlot handle = true ∧ next = some handle.server := by
  cases aimed : request.target with
  | error causes =>
    rw [run, aimed] at yields
    obtain ⟨rfl, -⟩ := yields.of_pure
    cases followed
    exact .inl rfl
  | ok target =>
    obtain ⟨tunnelled, use, -⟩ := request.run_slot aimed yields followed
    exact use.after

theorem exists_fresh {request : Request} (uses : request.usesSlot handle = true) (slot : Option ServerAddr) :
    ∃ trace, Yields (request.throughTunnel handle host) trace (.ok handle.server) ∧
      followSlot slot trace = some (some handle.server) := by
  cases request with
  | forward uri hostFromHeader =>
    refine ⟨[⟨.inr .muxTunnel, (none : Option ServerAddr)⟩,
      ⟨.inr (.connectTunnel handle.server handle.derivedMuxPath), (.ok () : Except ErrorChain Unit)⟩,
      ⟨.inr (.storeTunnel handle.server), ()⟩], ?_, rfl⟩
    exact .ask _ (.ask _ (.ask _ (.done _)))
  | route target =>
    have mode : handle.mode = .multiplex := of_decide_eq_true uses
    refine ⟨[⟨.inr .muxTunnel, (none : Option ServerAddr)⟩,
      ⟨.inr (.connectTunnel handle.server handle.derivedMuxPath), (.ok () : Except ErrorChain Unit)⟩,
      ⟨.inr .stillAlive, true⟩, ⟨.inr (.storeTunnel handle.server), ()⟩], ?_, rfl⟩
    rw [throughTunnel, ProxyHandle.handleTunnel, mode]
    exact .ask _ (.ask _ (.ask _ (.ask _ (.done _))))

theorem exists_found {request : Request} (uses : request.usesSlot handle = true) (server : ServerAddr) :
    ∃ trace, Yields (request.throughTunnel handle host) trace (.ok server) ∧
      followSlot (some server) trace = some (some server) := by
  refine ⟨[⟨.inr .muxTunnel, some server⟩], ?_, if_pos (.inr rfl)⟩
  cases request with
  | forward uri hostFromHeader => exact .ask _ (.done _)
  | route target =>
    have mode : handle.mode = .multiplex := of_decide_eq_true uses
    rw [throughTunnel, ProxyHandle.handleTunnel, mode]
    exact .ask _ (.done _)

theorem exists_chosen {target : Text} (mode : handle.mode ≠ .multiplex)
    (pools : handle.mode = .pooled → handle.tunnelPools = true) (slot : Option ServerAddr) :
    ∃ trace, Yields ((Request.route target).throughTunnel handle host) trace (.ok (handle.chosenServer host)) ∧
      followSlot slot trace = some slot := by
  rw [throughTunnel, ProxyHandle.handleTunnel]
  cases same : handle.mode with
  | multiplex => exact absurd same mode
  | pooled =>
    refine ⟨[⟨.inr (.pickTunnel (handle.chosenServer host)), (.ok () : Except ErrorChain Unit)⟩], ?_, rfl⟩
    simp only [ProxyHandle.handleTunnelPooled, pools same, if_true]
    exact .ask _ (.done _)
  | legacy =>
    exact ⟨[⟨.inr (.connectRelay (handle.chosenServer host) _), (.ok () : Except ErrorChain Unit)⟩],
      .ask _ (.done _), rfl⟩

theorem exists_run {request : Request} {target : ServerAddr} (aimed : request.target = .ok target)
    {inner : List (Event NetReply)} (decides : Yields (handle.finalDecision target.host) inner .tunnel)
    {server : ServerAddr}
    (exists_through : ∃ trace, Yields (request.throughTunnel handle target.host) trace (.ok server) ∧
      followSlot slot trace = some next) :
    ∃ trace, Yields (request.run handle) trace (.ok (.tunnel server)) ∧ followSlot slot trace = some next := by
  obtain ⟨trace, through, followed⟩ := exists_through
  refine ⟨inner.map Event.lift ++ (trace ++ []), ?_, ?_⟩
  · rw [run, aimed]
    exact decides.lift.bind (through.bind (.done _))
  · rw [followSlot_append_of_aside (aside_lift inner), List.append_nil]
    exact followed

end Request

namespace Desktop

variable {desktop : Desktop} {slot next : Option ServerAddr}

/-- A tunnel in the slot was made by the HTTP proxy, or by the SOCKS5 proxy in its multiplex mode. -/
def Held (desktop : Desktop) (slot : Option ServerAddr) : Prop :=
  ∀ server, slot = some server →
    server = desktop.http.server ∨ desktop.socks5.mode = .multiplex ∧ server = desktop.socks5.server

theorem Held.of_use {handle : ProxyHandle} {request : Request} (held : Held desktop slot)
    (own : request.usesSlot handle = true → Held desktop (some handle.server))
    (after : next = slot ∨ next = none ∨ request.usesSlot handle = true ∧ next = some handle.server) :
    Held desktop next := by
  rcases after with rfl | rfl | ⟨uses, rfl⟩
  · exact held
  · intro server present
    cases present
  · exact own uses

theorem Held.step (held : Held desktop slot) (taken : desktop.step slot action = some next) : Held desktop next := by
  obtain ⟨served, trace⟩ := action
  obtain ⟨result, replayed, followed⟩ := Option.bind_eq_some_iff.mp taken
  have yields := yields_of_replay replayed
  have ofHttp : Held desktop (some desktop.http.server) := by
    rintro server ⟨⟩
    exact .inl rfl
  cases served with
  | socks5 target =>
    refine held.of_use (fun uses => ?_) (Request.run_slot_after _ yields followed)
    rintro server ⟨⟩
    exact .inr ⟨of_decide_eq_true uses, rfl⟩
  | connect | plain => exact held.of_use (fun _ => ofHttp) (Request.run_slot_after _ yields followed)

theorem held_of_run (reached : Transition.run desktop.step none actions = some slot) : Held desktop slot :=
  Transition.run_preserves (fun _ _ _ held taken => held.step taken) (fun server present => (by cases present)) reached

structure Configured (config : ClientConfig) (desktop : Desktop) : Prop where
  http : desktop.http.server = (HttpProxy.parseServerUrl config.serverAddress).1
  socks5 : desktop.socks5.server = (ServerPool.parseServerUrl config.serverAddress).1
  socks5Mode : desktop.socks5.mode = config.effectiveMode
  httpMode : desktop.http.mode = HttpProxy.mode config
  shared : desktop.socks5.splitTunnel = desktop.http.splitTunnel
  pools : desktop.http.mode = .pooled → desktop.http.tunnelPools = true

theorem pooled_of_mode (pooled : HttpProxy.mode config = .pooled) :
    config.effectiveMode = .pooled := by
  unfold HttpProxy.mode at pooled
  split at pooled
  · cases pooled
  · split at pooled
    · assumption
    · cases pooled

theorem configured_of_new (made : Desktop.new loading splitTunnel config = .ok desktop) :
    Configured config desktop := by
  obtain ⟨socks5, started, made⟩ := SplitTunnel.bind_eq_ok made
  cases made
  obtain ⟨-, -, started⟩ := SplitTunnel.bind_eq_ok started
  obtain ⟨pool, loaded, started⟩ := SplitTunnel.bind_eq_ok started
  obtain ⟨router, -, started⟩ := SplitTunnel.bind_eq_ok started
  dsimp only at started
  split at started
  · cases started
  · split at started
    · obtain ⟨-, -, started⟩ := SplitTunnel.bind_eq_ok started
      cases started
      exact ⟨rfl, ServerPool.default_of_fromConfig loaded, rfl, rfl, rfl,
        fun pooled => decide_eq_true (pooled_of_mode pooled)⟩
    · cases started
      exact ⟨rfl, ServerPool.default_of_fromConfig loaded, rfl, rfl, rfl,
        fun pooled => decide_eq_true (pooled_of_mode pooled)⟩

theorem server_of_leavesThrough {handle : ProxyHandle} {request : Request} {target : ServerAddr}
    (serves : desktop.serve served = request.run handle) (aimed : request.target = .ok target)
    (leaves : desktop.LeavesThrough served server) :
    if request.usesSlot handle then server = handle.server ∨ Held desktop (some server)
    else server = handle.chosenServer target.host := by
  obtain ⟨actions, slot, trace, next, reached, yields, followed⟩ := leaves
  rw [serves] at yields
  obtain ⟨tunnelled, use, same⟩ := request.run_slot aimed yields followed
  have through := use.through server (same server rfl)
  split
  · rename_i uses
    rw [if_pos uses] at through
    rcases through with own | there
    · exact .inl own
    · exact .inr (there ▸ held_of_run reached)
  · rename_i unused
    rw [if_neg unused] at through
    exact through

theorem leavesThrough_of_through {handle : ProxyHandle} {request : Request} {target : ServerAddr}
    {inner : List (Event NetReply)}
    (serves : desktop.serve served = request.run handle) (aimed : request.target = .ok target)
    (decides : Yields (handle.finalDecision target.host) inner .tunnel)
    (through : ∃ trace, Yields (request.throughTunnel handle target.host) trace (.ok server) ∧
      followSlot none trace = some next) : desktop.LeavesThrough served server := by
  obtain ⟨trace, yields, followed⟩ := Request.exists_run aimed decides through
  exact ⟨[], none, trace, next, rfl, serves ▸ yields, followed⟩

theorem plain_leavesThrough_socks5 {socksTarget plainUri hostFromHeader : Text} {target : ServerAddr}
    (aimed : (Request.route socksTarget).target = .ok target)
    (forwards : (Request.forward plainUri hostFromHeader).target = .ok target)
    (shared : desktop.socks5.splitTunnel = desktop.http.splitTunnel) (mode : desktop.socks5.mode = .multiplex)
    {inner : List (Event NetReply)} (decides : Yields (desktop.http.finalDecision target.host) inner .tunnel) :
    desktop.LeavesThrough (.plain plainUri hostFromHeader) desktop.socks5.server := by
  have uses : (Request.route socksTarget).usesSlot desktop.socks5 = true := decide_eq_true mode
  have alike : Yields (desktop.socks5.finalDecision target.host) inner .tunnel := by
    rw [ProxyHandle.finalDecision, shared]
    exact decides
  obtain ⟨filling, filled, stored⟩ := Request.exists_run aimed alike (Request.exists_fresh uses none)
  obtain ⟨trace, yields, followed⟩ := Request.exists_run forwards decides
    (Request.exists_found rfl desktop.socks5.server)
  refine ⟨[(.socks5 socksTarget, filling)], _, trace, _, ?_, yields, followed⟩
  rw [Transition.run_singleton]
  exact Option.bind_eq_some_iff.mpr ⟨_, replay_of_yields filled, stored⟩

theorem exists_connect_leavesThrough {target : ServerAddr}
    {inner : List (Event NetReply)}
    (connects : (Request.route (connectTarget uri)).target = .ok target)
    (pools : desktop.http.mode = .pooled → desktop.http.tunnelPools = true)
    (decides : Yields (desktop.http.finalDecision target.host) inner .tunnel) :
    ∃ server, desktop.LeavesThrough (.connect uri) server ∧
      (desktop.http.mode = .multiplex ∨ server = desktop.http.chosenServer target.host) := by
  by_cases mode : desktop.http.mode = .multiplex
  · have uses : (Request.route (connectTarget uri)).usesSlot desktop.http = true := decide_eq_true mode
    exact ⟨_, leavesThrough_of_through rfl connects decides (Request.exists_fresh uses none), .inl mode⟩
  · exact ⟨_, leavesThrough_of_through rfl connects decides (Request.exists_chosen mode pools none), .inr rfl⟩

/-- Plain requests for a target always leave through the same server as CONNECT requests for it exactly if the HTTP
proxy is in multiplex mode, or the router picks for the host a server with the address that the HTTP proxy itself
reads from the configuration; and if, where the SOCKS5 proxy fills the shared tunnel as well, both read the same
address. -/
theorem same_exit_iff (loading : Loading) (splitTunnel : SplitTunnelManager) (config : ClientConfig) (desktop : Desktop)
    (made : Desktop.new loading splitTunnel config = .ok desktop) (uri plainUri hostFromHeader : Text)
    (target : ServerAddr) (connects : parseTarget (connectTarget uri) = .ok target)
    (forwards : (Request.forward plainUri hostFromHeader).target = .ok target)
    (decides : ∃ inner, Yields (desktop.http.finalDecision target.host) inner .tunnel) :
    (∀ plain connect, desktop.LeavesThrough (.plain plainUri hostFromHeader) plain →
      desktop.LeavesThrough (.connect uri) connect → plain = connect) ↔
    (HttpProxy.mode config = .multiplex ∨
      desktop.http.chosenServer target.host = (HttpProxy.parseServerUrl config.serverAddress).1) ∧
    (config.effectiveMode = .multiplex →
      (ServerPool.parseServerUrl config.serverAddress).1 = (HttpProxy.parseServerUrl config.serverAddress).1) := by
  have configured := configured_of_new made
  have connects : (Request.route (connectTarget uri)).target = .ok target := connects
  obtain ⟨inner, decides⟩ := decides
  rw [← configured.http, ← configured.socks5, ← configured.socks5Mode, ← configured.httpMode]
  constructor
  · intro same
    have plainOwn : desktop.LeavesThrough (.plain plainUri hostFromHeader) desktop.http.server :=
      leavesThrough_of_through rfl forwards decides (Request.exists_fresh rfl none)
    obtain ⟨connect, leaves, place⟩ := exists_connect_leavesThrough connects configured.pools decides
    have own := same _ connect plainOwn leaves
    refine ⟨place.imp_right fun chosen => (own.trans chosen).symm, ?_⟩
    intro mode
    have plainShared := plain_leavesThrough_socks5 connects forwards configured.shared mode decides
    exact (same _ connect plainShared leaves).trans own.symm
  · rintro ⟨chosen, agree⟩ plain connect leavesPlain leavesConnect
    have ownOnly : ∀ server,
        server = desktop.http.server ∨ Held desktop (some server) → server = desktop.http.server := by
      rintro server (own | held)
      · exact own
      · rcases held server rfl with own | ⟨mode, other⟩
        · exact own
        · exact other.trans (agree mode)
    have first : plain = desktop.http.server := ownOnly plain (server_of_leavesThrough rfl forwards leavesPlain)
    have second := server_of_leavesThrough rfl connects leavesConnect
    rw [first]
    split at second
    · exact (ownOnly connect second).symm
    · rename_i unused
      have mode : desktop.http.mode ≠ .multiplex := fun same => unused (decide_eq_true same)
      exact (second.trans (chosen.resolve_left mode)).symm

end Desktop

namespace ExitChoiceSample

open ProxySample

def loading : Loading := ⟨.ok (), fun _ => .ok (), fun _ => "", parsers⟩

def single : ClientConfig where
  serverAddress := "wss://vpn.example.org/ws".toList
  prekeyBundle := some "bundle.json".toList

def routed : ClientConfig := { single with
  extraServers := [⟨"sg".toList, "wss://sg.example.org/ws".toList, "sg.json".toList⟩]
  routing := [("sg", ⟨["example.com".toList], []⟩)] }

def uri : Text := "example.com:80".toList

def plainUri : Text := "http://example.com/".toList

end ExitChoiceSample

namespace Desktop

open ExitChoiceSample ProxySample in
theorem single_server_same_exit :
    ∃ desktop, Desktop.new loading splitTunnel single = .ok desktop ∧
      ∀ plain connect, desktop.LeavesThrough (.plain plainUri []) plain → desktop.LeavesThrough (.connect uri) connect →
        plain = connect := by
  obtain ⟨desktop, made, chosen, ruled⟩ : ∃ desktop, Desktop.new loading splitTunnel single = .ok desktop ∧
      desktop.http.chosenServer host = server ∧ desktop.http.splitTunnel.decideByRules host = some .tunnel := by
    decide +kernel
  refine ⟨desktop, made, ?_⟩
  refine (same_exit_iff loading splitTunnel single desktop made uri plainUri [] ⟨host, 80⟩ (by decide +kernel)
    (by decide +kernel) (ProxyHandle.exists_finalDecision_tunnel (.inr ruled))).mpr ⟨.inr ?_, ?_⟩
  · exact chosen.trans (by decide +kernel)
  · exact nofun

open ExitChoiceSample ProxySample in
/-- A domain of the second server: CONNECT goes there, a plain request to the first. -/
theorem routed_target_other_exit :
    ∃ desktop plain connect, Desktop.new loading splitTunnel routed = .ok desktop ∧
      parseTarget (connectTarget uri) = .ok ⟨host, 80⟩ ∧ (Request.forward plainUri []).target = .ok ⟨host, 80⟩ ∧
      desktop.LeavesThrough (.plain plainUri []) plain ∧ desktop.LeavesThrough (.connect uri) connect ∧
      plain ≠ connect := by
  obtain ⟨desktop, made, other, ruled, mode⟩ : ∃ desktop, Desktop.new loading splitTunnel routed = .ok desktop ∧
      desktop.http.server ≠ desktop.http.chosenServer host ∧
      desktop.http.splitTunnel.decideByRules host = some .tunnel ∧ desktop.http.mode = .legacy := by
    decide +kernel
  have connects : (Request.route (connectTarget uri)).target = .ok ⟨host, 80⟩ := by decide +kernel
  have forwards : (Request.forward plainUri []).target = .ok ⟨host, 80⟩ := by decide +kernel
  obtain ⟨inner, decides⟩ := ProxyHandle.exists_finalDecision_tunnel (.inr ruled)
  refine ⟨desktop, desktop.http.server, desktop.http.chosenServer host, made, connects, forwards, ?_, ?_, other⟩
  · exact leavesThrough_of_through rfl forwards decides (Request.exists_fresh rfl none)
  · refine leavesThrough_of_through rfl connects decides (Request.exists_chosen ?_ ?_ none)
    · simp [mode]
    · simp [mode]

end Desktop

end Rvpn.Client
