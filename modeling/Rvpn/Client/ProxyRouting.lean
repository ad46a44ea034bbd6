import Rvpn.Client.ServerPool

/-! Where a connection of the desktop proxies goes: `route_connection`, and the forwarding of plain requests. -/

namespace Rvpn.Client

open Interaction
open Interaction.Program (request)
open SplitTunnel (Answered ErrorChain NetQuestion NetReply NoneSent Quiet Router RoutingDecision SplitTunnelManager Text
  defaultServerName isLocalLookup trimEnd)

inductive ProxyQuestion where
  /-- The tunnel in the slot that the proxies share; one that is dead is dropped. -/
  | muxTunnel
  /-- `Socks5Tunnel::connect`. -/
  | connectTunnel (server : ServerAddr) (path : Text)
  | stillAlive
  | storeTunnel (server : ServerAddr)
  /-- `pick_tunnel`, of the pool for a server. -/
  | pickTunnel (server : ServerAddr)
  /-- `StreamRelay::connect`. -/
  | connectRelay (server : ServerAddr) (path : Text)
  | connectDirect (target : ServerAddr)
  deriving DecidableEq

def ProxyReply : ProxyQuestion → Type
  | .muxTunnel => Option ServerAddr
  | .connectTunnel _ _ => Except ErrorChain Unit
  | .stillAlive => Bool
  | .storeTunnel _ => Unit
  | .pickTunnel _ => Except ErrorChain Unit
  | .connectRelay _ _ => Except ErrorChain Unit
  | .connectDirect _ => Except ErrorChain Unit

abbrev RouteReply : NetQuestion ⊕ ProxyQuestion → Type := Sum.elim NetReply ProxyReply

abbrev RouteProgram := Program RouteReply

namespace Proxy

abbrev muxTunnel : RouteProgram (Option ServerAddr) := request (Sum.inr ProxyQuestion.muxTunnel)
abbrev connectTunnel (server : ServerAddr) (path : Text) : RouteProgram (Except ErrorChain Unit) :=
  request (Sum.inr (ProxyQuestion.connectTunnel server path))
abbrev stillAlive : RouteProgram Bool := request (Sum.inr ProxyQuestion.stillAlive)
abbrev storeTunnel (server : ServerAddr) : RouteProgram Unit := request (Sum.inr (ProxyQuestion.storeTunnel server))
abbrev pickTunnel (server : ServerAddr) : RouteProgram (Except ErrorChain Unit) :=
  request (Sum.inr (ProxyQuestion.pickTunnel server))
abbrev connectRelay (server : ServerAddr) (path : Text) : RouteProgram (Except ErrorChain Unit) :=
  request (Sum.inr (ProxyQuestion.connectRelay server path))
abbrev connectDirect (target : ServerAddr) : RouteProgram (Except ErrorChain Unit) :=
  request (Sum.inr (ProxyQuestion.connectDirect target))

end Proxy

inductive Route where
  | direct
  | tunnel (server : ServerAddr)
  | blocked
  deriving DecidableEq

def parseTarget (target : Text) : Except ErrorChain ServerAddr :=
  match rsplitOnce ':' target with
  | none => .error ["Invalid target format"]
  | some (host, port) =>
    match parseUnsigned 16 port with
    | none => .error ["Invalid port"]
    | some port => .ok ⟨host, .ofNat port⟩

def connectTarget (uri : Text) : Text := if ':' ∈ uri then uri else uri ++ ":443".toList

/-- The target of a plain request and the path for it, from an absolute URI or from the header. -/
def forwardTarget (uri hostFromHeader : Text) : Except ErrorChain (ServerAddr × Text) :=
  match stripStart "http://".toList uri with
  | some withoutScheme =>
    match splitOnce '/' withoutScheme with
    | some (authority, path) => .ok (splitHostPort 80 authority, '/' :: path)
    | none => .ok (splitHostPort 80 withoutScheme, ['/'])
  | none =>
    if hostFromHeader = [] then .error ["No host in request and no Host header"]
    else .ok (splitHostPort 80 hostFromHeader, uri)

namespace ProxyHandle

variable (handle : ProxyHandle)

def finalDecision (host : Text) : Program NetReply RoutingDecision := do
  match ← handle.splitTunnel.decideByHost host with
  | .bypass => pure .bypass
  | .block => pure .block
  | .tunnel =>
    match ← handle.splitTunnel.resolveHostToIps host with
    | some ips => pure (handle.splitTunnel.decideWithIps host ips)
    | none => pure .tunnel

def derivedMuxPath : Text :=
  if handle.muxPath = [] then
    let base := trimEnd (· = '/') handle.serverPath
    if "/mux".toList.isSuffixOf base then base else base ++ "/mux".toList
  else handle.muxPath

def sharedTunnel (connect : RouteProgram (Except ErrorChain Unit)) : RouteProgram (Except ErrorChain ServerAddr) := do
  match ← Proxy.muxTunnel with
  | some server => pure (.ok server)
  | none =>
    match ← connect with
    | .error causes => pure (.error causes)
    | .ok () =>
      Proxy.storeTunnel handle.server
      pure (.ok handle.server)

def connectAttempts : Nat → ErrorChain → RouteProgram (Except ErrorChain Unit)
  | 0, last =>
    pure (.error
      (("Failed to create multiplexed tunnel (mux_path='" ++ String.ofList handle.derivedMuxPath ++ "')") :: last))
  | left + 1, _ => do
    match ← Proxy.connectTunnel handle.server handle.derivedMuxPath with
    | .error causes => connectAttempts left causes
    | .ok () =>
      if ← Proxy.stillAlive then pure (.ok ())
      else connectAttempts left ["Tunnel died immediately after creation"]

def maxTunnelRetries : Nat := 3

def handleTunnelMultiplexed : RouteProgram (Except ErrorChain ServerAddr) :=
  handle.sharedTunnel (handle.connectAttempts maxTunnelRetries ["Failed to create multiplexed tunnel after 3 attempts"])

def handleTunnelPooled (host : Text) : RouteProgram (Except ErrorChain ServerAddr) := do
  if handle.tunnelPools then
    let exitName := handle.router.choose handle.parsers host
    let server := handle.pool.getOrDefault exitName
    match ← Proxy.pickTunnel server.addr with
    | .error causes => pure (.error (("Failed to pick pooled tunnel via exit '" ++ exitName ++ "'") :: causes))
    | .ok () => pure (.ok server.addr)
  else pure (.error ["pooled mode requires tunnel pools"])

def handleTunnelLegacy (host : Text) : RouteProgram (Except ErrorChain ServerAddr) := do
  let server := handle.pool.getOrDefault (handle.router.choose handle.parsers host)
  match ← Proxy.connectRelay server.addr server.path with
  | .error causes => pure (.error (("Failed to connect StreamRelay to server '" ++ server.name ++ "'") :: causes))
  | .ok () => pure (.ok server.addr)

def handleTunnel (host : Text) : RouteProgram (Except ErrorChain ServerAddr) :=
  match handle.mode with
  | .multiplex => handle.handleTunnelMultiplexed
  | .pooled => handle.handleTunnelPooled host
  | .legacy => handle.handleTunnelLegacy host

def connectOnce : RouteProgram (Except ErrorChain Unit) := do
  match ← Proxy.connectTunnel handle.server handle.derivedMuxPath with
  | .error causes => pure (.error ("Failed to create multiplexed tunnel" :: causes))
  | .ok () => pure (.ok ())

def forwardThroughMuxTunnel : RouteProgram (Except ErrorChain ServerAddr) := handle.sharedTunnel handle.connectOnce

def handleDirect (target : ServerAddr) : RouteProgram (Except ErrorChain Route) := do
  match ← Proxy.connectDirect target with
  | .error causes =>
    pure (.error (("Failed to connect to " ++ String.ofList target.host ++ ":" ++ toString target.port) :: causes))
  | .ok () => pure (.ok .direct)

def followDecision (target : ServerAddr) (throughTunnel : RouteProgram (Except ErrorChain ServerAddr)) :
    RoutingDecision → RouteProgram (Except ErrorChain Route)
  | .bypass => handleDirect target
  | .block => pure (.ok .blocked)
  | .tunnel => do
    let server ← throughTunnel
    pure (server.map .tunnel)

def routeTo (target : ServerAddr) (throughTunnel : RouteProgram (Except ErrorChain ServerAddr)) :
    RouteProgram (Except ErrorChain Route) := do
  let decision ← (handle.finalDecision target.host).lift
  followDecision target throughTunnel decision

end ProxyHandle

inductive Request where
  /-- `route_connection`. -/
  | route (target : Text)
  /-- `handle_http_forward`, for a request whose body has been read. -/
  | forward (uri hostFromHeader : Text)
  deriving DecidableEq

namespace Request

def target : Request → Except ErrorChain ServerAddr
  | .route target => parseTarget target
  | .forward uri hostFromHeader => (forwardTarget uri hostFromHeader).map (·.1)

def throughTunnel (handle : ProxyHandle) (host : Text) : Request → RouteProgram (Except ErrorChain ServerAddr)
  | .route _ => handle.handleTunnel host
  | .forward _ _ => handle.forwardThroughMuxTunnel

def run (handle : ProxyHandle) (request : Request) : RouteProgram (Except ErrorChain Route) :=
  match request.target with
  | .error causes => pure (.error causes)
  | .ok target => handle.routeTo target (request.throughTunnel handle target.host)

end Request

def Beyond (event : Event RouteReply) : Prop := event.inner? = none

/-- A connection is made, or checked; the shared slot is left alone. -/
def IsDial : Event RouteReply → Prop
  | ⟨.inl _, _⟩ => False
  | ⟨.inr (.storeTunnel _), _⟩ => False
  | ⟨.inr .muxTunnel, _⟩ => False
  | _ => True

theorem IsDial.beyond (dials : IsDial event) : Beyond event := by
  obtain ⟨question | question, reply⟩ := event
  · exact dials.elim
  · rfl

namespace ProxyHandle

variable {handle : ProxyHandle} {host : Text} {target : ServerAddr} {trace : List (Event RouteReply)}
  {throughTunnel : RouteProgram (Except ErrorChain ServerAddr)}

theorem connectAttempts_dials (left : Nat) (last : ErrorChain) : Only IsDial (handle.connectAttempts left last) := by
  induction left generalizing last with
  | zero => exact only_pure _
  | succ left ih =>
    refine only_bind (only_request fun _ => trivial) fun connected => ?_
    cases connected with
    | error causes => exact ih _
    | ok _ =>
      refine only_bind (only_request fun _ => trivial) fun alive => ?_
      cases alive with
      | false => exact ih _
      | true => exact only_pure _

theorem sharedTunnel_beyond (connecting : Only IsDial connect) : Only Beyond (handle.sharedTunnel connect) := by
  refine only_bind (only_request fun _ => rfl) fun found => ?_
  cases found with
  | some server => exact only_pure _
  | none =>
    refine only_bind (connecting.mono fun _ => IsDial.beyond) fun connected => ?_
    cases connected with
    | error causes => exact only_pure _
    | ok _ => exact only_bind (only_request fun _ => rfl) fun _ => only_pure _

theorem connectOnce_dials : Only IsDial handle.connectOnce := by
  refine only_bind (only_request fun _ => trivial) fun connected => ?_
  cases connected <;> exact only_pure _

theorem handleTunnelPooled_dials : Only IsDial (handle.handleTunnelPooled host) := by
  unfold handleTunnelPooled
  split
  · refine only_bind (only_request fun _ => trivial) fun picked => ?_
    cases picked <;> exact only_pure _
  · exact only_pure _

theorem handleTunnelLegacy_dials : Only IsDial (handle.handleTunnelLegacy host) := by
  refine only_bind (only_request fun _ => trivial) fun connected => ?_
  cases connected <;> exact only_pure _

theorem handleTunnel_beyond : Only Beyond (handle.handleTunnel host) := by
  unfold handleTunnel
  split
  · exact sharedTunnel_beyond (connectAttempts_dials _ _)
  · exact handleTunnelPooled_dials.mono fun _ => IsDial.beyond
  · exact handleTunnelLegacy_dials.mono fun _ => IsDial.beyond

theorem followDecision_beyond (through : Only Beyond throughTunnel) (decision : RoutingDecision) :
    Only Beyond (followDecision target throughTunnel decision) := by
  cases decision with
  | bypass =>
    refine only_bind (only_request fun _ => rfl) fun connected => ?_
    cases connected <;> exact only_pure _
  | block => exact only_pure _
  | tunnel => exact only_bind through fun _ => only_pure _

theorem routeTo_trace (through : Only Beyond throughTunnel)
    (yields : Yields (handle.routeTo target throughTunnel) trace result) :
    ∃ decision rest, Yields (handle.finalDecision target.host) (innerTrace trace) decision ∧
      Yields (followDecision target throughTunnel decision) rest result ∧
      trace = (innerTrace trace).map Event.lift ++ rest := by
  obtain ⟨first, rest, decision, rfl, deciding, onward⟩ := yields.of_bind
  obtain ⟨inner, rfl, decided⟩ := deciding.of_lift
  have beyond := followDecision_beyond through decision rest result onward
  rw [innerTrace_append, innerTrace_lift, innerTrace_eq_nil beyond, List.append_nil]
  exact ⟨decision, rest, decided, onward, rfl⟩

theorem exists_finalDecision_tunnel (untold : handle.splitTunnel.decideByRules host = none ∨
    handle.splitTunnel.decideByRules host = some .tunnel) :
    ∃ inner, Yields (handle.finalDecision host) inner .tunnel := by
  obtain ⟨first, decided⟩ := SplitTunnelManager.exists_tunnel_of_decideByRules untold
  obtain ⟨second, unresolved⟩ : ∃ trace, Yields (handle.splitTunnel.resolveHostToIps host) trace none :=
    SplitTunnelManager.exists_resolveHostToIps_none
  exact ⟨first ++ (second ++ []), decided.bind (unresolved.bind (.done _))⟩

end ProxyHandle

namespace Request

variable {handle : ProxyHandle} {trace : List (Event RouteReply)}

theorem throughTunnel_beyond (request : Request) (host : Text) : Only Beyond (request.throughTunnel handle host) := by
  cases request with
  | route target => exact ProxyHandle.handleTunnel_beyond
  | forward uri hostFromHeader => exact ProxyHandle.sharedTunnel_beyond ProxyHandle.connectOnce_dials

end Request

namespace ProxySample

def parsers : SplitTunnel.AddressParsers := ⟨fun _ => none, fun _ => .error "invalid IP address syntax"⟩

def splitTunnel : SplitTunnelManager where
  builtins := ⟨SplitTunnel.lowercase, [], [], [], fun _ => none, parsers⟩
  config := ⟨false, [], false⟩
  data := {}
  dnsResolver := .new true 300 1000 true true []

def server : ServerAddr := ⟨"vpn.example.org".toList, 443⟩

def handle : ProxyHandle where
  server := server
  serverPath := "/ws".toList
  splitTunnel := splitTunnel
  mode := .legacy
  muxPath := []
  tunnelPools := false
  pool := .single ⟨defaultServerName, server, "/ws".toList⟩
  router := ⟨[], .empty⟩
  parsers := parsers

def host : Text := "example.com".toList

def connection : Request := .route "example.com:443".toList

def relayed : Event RouteReply :=
  ⟨.inr (.connectRelay server "/ws".toList), (.ok () : Except ErrorChain Unit)⟩

def settled : Event RouteReply :=
  ⟨.inl (.entry host), some (⟨[.v4 #v[93, 184, 216, 34]], 0, 300000, false⟩, 1000)⟩

def lookedUp : List (Event RouteReply) :=
  [⟨.inl (.entry host), (none : Option (SplitTunnel.DnsEntry × Nat))⟩,
    ⟨.inl (.lookupHost host 0), (.ok [⟨.v4 #v[93, 184, 216, 34], 0⟩] : Except String (List Server.SocketAddr))⟩,
    ⟨.inl (.store host [.v4 #v[93, 184, 216, 34]] 300000), ()⟩]

end ProxySample

namespace Request

end Request

end Rvpn.Client
