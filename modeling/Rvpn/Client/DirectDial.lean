import Rvpn.Client.ProxyRouting

/-! Direct connections of `route_connection`; each resolution of a host, and each address tried, is a question to
the environment. -/

namespace Rvpn.Client

open Interaction
open Interaction.Program (request)
open Server (IpAddr SocketAddr)
open SplitTunnel (ErrorChain NetReply RoutingDecision SplitTunnelManager Text)

inductive DialQuestion where
  /-- `resolve_host_to_ips` of the target's host. -/
  | resolve
  /-- The lookup by `TcpStream::connect`. -/
  | lookup
  | connect (address : SocketAddr)
  | tunnel
  deriving DecidableEq

def DialReply : DialQuestion → Type
  | .resolve => Option (List IpAddr)
  | .lookup => Except ErrorChain (List SocketAddr)
  | .connect _ => Except ErrorChain Unit
  | .tunnel => Except ErrorChain ServerAddr

abbrev DialProgram := Program DialReply

namespace Dial

abbrev resolve : DialProgram (Option (List IpAddr)) := request DialQuestion.resolve
abbrev lookup : DialProgram (Except ErrorChain (List SocketAddr)) := request DialQuestion.lookup
abbrev connect (address : SocketAddr) : DialProgram (Except ErrorChain Unit) := request (DialQuestion.connect address)
abbrev tunnel : DialProgram (Except ErrorChain ServerAddr) := request DialQuestion.tunnel

def connectAny : List SocketAddr → ErrorChain → DialProgram (Except ErrorChain Unit)
  | [], last => pure (.error last)
  | address :: rest, _ => do
    match ← connect address with
    | .ok () => pure (.ok ())
    | .error causes => connectAny rest causes

/-- `TcpStream::connect`. -/
def tcpConnect : DialProgram (Except ErrorChain Unit) := do
  match ← lookup with
  | .error causes => pure (.error causes)
  | .ok addresses => connectAny addresses ["could not resolve to any address"]

variable (splitTunnel : SplitTunnelManager)

def decideByHost (host : Text) : DialProgram RoutingDecision :=
  match splitTunnel.decideByRules host with
  | some decision => pure decision
  | none => do
    match ← resolve with
    | some ips => pure (if splitTunnel.ipsMatchCountry ips "CN" then .bypass else .tunnel)
    | none => pure .tunnel

def finalDecision (host : Text) : DialProgram RoutingDecision := do
  match ← decideByHost splitTunnel host with
  | .bypass => pure .bypass
  | .block => pure .block
  | .tunnel =>
    match ← resolve with
    | some ips => pure (splitTunnel.decideWithIps host ips)
    | none => pure .tunnel

def handleDirectConnection (target : ServerAddr) : DialProgram (Except ErrorChain Route) := do
  match ← tcpConnect with
  | .error causes =>
    pure (.error (("Failed to connect to " ++ String.ofList target.host ++ ":" ++ toString target.port) :: causes))
  | .ok () => pure (.ok .direct)

def followDecision (target : ServerAddr) : RoutingDecision → DialProgram (Except ErrorChain Route)
  | .bypass => handleDirectConnection target
  | .block => pure (.ok .blocked)
  | .tunnel => do
    let server ← tunnel
    pure (server.map .tunnel)

end Dial

section answers

abbrev DialEvent := Event DialReply

def isConnect : DialEvent → Bool
  | ⟨.connect _, _⟩ => true
  | _ => false

end answers

namespace Dial

variable {splitTunnel : SplitTunnelManager} {host : Text} {target : ServerAddr} {events : List DialEvent}

end Dial

namespace DialSample

open Server (IpNetwork)

def tenNet : IpNetwork := ⟨.v4 #v[10, 1, 0, 0], 17, by decide⟩
def chinaNet : IpNetwork := ⟨.v4 #v[114, 114, 0, 0], 16, by decide⟩

def splitTunnel : SplitTunnelManager where
  builtins := ⟨SplitTunnel.lowercase, ["example.cn".toList], [], [], fun _ => some ["114.114.0.0/16".toList],
    ⟨fun _ => some chinaNet, fun _ => .error "invalid IP address syntax"⟩⟩
  config := ⟨true, ["CN"], false⟩
  data := { tunnelNetworks := [tenNet] }
  dnsResolver := .new true 300 1000 true true []

def inChina : IpAddr := .v4 #v[114, 114, 8, 8]
def target : ServerAddr := ⟨"example.cn".toList, 443⟩

end DialSample

namespace Dial

end Dial

end Rvpn.Client
