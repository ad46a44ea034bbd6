import Rvpn.SplitTunnel.DnsResolver

/-! `split_tunnel.rs`: whether a host goes through the tunnel, from the rules alone or after a look at its
addresses. -/

namespace Rvpn.SplitTunnel

open Interaction
open Server (IpAddr IpNetwork)

inductive RoutingDecision where
  | tunnel
  | bypass
  | block
  deriving DecidableEq

structure SplitTunnelConfig where
  enabled : Bool
  builtinBypassCountries : List String
  blockAds : Bool

/-- The rules as loaded; an address matches a table if one of its networks has it. -/
structure SplitTunnelData where
  bypassNetworks : List IpNetwork := []
  bypassDomains : List Text := []
  tunnelNetworks : List IpNetwork := []
  tunnelDomains : List Text := []
  blockDomains : List Text := []

/-- The lists that may be compiled in, and what the code takes from the standard library. -/
structure Builtins where
  toLowercase : Text → Text
  chinaDomains : List Text
  adDomains : List Text
  forceTunnelDomains : List Text
  getCountryIps : String → Option (List Text)
  parsers : AddressParsers

/-- `SplitTunnel`. -/
structure SplitTunnelManager where
  builtins : Builtins
  config : SplitTunnelConfig
  data : SplitTunnelData
  dnsResolver : DnsResolver

def listsHostOrParent (domains : List Text) (host : Text) : Bool :=
  let parts := host.splitOn '.'
  host ∈ domains || (List.range' 1 (parts.length - 1)).any fun i => ['.'].intercalate (parts.drop i) ∈ domains

namespace SplitTunnelManager

variable (tunnel : SplitTunnelManager)

/-- The lists from files are in lower case; the built-in ones take the host as it is. -/
def matchesDomain (host : Text) (domains : List Text) : Bool :=
  listsHostOrParent domains (tunnel.builtins.toLowercase host)

def matchesChinaDomain (host : Text) : Bool := listsHostOrParent tunnel.builtins.chinaDomains host

def matchesAdDomain (host : Text) : Bool := listsHostOrParent tunnel.builtins.adDomains host

def matchesForceTunnelDomain (host : Text) : Bool := listsHostOrParent tunnel.builtins.forceTunnelDomains host

/-- `decide`, for a host with its addresses. -/
def decideWithIps (host : Text) (ips : List IpAddr) : RoutingDecision :=
  if !tunnel.config.enabled then .tunnel
  else if tunnel.matchesDomain host tunnel.data.tunnelDomains then .tunnel
  else if tunnel.matchesDomain host tunnel.data.bypassDomains then .bypass
  else if tunnel.matchesForceTunnelDomain host then .tunnel
  else if ips.any fun ip => tunnel.data.tunnelNetworks.any (·.contains ip) then .tunnel
  else if ips.any fun ip => tunnel.data.bypassNetworks.any (·.contains ip) then .bypass
  else .tunnel

def resolveHostToIps (host : Text) : Program NetReply (Option (List IpAddr)) := do
  match ← tunnel.dnsResolver.resolve host 0 with
  | .ok addrs => pure (some (addrs.map (·.ip)))
  | .error _ => pure none

def ipsMatchCountry (ips : List IpAddr) (country : String) : Bool :=
  match tunnel.builtins.getCountryIps country with
  | none => false
  | some cidrs => ips.any fun ip => cidrs.any fun cidr =>
      (tunnel.builtins.parsers.parseNetwork cidr).any (·.contains ip)

/-- The part of `decide_by_host` that needs no addresses; `none` for a host of the built-in list for China, which
may bypass the tunnel if its addresses are there. -/
def decideByRules (host : Text) : Option RoutingDecision :=
  if !tunnel.config.enabled then some .tunnel
  else if tunnel.config.blockAds &&
      (tunnel.matchesDomain host tunnel.data.blockDomains || tunnel.matchesAdDomain host) then some .block
  else if tunnel.matchesDomain host tunnel.data.tunnelDomains then some .tunnel
  else if tunnel.matchesDomain host tunnel.data.bypassDomains then some .bypass
  else if tunnel.matchesForceTunnelDomain host then some .tunnel
  else if tunnel.config.builtinBypassCountries.contains "CN" && tunnel.matchesChinaDomain host then none
  else some .tunnel

def decideByHost (host : Text) : Program NetReply RoutingDecision :=
  match tunnel.decideByRules host with
  | some decision => pure decision
  | none => do
    match ← tunnel.resolveHostToIps host with
    | some ips => pure (if tunnel.ipsMatchCountry ips "CN" then .bypass else .tunnel)
    -- the resolution failed
    | none => pure .tunnel

variable {tunnel} {host : Text} {literal : Text → Bool} {trace : List (Event NetReply)}

theorem resolveHostToIps_quiet_iff (yields : Yields (tunnel.resolveHostToIps host) trace ips) :
    Quiet literal trace ↔ Answered host trace ∨ (literal host = true ∧ NoneSent trace) := by
  obtain ⟨first, second, resolved, rfl, resolving, ending⟩ := yields.of_bind
  have nothing : second = [] := by
    cases resolved <;> exact ending.of_pure.1
  subst nothing
  rw [List.append_nil]
  exact resolve_quiet_iff resolving

theorem trace_of_decideByRules (ruled : tunnel.decideByRules host = some decision)
    (yields : Yields (tunnel.decideByHost host) trace found) : trace = [] ∧ found = decision := by
  rw [decideByHost, ruled] at yields
  exact yields.of_pure

theorem resolving_of_decideByHost (unruled : tunnel.decideByRules host = none)
    (yields : Yields (tunnel.decideByHost host) trace decision) :
    ∃ ips, Yields (tunnel.resolveHostToIps host) trace ips := by
  rw [decideByHost, unruled] at yields
  obtain ⟨first, second, ips, rfl, resolving, ending⟩ := yields.of_bind
  have nothing : second = [] := by
    cases ips <;> exact ending.of_pure.1
  subst nothing
  rw [List.append_nil]
  exact ⟨ips, resolving⟩

theorem decideByHost_quiet_iff (yields : Yields (tunnel.decideByHost host) trace decision) :
    Quiet literal trace ↔ tunnel.decideByRules host ≠ none ∨ Answered host trace ∨
      (literal host = true ∧ NoneSent trace) := by
  cases ruled : tunnel.decideByRules host with
  | some other =>
    obtain ⟨rfl, -⟩ := trace_of_decideByRules ruled yields
    simp [Quiet]
  | none =>
    obtain ⟨ips, resolving⟩ := resolving_of_decideByHost ruled yields
    rw [resolveHostToIps_quiet_iff resolving]
    simp

theorem exists_resolveHostToIps_none : ∃ trace, Yields (tunnel.resolveHostToIps host) trace none := by
  obtain ⟨trace, error, failed⟩ :
      ∃ trace error, Yields (tunnel.dnsResolver.resolve host 0) trace (.error error) := exists_resolve_error
  exact ⟨trace ++ [], failed.bind (.done _)⟩

theorem exists_tunnel_of_decideByRules
    (untold : tunnel.decideByRules host = none ∨ tunnel.decideByRules host = some .tunnel) :
    ∃ trace, Yields (tunnel.decideByHost host) trace .tunnel := by
  rcases untold with unruled | ruled
  · rw [decideByHost, unruled]
    obtain ⟨trace, unresolved⟩ : ∃ trace, Yields (tunnel.resolveHostToIps host) trace none :=
      exists_resolveHostToIps_none
    exact ⟨_, unresolved.bind (.done _)⟩
  · rw [decideByHost, ruled]
    exact ⟨[], .done _⟩

end SplitTunnelManager

end Rvpn.SplitTunnel
