import Rvpn.Mobile.DnsServer

/-! Which queries of the phones' DNS server go through the tunnel. -/

namespace Rvpn.Mobile

open Interaction
open Server (Instant IpAddr SocketAddr)
open SplitTunnel (AddressParsers Answered NoneSent Quiet Router RoutingDecision SplitTunnelManager Text trimDots)

def DohOutcome.handedOver : DohOutcome → Bool
  | .notStarted => false
  | .channelClosed => false
  | _ => true

def sentThroughTunnel : Event DnsReply → Bool
  | ⟨.inr (.dohQuery _ _ _), outcome⟩ => DohOutcome.handedOver outcome
  | _ => false

def IsOuter (event : Event DnsReply) : Prop := event.inner? = none

/-- The event is between the server and the DoH client of an exit, or notes what was found there. -/
def AsksExit : Event DnsReply → Prop
  | ⟨.inr (.reply _ _), _⟩ => False
  | ⟨.inr _, _⟩ => True
  | ⟨.inl _, _⟩ => False

theorem AsksExit.outer (asks : AsksExit event) : IsOuter event := by
  obtain ⟨question | question, reply⟩ := event
  · exact asks.elim
  · rfl

section tunnelled

variable {exit : Option String} {domain : Text} {queryType : UInt16}

theorem lookupCached_asks : Only AsksExit (DohClient.lookupCached exit domain queryType) :=
  only_bind (only_request fun _ => trivial) fun _ => only_pure _

theorem getCachedTtl_asks : Only AsksExit (DohClient.getCachedTtl exit domain queryType) :=
  only_bind (only_request fun _ => trivial) fun _ => only_pure _

theorem askTunnel_asks : Only AsksExit (DohClient.askTunnel exit domain queryType) := by
  refine only_bind (only_request fun _ => trivial) fun outcome => ?_
  cases outcome with
  | response response =>
    dsimp only
    split
    · exact only_bind (only_request fun _ => trivial) fun _ => only_pure _
    · exact only_bind (only_request fun _ => trivial) fun _ => only_pure _
  | notStarted | channelClosed | timedOut | replyClosed => exact only_pure _

theorem resolve_asks : Only AsksExit (DohClient.resolve exit domain queryType) := by
  refine only_bind (only_request fun _ => trivial) fun found => ?_
  split
  · split
    · exact only_pure _
    · exact only_pure _
  · exact askTunnel_asks

theorem note_asks (addrs : List IpAddr) (cached : Bool) :
    Only AsksExit (DnsServer.note exit domain queryType addrs cached) := by
  refine only_bind getCachedTtl_asks fun remaining => ?_
  cases exit with
  | none => exact only_pure _
  | some exit => exact only_bind (only_request fun _ => trivial) fun _ => only_pure _

theorem lookUpThroughTunnel_asks : Only AsksExit (DnsServer.lookUpThroughTunnel domain queryType exit) := by
  refine only_bind lookupCached_asks fun cached => ?_
  cases cached with
  | some addrs => exact note_asks addrs true
  | none =>
    refine only_bind resolve_asks fun resolved => ?_
    cases resolved with
    | ok addrs => exact note_asks addrs false
    | error causes => exact only_pure _

theorem lookUpThroughTunnel_can :
    Can (DnsServer.lookUpThroughTunnel domain queryType exit)
      ⟨.inr (.dohQuery exit domain queryType), DohOutcome.timedOut⟩ := by
  have missed : Yields (DohClient.lookupCached exit domain queryType)
      [⟨.inr (.dohEntry exit domain queryType), (none : Option (CacheEntry × Instant))⟩] none := .ask _ (.done _)
  have read : Yields (Phone.dohEntry exit domain queryType)
      [⟨.inr (.dohEntry exit domain queryType), (none : Option (CacheEntry × Instant))⟩] none :=
    yields_request _
  have asked : Can (DohClient.askTunnel exit domain queryType)
      ⟨.inr (.dohQuery exit domain queryType), DohOutcome.timedOut⟩ := (can_request _ _).bind _
  have resolved : Can (DohClient.resolve exit domain queryType)
      ⟨.inr (.dohQuery exit domain queryType), DohOutcome.timedOut⟩ := .after read asked
  exact .after missed (resolved.bind _)

end tunnelled

namespace DnsServer

variable {server : DnsServer} {message : Message} {query : Query} {exit : Option String} {client : SocketAddr}

theorem resolveRemote_asks : Only AsksExit (server.resolveRemote message query exit) := by
  unfold resolveRemote
  split
  · exact only_pure _
  · split
    · refine only_bind lookUpThroughTunnel_asks fun found => ?_
      cases found <;> exact only_pure _
    · exact only_pure _

theorem resolveTunnelMinimal_asks :
    Only AsksExit (server.resolveTunnelMinimal message query domain exit) := by
  unfold resolveTunnelMinimal
  split
  · exact only_pure _
  · split
    · refine only_bind lookUpThroughTunnel_asks fun found => ?_
      cases found <;> exact only_pure _
    · exact only_pure _

theorem respond_only
    (permitted : ∀ bytes (outcome : Except String Unit), allowed ⟨.inr (.reply client bytes), outcome⟩) :
    Only allowed (server.respond client serializing sending response) := by
  unfold respond
  split
  · exact only_pure _
  · refine only_bind (only_request (permitted _)) fun outcome => ?_
    cases outcome <;> exact only_pure _

theorem respond_undecided :
    (server.respond client serializing sending response).After past fun _ handled => handled.decision = none := by
  unfold respond
  split
  · exact rfl
  · refine after_request fun outcome => ?_
    cases outcome <;> exact rfl

theorem handleQuery_unsent (asked : message.queries = query :: rest)
    (own : server.normalize query.name ∈ server.serverHostnames) :
    Only (sentThroughTunnel · = false) (server.handleQuery message client) := by
  have listed : server.serverHostnames.any (· = server.normalize query.name) = true :=
    List.any_eq_true.mpr ⟨_, own, decide_eq_true rfl⟩
  unfold handleQuery
  rw [asked]
  split
  · exact only_pure _
  · split
    · exact only_pure _
    · dsimp only
      split
      · exact respond_only fun _ _ => rfl
      · split
        · exact respond_only fun _ _ => rfl
        · split
          · exact respond_only fun _ _ => rfl
          · exact only_bind (only_lift fun _ => rfl) fun _ => respond_only fun _ _ => rfl

theorem handleDecided_outer : Only IsOuter (server.handleDecided message query client .tunnel) := by
  refine only_bind (resolveRemote_asks.mono fun _ => AsksExit.outer) fun response => ?_
  split
  · exact only_pure _
  · exact only_bind (only_request fun _ => rfl) fun _ => only_pure _

theorem handleDecided_decision : (server.handleDecided message query client decision).After past fun _ handled =>
    handled.decision = some decision := by
  refine after_true.bind fun _ response _ _ => ?_
  split
  · exact rfl
  · exact after_request fun _ => rfl

theorem handleQuery_routed (asked : message.queries = query :: rest) :
    (server.handleQuery message client).After [] fun trace handled => handled.decision = some .tunnel →
      Yields (server.splitTunnel.decideByHost (server.normalize query.name)) (innerTrace trace) .tunnel := by
  have undecided {serializing sending : String} {response : Message} {past : List (Event DnsReply)} :
      (server.respond client serializing sending response).After past fun trace handled =>
        handled.decision = some .tunnel →
          Yields (server.splitTunnel.decideByHost (server.normalize query.name)) (innerTrace trace) .tunnel :=
    respond_undecided.imp fun _ _ undecided decided => (by cases undecided.symm.trans decided)
  unfold handleQuery
  rw [asked]
  iterate 2
    split
    · rintro ⟨⟩
  dsimp only
  iterate 3
    split
    · exact undecided
  split
  · exact after_true.bind fun _ _ _ _ => undecided
  · refine after_yields.lift.bind fun trace decision _ routed => ?_
    cases decision with
    | tunnel =>
      refine (handleDecided_outer.after trace).imp ?_
      rintro _ _ ⟨new, rfl, outer⟩ -
      rwa [innerTrace_append, innerTrace_eq_nil outer, List.append_nil]
    | bypass | block =>
      exact handleDecided_decision.imp fun _ _ other decided => (by cases other.symm.trans decided)

theorem resolveRaw_routed (parsed : server.codec.fromVec data = .ok message) (asked : message.queries = query :: rest) :
    (server.resolveRaw data).After [] fun trace handled => handled.decision = some .tunnel →
      Yields (server.splitTunnel.decideByHost (trimDots query.name)) (innerTrace trace) .tunnel := by
  simp only [resolveRaw, parsed, Router.withContext, asked]
  split
  · rintro ⟨⟩
  · refine after_yields.lift.bind fun trace decision _ routed => ?_
    cases decision with
    | tunnel =>
      refine .bind (resolveTunnelMinimal_asks.after trace) ?_
      rintro _ result - ⟨new, rfl, asks⟩ -
      rwa [innerTrace_append, innerTrace_eq_nil fun event listed => (asks event listed).outer, List.append_nil]
    | bypass | block =>
      refine after_true.bind fun _ _ _ _ => ?_
      rintro ⟨⟩

end DnsServer

namespace EntryPoint

variable {server : DnsServer} {data : Bytes} {message : Message} {query : Query} {rest : List Query}
  {trace : List (Event DnsReply)}

theorem run_routed {entry : EntryPoint} (parsed : server.codec.fromVec data = .ok message)
    (asked : message.queries = query :: rest) : (entry.run server data).After [] fun trace decision =>
      decision = some .tunnel →
        Yields (server.splitTunnel.decideByHost (entry.domain server query)) (innerTrace trace) .tunnel := by
  cases entry with
  | udp client =>
    simp only [run, parsed]
    exact (DnsServer.handleQuery_routed asked).bind fun _ _ _ routed => routed
  | raw => exact (DnsServer.resolveRaw_routed parsed asked).bind fun _ _ _ routed => routed

/-- Where the decision is for the tunnel, the name was looked up nowhere outside it exactly if the rules alone
decided, or the resolver's cache settled it, or it is an address to the system's resolver and no packet was sent to a
nameserver. -/
theorem tunnel_quiet_iff (server : DnsServer) (literal : Text → Bool) (entry : EntryPoint) (data : Bytes)
    (message : Message) (query : Query) (rest : List Query) (parsed : server.codec.fromVec data = .ok message)
    (asked : message.queries = query :: rest) (trace : List (Event DnsReply))
    (yields : Yields (entry.run server data) trace (some .tunnel)) :
    Quiet literal (innerTrace trace) ↔
      server.splitTunnel.decideByRules (entry.domain server query) ≠ none ∨
      Answered (entry.domain server query) (innerTrace trace) ∨
      (literal (entry.domain server query) = true ∧ NoneSent (innerTrace trace)) :=
  SplitTunnelManager.decideByHost_quiet_iff (yields.after (run_routed parsed asked) rfl)

/-- The queries that the extension hands over and that are never asked of a DoH client. -/
def StaysOutside (server : DnsServer) (query : Query) : Prop :=
  (server.filterAaaa = true ∧ query.queryType = .aaaa) ∨ query.queryType.number? = none ∨
    server.splitTunnel.decideByRules (trimDots query.name) = some .bypass ∨
    server.splitTunnel.decideByRules (trimDots query.name) = some .block ∨
    server.dohClientFor (server.chooseExit (trimDots query.name)) = false

theorem raw_can_of_not_staysOutside (parsed : server.codec.fromVec data = .ok message)
    (asked : message.queries = query :: rest) (inside : ¬ StaysOutside server query) :
    ∃ event, sentThroughTunnel event = true ∧ Can (EntryPoint.raw.run server data) event := by
  simp only [StaysOutside, not_or] at inside
  obtain ⟨unfiltered, supported, noBypass, noBlock, noClient⟩ := inside
  obtain ⟨number, numbered⟩ := Option.ne_none_iff_exists'.mp supported
  have client := Bool.of_not_eq_false noClient
  have untold : server.splitTunnel.decideByRules (trimDots query.name) = none ∨
      server.splitTunnel.decideByRules (trimDots query.name) = some .tunnel := by
    cases ruled : server.splitTunnel.decideByRules (trimDots query.name) with
    | none => exact .inl rfl
    | some decision =>
      cases decision with
      | tunnel => exact .inr rfl
      | bypass => exact absurd ruled noBypass
      | block => exact absurd ruled noBlock
  obtain ⟨deciding, decided⟩ := SplitTunnelManager.exists_tunnel_of_decideByRules untold
  refine ⟨⟨.inr (.dohQuery (server.chooseExit (trimDots query.name)) (trimDots query.name) number),
    DohOutcome.timedOut⟩, rfl, ?_⟩
  have minimal : Can (server.resolveDecided data message query .tunnel)
      ⟨.inr (.dohQuery (server.chooseExit (trimDots query.name)) (trimDots query.name) number),
        DohOutcome.timedOut⟩ := by
    simp only [DnsServer.resolveDecided, DnsServer.resolveTunnelMinimal, numbered, client, if_true]
    exact lookUpThroughTunnel_can.bind _
  simp only [run, DnsServer.resolveRaw, parsed, Router.withContext, asked, if_neg unfiltered]
  exact Can.bind (.after decided.lift (minimal.bind _)) _

theorem raw_unsent_of_staysOutside (parsed : server.codec.fromVec data = .ok message)
    (asked : message.queries = query :: rest) (outside : StaysOutside server query) :
    Only (sentThroughTunnel · = false) (EntryPoint.raw.run server data) := by
  refine only_bind ?_ fun _ => only_pure _
  simp only [DnsServer.resolveRaw, parsed, Router.withContext, asked]
  split
  · exact only_pure _
  · rename_i unfiltered
    intro trace handled yields event listed
    obtain ⟨first, later, decision, rfl, routing, onward⟩ := yields.of_bind
    obtain ⟨inner, rfl, deciding⟩ := routing.of_lift
    have unsent : Only (sentThroughTunnel · = false) (server.resolveDecided data message query decision) := by
      cases decision with
      | block => exact only_pure _
      | bypass => exact only_lift fun _ => rfl
      | tunnel =>
        rcases outside with filtered | unsupported | ruled | ruled | missing
        · exact absurd filtered unfiltered
        · simp only [DnsServer.resolveDecided, DnsServer.resolveTunnelMinimal, unsupported]
          exact only_pure _
        · cases (SplitTunnelManager.trace_of_decideByRules ruled deciding).2
        · cases (SplitTunnelManager.trace_of_decideByRules ruled deciding).2
        · simp only [DnsServer.resolveDecided, DnsServer.resolveTunnelMinimal, missing]
          split <;> exact only_pure _
    rcases List.mem_append.mp listed with early | late
    · obtain ⟨below, -, rfl⟩ := List.mem_map.mp early
      rfl
    · exact only_bind unsent (fun _ => only_pure _) later handled onward event late

/-- A query for a name that is, but for case and dots at the end, one of the servers' own never goes through a DoH
client exactly if, at the entry of the extension, it is a filtered query for AAAA records or one of a type that is not
resolved, the rules decide against the tunnel, or the exit of the domain has no client. -/
theorem server_name_unsent_iff (server : DnsServer) (hostnames : List Text) (data : Bytes) (message : Message)
    (query : Query) (rest : List Query) (parsed : server.codec.fromVec data = .ok message)
    (asked : message.queries = query :: rest)
    (own : ∃ hostname ∈ hostnames, server.normalize hostname = server.normalize query.name) :
    (∀ (entry : EntryPoint) trace decision,
      Yields (entry.run (server.setServerHostnames hostnames) data) trace decision →
      ∀ event ∈ trace, sentThroughTunnel event = false) ↔ StaysOutside server query := by
  have same : StaysOutside (server.setServerHostnames hostnames) query ↔ StaysOutside server query := Iff.rfl
  have parsed : (server.setServerHostnames hostnames).codec.fromVec data = .ok message := parsed
  constructor
  · intro unsent
    by_contra inside
    obtain ⟨event, sent, trace, decision, yields, listed⟩ :=
      raw_can_of_not_staysOutside parsed asked (same.not.mpr inside)
    rw [unsent .raw trace decision yields event listed] at sent
    cases sent
  · intro outside entry
    cases entry with
    | raw => exact raw_unsent_of_staysOutside parsed asked (same.mpr outside)
    | udp client =>
      have listed : (server.setServerHostnames hostnames).normalize query.name ∈
          (server.setServerHostnames hostnames).serverHostnames := by
        obtain ⟨hostname, configured, equal⟩ := own
        exact List.mem_map.mpr ⟨hostname, configured, equal⟩
      simp only [run, parsed]
      exact only_bind (DnsServer.handleQuery_unsent asked listed) fun _ => only_pure _

end EntryPoint

namespace DnsServerSample

def vpnName : Text := "vpn.example.com".toList

def chinaName : Text := "www.qq.com".toList

def parsers : AddressParsers where
  parseNetwork text := if text = "1.0.1.0/24".toList then some ⟨.v4 #v[1, 0, 1, 0], 24, by decide⟩ else none
  parseIpAddr _ := .error "invalid IP address syntax"

def splitTunnel : SplitTunnelManager where
  builtins := {
    toLowercase := SplitTunnel.lowercase
    chinaDomains := ["qq.com".toList]
    adDomains := []
    forceTunnelDomains := []
    getCountryIps := fun country => if country = "CN" then some ["1.0.1.0/24".toList] else none
    parsers }
  config := ⟨true, ["CN"], false⟩
  data := { bypassDomains := ["bypass.example.com".toList] }
  dnsResolver := .new true 14400 200 false true []

def queryFor (name : Text) : Message where
  id := 0x1234
  messageType := .query
  opCode := .query
  recursionDesired := true
  queries := [⟨name ++ ['.'], .a⟩]

def codec : MessageCodec where
  fromVec data := .ok (queryFor (if data = [1] then "VPN.example.com".toList
    else if data = [2] then chinaName else "bypass.example.com".toList))
  toVec message := .ok [message.answers.length.toUInt8]

def server : DnsServer := { splitTunnel, codec, dohClient := true }

def miss (name : Text) : Event DnsReply :=
  ⟨.inr (.dohEntry none name 1), (none : Option (CacheEntry × Instant))⟩

def throughTunnel (name : Text) : List (Event DnsReply) :=
  [miss name, miss name,
    ⟨.inr (.dohQuery none name 1), DohOutcome.response ⟨1, true, [#v[203, 0, 113, 7]], [], 300, none⟩⟩,
    ⟨.inr (.dohStore none name 1 [.v4 #v[203, 0, 113, 7]] false 300000), ()⟩, miss name]

def lookedUp : List (Event DnsReply) :=
  [⟨.inl (.entry chinaName), (none : Option (SplitTunnel.DnsEntry × Nat))⟩,
    ⟨.inl (.lookupHost chinaName 0), (.ok [⟨.v4 #v[203, 0, 113, 7], 0⟩] : Except String (List SocketAddr))⟩,
    ⟨.inl (.store chinaName [.v4 #v[203, 0, 113, 7]] 14400000), ()⟩]

def settled : List (Event DnsReply) :=
  [⟨.inl (.entry chinaName), some (⟨[.v4 #v[203, 0, 113, 7]], 0, 14400000, false⟩, 1000)⟩]

end DnsServerSample

namespace EntryPoint

open DnsServerSample in
theorem bypassed_server_name_unsent :
    StaysOutside server ⟨"bypass.example.com.".toList, .a⟩ ∧ ∀ (entry : EntryPoint) trace decision,
      Yields (entry.run (server.setServerHostnames ["Bypass.example.com".toList]) [3]) trace decision →
        ∀ event ∈ trace, sentThroughTunnel event = false := by
  have outside : StaysOutside server ⟨"bypass.example.com.".toList, .a⟩ := .inr (.inr (.inl (by decide +kernel)))
  refine ⟨outside, ?_⟩
  exact (server_name_unsent_iff server ["Bypass.example.com".toList] [3] (queryFor "bypass.example.com".toList)
    ⟨"bypass.example.com.".toList, .a⟩ [] rfl rfl ⟨_, List.mem_singleton.mpr rfl, by decide +kernel⟩).mpr outside

open DnsServerSample in
/-- The extension's query for the server's own name is answered through the tunnel. -/
theorem server_name_sent_through_tunnel :
    Yields (EntryPoint.raw.run (server.setServerHostnames [vpnName]) [1])
      (throughTunnel "VPN.example.com".toList) (some .tunnel) ∧
    server.normalize vpnName = server.normalize "VPN.example.com.".toList ∧
    ∃ event ∈ throughTunnel "VPN.example.com".toList, sentThroughTunnel event = true := by
  refine ⟨yields_of_replay (by decide +kernel), by decide +kernel, ?_⟩
  exact ⟨⟨.inr (.dohQuery none "VPN.example.com".toList 1), _⟩, .tail _ (.tail _ (.head _)), rfl⟩

open DnsServerSample in
theorem settled_site_quiet :
    ∃ trace, Yields (EntryPoint.raw.run server [2]) trace (some .tunnel) ∧
      Quiet (fun _ => false) (innerTrace trace) := by
  have yields : Yields (EntryPoint.raw.run server [2]) (settled ++ throughTunnel chinaName) (some .tunnel) :=
    yields_of_replay (by decide +kernel)
  refine ⟨_, yields, ?_⟩
  refine (tunnel_quiet_iff server (fun _ => false) .raw [2] (queryFor chinaName) ⟨chinaName ++ ['.'], .a⟩ [] rfl rfl _
    yields).mpr (.inr (.inl ?_))
  exact ⟨⟨[.v4 #v[203, 0, 113, 7]], 0, 14400000, false⟩, 1000, .head _, by decide⟩

open DnsServerSample in
/-- A site of the built-in list is looked up by the system's resolver, and then goes through the tunnel. -/
theorem site_looked_up_outside_tunnel :
    Yields (EntryPoint.raw.run server [2]) (lookedUp ++ throughTunnel chinaName) (some .tunnel) ∧
      ¬ Quiet (fun _ => false) (innerTrace (lookedUp ++ throughTunnel chinaName)) := by
  refine ⟨yields_of_replay (by decide +kernel), ?_⟩
  intro quiet
  cases quiet ⟨.lookupHost chinaName 0, _⟩ (.tail _ (.head _))

end EntryPoint

end Rvpn.Mobile
