import Rvpn.Mobile.DohClient
import Rvpn.SplitTunnel.Decision

/-! `dns_server.rs`: the DNS server of the phones; a query through the tunnel is a question to the environment. -/

namespace Rvpn.Mobile

open Interaction
open Interaction.Program (request)
open Server (Instant IpAddr SocketAddr)
open SplitTunnel (ErrorChain NetReply NetQuestion Router RoutingDecision SplitTunnelManager Text defaultServerName
  forwardInTurn trimDots)

inductive MessageType where
  | query
  | response
  deriving DecidableEq

inductive OpCode where
  | query
  | status
  | notify
  | update
  deriving DecidableEq

inductive ResponseCode where
  | noError
  | servFail
  | nxDomain
  | other (code : UInt16)
  deriving DecidableEq

inductive RecordType where
  | a
  | aaaa
  | other (code : UInt16)
  deriving DecidableEq

def RecordType.number? : RecordType → Option UInt16
  | .a => some 1
  | .aaaa => some 28
  | .other _ => none

/-- Names are written in ASCII, with the dot of the root at the end. -/
structure Query where
  name : Text
  queryType : RecordType
  deriving DecidableEq

inductive RData where
  | a (octets : Vector UInt8 4)
  | aaaa (segments : Vector UInt16 8)
  | other (bytes : Bytes)
  deriving DecidableEq

structure Record where
  name : Text
  ttl : Nat
  data : Option RData
  deriving DecidableEq

structure Message where
  id : UInt16
  messageType : MessageType
  opCode : OpCode
  authoritative : Bool := false
  recursionDesired : Bool := false
  recursionAvailable : Bool := false
  responseCode : ResponseCode := .noError
  queries : List Query := []
  answers : List Record := []
  further : Bytes := []
  deriving DecidableEq

/-- `Message::from_vec` and `to_vec` of `hickory_proto`. -/
structure MessageCodec where
  fromVec : Bytes → Except ErrorChain Message
  toVec : Message → Except ErrorChain Bytes

structure CacheEntry where
  addresses : List IpAddr
  expiresAt : Instant
  failed : Bool
  deriving DecidableEq

/-- DoH clients are named by their exit, none for the default exit. -/
inductive PhoneQuestion where
  | dohEntry (exit : Option String) (domain : Text) (queryType : UInt16)
  | dohQuery (exit : Option String) (domain : Text) (queryType : UInt16)
  | dohStore (exit : Option String) (domain : Text) (queryType : UInt16) (addresses : List IpAddr) (failed : Bool)
      (ttl : Nat)
  /-- `note_routed_answer`. -/
  | noteRouted (exit : String) (addrs : List IpAddr) (ttl : Nat)
  /-- `send_to` on the server's socket. -/
  | reply (client : SocketAddr) (response : Bytes)
  deriving DecidableEq

def PhoneReply : PhoneQuestion → Type
  | .dohEntry _ _ _ => Option (CacheEntry × Instant)
  | .dohQuery _ _ _ => DohOutcome
  | .dohStore _ _ _ _ _ _ => Unit
  | .noteRouted _ _ _ => Unit
  | .reply _ _ => Except String Unit

abbrev DnsReply : NetQuestion ⊕ PhoneQuestion → Type := Sum.elim NetReply PhoneReply

abbrev DnsProgram := Program DnsReply

instance : ∀ question, Nonempty (DnsReply question)
  | .inl question => inferInstanceAs (Nonempty (NetReply question))
  | .inr (.dohEntry _ _ _) => ⟨(none : Option (CacheEntry × Instant))⟩
  | .inr (.dohQuery _ _ _) => ⟨DohOutcome.timedOut⟩
  | .inr (.dohStore _ _ _ _ _ _) | .inr (.noteRouted _ _ _) => ⟨()⟩
  | .inr (.reply _ _) => ⟨(.ok () : Except String Unit)⟩

namespace Phone

abbrev dohEntry (exit : Option String) (domain : Text) (queryType : UInt16) :
    DnsProgram (Option (CacheEntry × Instant)) :=
  request (Sum.inr (PhoneQuestion.dohEntry exit domain queryType))
abbrev dohQuery (exit : Option String) (domain : Text) (queryType : UInt16) : DnsProgram DohOutcome :=
  request (Sum.inr (PhoneQuestion.dohQuery exit domain queryType))
abbrev dohStore (exit : Option String) (domain : Text) (queryType : UInt16) (addresses : List IpAddr) (failed : Bool)
    (ttl : Nat) : DnsProgram Unit :=
  request (Sum.inr (PhoneQuestion.dohStore exit domain queryType addresses failed ttl))
abbrev noteRouted (exit : String) (addrs : List IpAddr) (ttl : Nat) : DnsProgram Unit :=
  request (Sum.inr (PhoneQuestion.noteRouted exit addrs ttl))
abbrev reply (client : SocketAddr) (response : Bytes) : DnsProgram (Except String Unit) :=
  request (Sum.inr (PhoneQuestion.reply client response))

end Phone

namespace DohClient

def minCacheTtl : Nat := 60 * 1000

def maxCacheTtl : Nat := 3600 * 1000

def lookupCached (exit : Option String) (domain : Text) (queryType : UInt16) : DnsProgram (Option (List IpAddr)) := do
  let found ← Phone.dohEntry exit domain queryType
  pure (found.bind fun (entry, now) => if now < entry.expiresAt ∧ ¬ entry.failed then some entry.addresses else none)

def getCachedTtl (exit : Option String) (domain : Text) (queryType : UInt16) : DnsProgram (Option Nat) := do
  let found ← Phone.dohEntry exit domain queryType
  pure (found.bind fun (entry, now) =>
    if ¬ entry.failed ∧ 0 < entry.expiresAt - now then some (max ((entry.expiresAt - now) / 1000) 30) else none)

def insertCacheEntry (exit : Option String) (domain : Text) (queryType : UInt16) (addresses : List IpAddr)
    (failed : Bool) (ttl : Nat) : DnsProgram Unit :=
  Phone.dohStore exit domain queryType addresses failed (if failed then ttl else max minCacheTtl (min ttl maxCacheTtl))

/-- The part of `resolve` after the cache. -/
def askTunnel (exit : Option String) (domain : Text) (queryType : UInt16) :
    DnsProgram (Except ErrorChain (List IpAddr)) := do
  match ← Phone.dohQuery exit domain queryType with
  | .notStarted => pure (.error ["DNS client not started"])
  | .channelClosed => pure (.error ["DNS connection channel closed"])
  | .timedOut => pure (.error ["DNS query timeout", "deadline has elapsed"])
  | .replyClosed => pure (.error ["DNS reply channel closed", "channel closed"])
  | .response response =>
    if response.success then
      insertCacheEntry exit domain queryType response.addresses false (response.ttl * 1000)
      pure (.ok response.addresses)
    else
      -- against storms of retries
      insertCacheEntry exit domain queryType [] true (30 * 1000)
      pure (.error ["DNS resolution failed for " ++ String.ofList domain ++ ": " ++
        response.error.getD "unknown error"])

def resolve (exit : Option String) (domain : Text) (queryType : UInt16) :
    DnsProgram (Except ErrorChain (List IpAddr)) := do
  let found ← Phone.dohEntry exit domain queryType
  match found.filter fun (entry, now) => now < entry.expiresAt with
  | some (entry, _) =>
    if entry.failed then
      pure (.error ["DNS resolution failed for " ++ String.ofList domain ++ ": cached failure"])
    else pure (.ok entry.addresses)
  | none => askTunnel exit domain queryType

end DohClient

structure DnsServer where
  splitTunnel : SplitTunnelManager
  codec : MessageCodec
  dohClient : Bool := false
  nameservers : List SocketAddr :=
    [SplitTunnel.Nameserver.google, SplitTunnel.Nameserver.cloudflare, SplitTunnel.Nameserver.alidns]
  filterAaaa : Bool := true
  router : Option Router := none
  extraDohClients : List String := []
  serverHostnames : List Text := []

def dohProviders : List Text :=
  ["dns.google".toList, "dns.google.com".toList, "cloudflare-dns.com".toList, "one.one.one.one".toList,
    "1.1.1.1".toList, "dns.quad9.net".toList, "doh.opendns.com".toList, "mozilla.cloudflare-dns.com".toList]

def isDohProvider (domain : Text) : Bool :=
  dohProviders.any fun provider => domain = provider || ('.' :: provider).isSuffixOf domain

def answerRecord (query : Query) (ttl : Nat) (addr : IpAddr) : Option Record :=
  match addr, query.queryType with
  | .v4 octets, .a => some ⟨query.name, ttl, some (.a octets)⟩
  | .v6 segments, .aaaa => some ⟨query.name, ttl, some (.aaaa segments)⟩
  | _, _ => none

def Record.address? (record : Record) : Option IpAddr :=
  record.data.bind fun
    | .a octets => some (.v4 octets)
    | .aaaa segments => some (.v6 segments)
    | .other _ => none

def makeBaseResponse (request : Message) : Message where
  id := request.id
  messageType := .response
  opCode := .query
  recursionDesired := request.recursionDesired
  recursionAvailable := true
  queries := request.queries

def makeErrorResponse (request : Message) (code : ResponseCode) : Message :=
  { makeBaseResponse request with responseCode := code }

/-- What was found through the tunnel, or in the cache of a DoH client. -/
structure TunnelAnswer where
  addrs : List IpAddr
  ttl : Nat
  cached : Bool
  deriving DecidableEq

/-- What becomes of a query: the decision, where one is made, and what is returned. -/
structure Handled (α : Type) where
  decision : Option RoutingDecision
  result : Except ErrorChain α

namespace DnsServer

variable (server : DnsServer)

/-- `trim_end_matches` and `to_lowercase`. -/
def normalize (name : Text) : Text := server.splitTunnel.builtins.toLowercase (trimDots name)

def setServerHostnames (hostnames : List Text) : DnsServer :=
  { server with serverHostnames := hostnames.map server.normalize }

def chooseExit (domain : Text) : Option String :=
  server.router.bind fun router =>
    let chosen := router.choose server.splitTunnel.builtins.parsers domain
    if chosen = defaultServerName then none else some chosen

def serialize (context : String) (message : Message) : Except ErrorChain Bytes :=
  Router.withContext context (server.codec.toVec message)

def dohClientFor : Option String → Bool
  | some name => name ∈ server.extraDohClients
  | none => server.dohClient

/-- The answer's time to live is read from the cache again. Answers of another exit than the default are noted. -/
def note (exit : Option String) (domain : Text) (queryType : UInt16) (addrs : List IpAddr) (cached : Bool) :
    DnsProgram (Except ErrorChain TunnelAnswer) := do
  let remaining ← DohClient.getCachedTtl exit domain queryType
  let ttl := remaining.getD 14400
  match exit with
  | some exit =>
    Phone.noteRouted exit addrs ttl
    pure (.ok ⟨addrs, ttl, cached⟩)
  | none => pure (.ok ⟨addrs, ttl, cached⟩)

/-- What `resolve_remote` and `resolve_tunnel_minimal` have in common. -/
def lookUpThroughTunnel (domain : Text) (queryType : UInt16) (exit : Option String) :
    DnsProgram (Except ErrorChain TunnelAnswer) := do
  match ← DohClient.lookupCached exit domain queryType with
  | some addrs => note exit domain queryType addrs true
  | none =>
    match ← DohClient.resolve exit domain queryType with
    | .ok addrs => note exit domain queryType addrs false
    | .error causes => pure (.error causes)

def resolveRemote (request : Message) (query : Query) (exit : Option String) : DnsProgram Message := do
  match query.queryType.number? with
  | none => pure (makeBaseResponse request)
  | some number =>
    if server.dohClientFor exit then
      match ← lookUpThroughTunnel (trimDots query.name) number exit with
      | .ok answer =>
        pure { makeBaseResponse request with answers := answer.addrs.filterMap (answerRecord query answer.ttl) }
      -- no fallback to a local resolver
      | .error _ => pure (makeErrorResponse request .servFail)
    else pure (makeErrorResponse request .servFail)

def resolveTunnelMinimal (request : Message) (query : Query) (domain : Text) (exit : Option String) :
    DnsProgram (Except ErrorChain Bytes) := do
  match query.queryType.number? with
  | none => pure (server.serialize "Failed to serialize response" (makeBaseResponse request))
  | some number =>
    if server.dohClientFor exit then
      match ← lookUpThroughTunnel domain number exit with
      | .ok answer =>
        pure (server.serialize
          (if answer.cached then "Failed to serialize cached response" else "Failed to serialize DoH response")
          { makeBaseResponse request with
            answers := (answer.addrs.filterMap (answerRecord query answer.ttl)).take 1 })
      | .error _ => pure (server.serialize "Failed to serialize ServFail" (makeErrorResponse request .servFail))
    else pure (server.serialize "Failed to serialize ServFail" (makeErrorResponse request .servFail))

def forwardRawDns (query : Bytes) : Program NetReply (Except ErrorChain Bytes) := do
  match ← forwardInTurn some query server.nameservers with
  | some response => pure (.ok response)
  | none => pure (.error ["All upstream DNS servers failed"])

def resolveViaUdpForward (request : Message) : Program NetReply (Except ErrorChain Message) := do
  match server.serialize "Failed to serialize DNS query for UDP forward" request with
  | .error causes => pure (.error causes)
  | .ok query =>
    match ← forwardInTurn (fun response => (server.codec.fromVec response).toOption) query server.nameservers with
    | some response => pure (.ok response)
    | none => pure (.error ["All public nameservers failed for UDP forward"])

def resolveViaSystem (request : Message) (query : Query) : Program NetReply Message := do
  match ← server.splitTunnel.dnsResolver.resolve (trimDots query.name) 0 with
  | .ok addrs =>
    let ttl ← server.splitTunnel.dnsResolver.getRemainingTtl (trimDots query.name)
    pure { makeBaseResponse request with
      answers := addrs.filterMap fun addr => answerRecord query (ttl.getD 14400) addr.ip }
  | .error _ => pure (makeErrorResponse request .servFail)

/-- The answers to a query in the cache of the resolver, none if there are none of its type. -/
def cachedAnswers (query : Query) : Program NetReply (List Record) := do
  match ← server.splitTunnel.dnsResolver.lookupCached (trimDots query.name) with
  | some cached =>
    match ← server.splitTunnel.dnsResolver.getRemainingTtl (trimDots query.name) with
    | some ttl => pure (cached.filterMap (answerRecord query ttl))
    | none => pure []
  | none => pure []

/-- `u32::MAX`. -/
def noTtl : Nat := 2 ^ 32 - 1

/-- The addresses of a response that is forwarded are stored for four hours at most. -/
def storeAnswers (domain : Text) (response : Message) : Program NetReply Unit :=
  let found := response.answers.filterMap fun record => record.address?.map fun addr => (addr, record.ttl)
  let minTtl := found.foldl (fun least entry => min least entry.2) noTtl
  if found ≠ [] ∧ minTtl ≠ noTtl then
    server.splitTunnel.dnsResolver.storeWithTtl domain (found.map (·.1)) (min minTtl 14400 * 1000)
  else pure ()

def resolveLocal (request : Message) (query : Query) : Program NetReply Message := do
  let answers ← server.cachedAnswers query
  if answers ≠ [] then pure { makeBaseResponse request with answers }
  else
    match ← server.resolveViaUdpForward request with
    | .ok response =>
      server.storeAnswers (trimDots query.name) response
      pure response
    | .error _ => server.resolveViaSystem request query

def routeQuery (name : Text) : DnsProgram RoutingDecision :=
  (server.splitTunnel.decideByHost (server.normalize name)).lift

def respond (client : SocketAddr) (serializing sending : String) (response : Message) :
    DnsProgram (Handled Unit) := do
  match server.serialize serializing response with
  | .error causes => pure ⟨none, .error causes⟩
  | .ok bytes =>
    match ← Phone.reply client bytes with
    | .error cause => pure ⟨none, .error [sending, cause]⟩
    | .ok () => pure ⟨none, .ok ()⟩

def decidedResponse (request : Message) (query : Query) : RoutingDecision → DnsProgram Message
  | .bypass => (server.resolveLocal request query).lift
  | .tunnel => server.resolveRemote request query (server.chooseExit (server.normalize query.name))
  | .block => pure (makeErrorResponse request .nxDomain)

/-- The part of `handle_query` after the decision. A failure to send is only logged. -/
def handleDecided (request : Message) (query : Query) (client : SocketAddr) (decision : RoutingDecision) :
    DnsProgram (Handled Unit) := do
  let response ← server.decidedResponse request query decision
  match server.serialize "Failed to serialize DNS response" response with
  | .error causes => pure ⟨some decision, .error causes⟩
  | .ok bytes =>
    let _ ← Phone.reply client bytes
    pure ⟨some decision, .ok ()⟩

def handleQuery (request : Message) (client : SocketAddr) : DnsProgram (Handled Unit) :=
  if request.messageType ≠ .query then pure ⟨none, .ok ()⟩
  else if request.opCode ≠ .query then pure ⟨none, .ok ()⟩
  else
    match request.queries with
    | [] => pure ⟨none, .ok ()⟩
    | query :: _ =>
      if query.name = ['.'] then
        server.respond client "Failed to serialize root probe response" "Failed to send root probe response"
          (makeBaseResponse request)
      else if server.filterAaaa ∧ query.queryType = .aaaa then
        server.respond client "Failed to serialize AAAA filter response" "Failed to send AAAA filter response"
          (makeBaseResponse request)
      else if isDohProvider (server.normalize query.name) then
        server.respond client "Failed to serialize DNS response" "Failed to send DNS response"
          (makeErrorResponse request .nxDomain)
      else if server.serverHostnames.any (· = server.normalize query.name) then do
        let response ← (server.resolveLocal request query).lift
        server.respond client "Failed to serialize DNS response" "Failed to send DNS response" response
      else do
        let decision ← server.routeQuery query.name
        server.handleDecided request query client decision

/-- The part of `resolve_raw` after the decision. -/
def resolveDecided (data : Bytes) (request : Message) (query : Query) :
    RoutingDecision → DnsProgram (Except ErrorChain Bytes)
  | .block => pure (server.serialize "Failed to serialize block response" (makeErrorResponse request .nxDomain))
  | .bypass => (server.forwardRawDns data).lift
  | .tunnel =>
    server.resolveTunnelMinimal request query (trimDots query.name) (server.chooseExit (trimDots query.name))

def resolveRaw (data : Bytes) : DnsProgram (Handled Bytes) :=
  match Router.withContext "Failed to parse DNS query" (server.codec.fromVec data) with
  | .error causes => pure ⟨none, .error causes⟩
  | .ok request =>
    match request.queries with
    | [] => pure ⟨none, .error ["No questions in query"]⟩
    | query :: _ =>
      if server.filterAaaa ∧ query.queryType = .aaaa then
        pure ⟨none, server.serialize "Failed to serialize AAAA filter response" (makeBaseResponse request)⟩
      else do
        let decision ← (server.splitTunnel.decideByHost (trimDots query.name)).lift
        let result ← server.resolveDecided data request query decision
        pure ⟨some decision, result⟩

end DnsServer

/-- How a query gets to the server: as a datagram of a client, or from the extension. -/
inductive EntryPoint where
  | udp (client : SocketAddr)
  | raw

namespace EntryPoint

def domain (server : DnsServer) (query : Query) : EntryPoint → Text
  | .udp _ => server.normalize query.name
  | .raw => trimDots query.name

/-- The decision that is made for the query in a packet, if any. The task for a datagram ends at once if it cannot
be parsed. -/
def run (server : DnsServer) (data : Bytes) : EntryPoint → DnsProgram (Option RoutingDecision)
  | .udp client =>
    match server.codec.fromVec data with
    | .error _ => pure none
    | .ok request => do
      let handled ← server.handleQuery request client
      pure handled.decision
  | .raw => do
    let handled ← server.resolveRaw data
    pure handled.decision

end EntryPoint

end Rvpn.Mobile
