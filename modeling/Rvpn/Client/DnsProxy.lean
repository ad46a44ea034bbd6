import Rvpn.SplitTunnel.Decision

/-! `dns_proxy.rs`: one task for each datagram; what it asks of nameservers, cache and tunnel are questions to the
environment. -/

namespace Rvpn.Client

open Interaction
open Interaction.Program (request)
open Server (IpAddr SocketAddr)
open SplitTunnel (DnsQuery DnsResponse ErrorChain NetQuestion NetReply RoutingDecision SplitTunnelManager Text
  forwardInTurn lowercase trimDots withLastResortNameservers)
open SplitTunnel.DnsWire (parseDnsAResponse txidOf u16At)

structure ParsedQuery where
  txid : UInt16
  domain : Text
  queryType : UInt16
  deriving DecidableEq

/-- The loop over the labels of the name. A round moves on by one byte at least, so that as many rounds as there are
bytes end in a result. -/
def readLabels (fromUtf8 : Bytes → Option Text) (data : Bytes) :
    Nat → Nat → List Text → Except String (List Text × Nat)
  | 0, _, _ => .error "Truncated DNS QNAME"
  | rounds + 1, pos, labels =>
    match data[pos]? with
    | none => .error "Truncated DNS QNAME"
    | some len =>
      if len = 0 then .ok (labels, pos + 1)
      else if len &&& 0xC0 = 0xC0 then .error "DNS pointer compression unsupported in client queries"
      else if data.length < pos + 1 + len.toNat then .error "DNS label extends beyond packet"
      else
        match fromUtf8 ((data.drop (pos + 1)).take len.toNat) with
        | none => .error "Invalid UTF-8 in DNS label"
        | some label => readLabels fromUtf8 data rounds (pos + 1 + len.toNat) (labels ++ [label])

def parseDnsQuery (fromUtf8 : Bytes → Option Text) (data : Bytes) : Except String ParsedQuery :=
  if data.length < 17 then .error ("DNS query too short (" ++ toString data.length ++ " bytes)")
  else
    match readLabels fromUtf8 data (data.length + 1) 12 [] with
    | .error cause => .error cause
    | .ok (labels, pos) =>
      if data.length < pos + 4 then .error "Truncated DNS QTYPE/QCLASS"
      else .ok ⟨UInt16.ofNat (u16At data 0), ['.'].intercalate labels, UInt16.ofNat (u16At data pos)⟩

/-- The loop of `find_question_end`. -/
def questionEndFrom (query : Bytes) : Nat → Nat → Nat
  | 0, _ => query.length
  | rounds + 1, pos =>
    match query[pos]? with
    | none => query.length
    | some len => if len = 0 then pos + 5 else questionEndFrom query rounds (pos + 1 + len.toNat)

def findQuestionEnd (query : Bytes) (pos : Nat) : Nat := questionEndFrom query (query.length + 1) pos

def aRecord (ttl : Nat) (octets : Vector UInt8 4) : Bytes :=
  -- the name is a pointer to the question
  [0xC0, 0x0C, 0x00, 0x01, 0x00, 0x01] ++ BigEndian.encode 4 (max ttl 30) ++ [0x00, 0x04] ++ octets.toList

def buildDnsResponse (query : Bytes) (txid : UInt16) (response : DnsResponse) : Bytes :=
  BigEndian.encode 2 txid.toNat ++ ([0x81, 0x80, 0x00, 0x01] ++ BigEndian.encode 2 response.ipv4Addrs.length ++
    [0x00, 0x00, 0x00, 0x00] ++ (query.take (findQuestionEnd query 12)).drop 12 ++
    response.ipv4Addrs.flatMap (aRecord response.ttl))

def buildDnsError (txid : UInt16) (flags : UInt8) : Bytes :=
  BigEndian.encode 2 txid.toNat ++ [0x81, flags, 0, 0, 0, 0, 0, 0, 0, 0]

def buildDnsNxdomain (txid : UInt16) : Bytes := buildDnsError txid 0x83

def buildDnsServfail (txid : UInt16) : Bytes := buildDnsError txid 0x82

def withTxid (txid : UInt16) (response : Bytes) : Bytes :=
  if 2 ≤ response.length then BigEndian.encode 2 txid.toNat ++ response.drop 2 else response

inductive DeskQuestion where
  /-- `store_with_ttl`, for the answer to a query of the type that went past the tunnel. -/
  | storeBypass (domain : Text) (queryType : UInt16) (ips : List IpAddr) (ttl : Nat)
  | submit (query : DnsQuery)
  | awaitReply
  /-- `send_to` on the proxy's socket. -/
  | reply (client : SocketAddr) (wire : Bytes)
  deriving DecidableEq

def DeskReply : DeskQuestion → Type
  | .storeBypass _ _ _ _ => Unit
  | .submit _ => Bool
  | .awaitReply => Option (Option DnsResponse)
  | .reply _ _ => Except String Unit

abbrev TaskReply : NetQuestion ⊕ DeskQuestion → Type := Sum.elim NetReply DeskReply

abbrev TaskProgram := Program TaskReply

instance : ∀ question, Nonempty (TaskReply question)
  | .inl question => inferInstanceAs (Nonempty (NetReply question))
  | .inr (.storeBypass _ _ _ _) => ⟨()⟩
  | .inr (.submit _) => ⟨true⟩
  | .inr .awaitReply => ⟨(none : Option (Option DnsResponse))⟩
  | .inr (.reply _ _) => ⟨(.ok () : Except String Unit)⟩

namespace Desk

abbrev storeBypass (domain : Text) (queryType : UInt16) (ips : List IpAddr) (ttl : Nat) : TaskProgram Unit :=
  request (Sum.inr (DeskQuestion.storeBypass domain queryType ips ttl))
abbrev submit (query : DnsQuery) : TaskProgram Bool := request (Sum.inr (DeskQuestion.submit query))
abbrev awaitReply : TaskProgram (Option (Option DnsResponse)) := request (Sum.inr DeskQuestion.awaitReply)
abbrev reply (client : SocketAddr) (wire : Bytes) : TaskProgram (Except String Unit) :=
  request (Sum.inr (DeskQuestion.reply client wire))

end Desk

inductive Origin where
  | forwarded
  | blocked
  | failed
  | noData
  | cached (ips : List IpAddr) (ttl : Nat)
  | tunnel (response : DnsResponse)
  deriving DecidableEq

structure Answer where
  wire : Bytes
  origin : Origin
  deriving DecidableEq

structure DnsProxy where
  splitTunnel : SplitTunnelManager
  nameservers : List SocketAddr
  serverHosts : List Text
  /-- `str::from_utf8`. -/
  fromUtf8 : Bytes → Option Text

def v4Addrs (ips : List IpAddr) : List (Vector UInt8 4) :=
  ips.filterMap fun
    | .v4 octets => some octets
    | .v6 _ => none

def ownResponse (ips : List (Vector UInt8 4)) (ttl : Nat) : DnsResponse := ⟨0, true, ips, [], ttl, none⟩

namespace DnsProxy

def new (splitTunnel : SplitTunnelManager) (serverHost : Text) (nameservers : List SocketAddr)
    (extraServerHosts : List Text) (fromUtf8 : Bytes → Option Text) : DnsProxy where
  splitTunnel
  nameservers := withLastResortNameservers nameservers
  serverHosts := (serverHost :: extraServerHosts).map fun host => lowercase (trimDots host)
  fromUtf8

variable (proxy : DnsProxy)

def isServerHost (domain : Text) : Bool := proxy.serverHosts.any (· = lowercase (trimDots domain))

def decide (domain : Text) : TaskProgram RoutingDecision :=
  if proxy.isServerHost domain then pure .bypass else (proxy.splitTunnel.decideByHost domain).lift

def resolveViaUdpForward (query : Bytes) (txid : UInt16) : Program NetReply (Except ErrorChain Bytes) := do
  match ← forwardInTurn (fun response => some (withTxid txid response)) query proxy.nameservers with
  | some response => pure (.ok response)
  | none => pure (.error ["All public nameservers failed for UDP forward"])

def resolveLocally (query : Bytes) (txid : UInt16) : Program NetReply (Except ErrorChain Bytes) :=
  if proxy.nameservers = [] then
    pure (.error ["No public nameservers configured for bypass domain resolution"])
  else proxy.resolveViaUdpForward query txid

def storeAnswer (parsed : ParsedQuery) (ips : List IpAddr) (ttlSecs : Nat) : TaskProgram Unit :=
  if proxy.splitTunnel.dnsResolver.cacheEnabled then
    Desk.storeBypass parsed.domain parsed.queryType ips (ttlSecs * 1000)
  else pure ()

def answerBypass (data : Bytes) (parsed : ParsedQuery) : TaskProgram Answer := do
  match ← (proxy.resolveLocally data parsed.txid).lift with
  | .error _ => pure ⟨buildDnsServfail parsed.txid, .failed⟩
  | .ok wire =>
    match parseDnsAResponse wire parsed.txid with
    | .error _ => pure ⟨wire, .forwarded⟩
    | .ok (ips, ttlSecs) =>
      proxy.storeAnswer parsed ips ttlSecs
      pure ⟨wire, .forwarded⟩

def answerLocally (data : Bytes) (parsed : ParsedQuery) : TaskProgram Answer := do
  match ← (proxy.resolveLocally data parsed.txid).lift with
  | .error _ => pure ⟨buildDnsServfail parsed.txid, .failed⟩
  | .ok wire => pure ⟨wire, .forwarded⟩

def tunnelAnswer (data : Bytes) (parsed : ParsedQuery) : Option (Option DnsResponse) → Answer
  | some (some response) =>
    if response.success then ⟨buildDnsResponse data parsed.txid response, .tunnel response⟩
    else ⟨buildDnsServfail parsed.txid, .failed⟩
  | _ => ⟨buildDnsServfail parsed.txid, .failed⟩

def answerThroughTunnel (data : Bytes) (queryId : UInt64) (parsed : ParsedQuery) : TaskProgram (Option Answer) := do
  match ← Desk.submit ⟨queryId, parsed.domain, parsed.queryType⟩ with
  | false => pure none
  | true =>
    let outcome ← Desk.awaitReply
    pure (some (tunnelAnswer data parsed outcome))

def answerCached (data : Bytes) (parsed : ParsedQuery) (ips : List IpAddr) : TaskProgram Answer := do
  let remaining ← (proxy.splitTunnel.dnsResolver.getRemainingTtl parsed.domain).lift
  let ttl := remaining.getD 14400
  pure ⟨buildDnsResponse data parsed.txid (ownResponse (v4Addrs ips) ttl), .cached ips ttl⟩

def answerAddress (data : Bytes) (queryId : UInt64) (parsed : ParsedQuery) : TaskProgram (Option Answer) := do
  match ← (proxy.splitTunnel.dnsResolver.lookupCached parsed.domain).lift with
  | some ips =>
    let answer ← proxy.answerCached data parsed ips
    pure (some answer)
  | none => answerThroughTunnel data queryId parsed

def answerDecided (data : Bytes) (queryId : UInt64) (parsed : ParsedQuery) :
    RoutingDecision → TaskProgram (Option Answer)
  | .bypass => do
    let answer ← proxy.answerBypass data parsed
    pure (some answer)
  | .block => pure (some ⟨buildDnsNxdomain parsed.txid, .blocked⟩)
  | .tunnel =>
    if parsed.queryType ≠ 1 ∧ parsed.queryType ≠ 28 then do
      let answer ← proxy.answerLocally data parsed
      pure (some answer)
    else if parsed.queryType = 28 then
      pure (some ⟨buildDnsResponse data parsed.txid (ownResponse [] 300), .noData⟩)
    else proxy.answerAddress data queryId parsed

def answer (data : Bytes) (queryId : UInt64) (parsed : ParsedQuery) : TaskProgram (Option Answer) := do
  let decision ← proxy.decide parsed.domain
  proxy.answerDecided data queryId parsed decision

def send (client : SocketAddr) : Option Answer → TaskProgram (Option Answer)
  | none => pure none
  | some answer => do
    let _ ← Desk.reply client answer.wire
    pure (some answer)

/-- The task that `run` spawns for a datagram; its result is the answer that it sent. -/
def handle (client : SocketAddr) (data : Bytes) (queryId : UInt64) : TaskProgram (Option Answer) :=
  match parseDnsQuery proxy.fromUtf8 data with
  | .error _ => pure none
  | .ok parsed => do
    let answer ← proxy.answer data queryId parsed
    send client answer

end DnsProxy

section txid

variable {txid : UInt16} {query data response : Bytes}

theorem txidOf_encode (rest : Bytes) :
    txidOf (BigEndian.encode 2 txid.toNat ++ rest) = BigEndian.encode 2 txid.toNat := by
  rw [txidOf, List.take_left' (BigEndian.length_encode 2 _)]

theorem txidOf_withTxid (long : 2 ≤ response.length) :
    txidOf (withTxid txid response) = BigEndian.encode 2 txid.toNat := by
  rw [withTxid, if_pos long, txidOf_encode]

theorem txidOf_parsed (read : parseDnsQuery fromUtf8 data = .ok parsed) :
    BigEndian.encode 2 parsed.txid.toNat = txidOf data := by
  unfold parseDnsQuery at read
  split at read
  · cases read
  · rename_i enough
    split at read
    · cases read
    · split at read
      · cases read
      · cases read
        have width : (data.take 2).length = 2 := by
          rw [List.length_take]
          omega
        have small : BigEndian.decode (data.take 2) < 2 ^ 16 := by
          obtain ⟨first, second, bytes⟩ := List.length_eq_two.mp width
          have high := first.toNat_lt
          have low := second.toNat_lt
          rw [bytes]
          simp only [BigEndian.decode, List.foldl_cons, List.foldl_nil]
          omega
        have same : (UInt16.ofNat (u16At data 0)).toNat = BigEndian.decode (data.take 2) := by
          rw [UInt16.toNat_ofNat', u16At, List.drop_zero]
          exact Nat.mod_eq_of_lt small
        have whole := BigEndian.encode_decode (data.take 2)
        rw [width] at whole
        rw [same, txidOf, whole]

end txid

def Origin.Explains (data : Bytes) (parsed : ParsedQuery) (trace : List (Event TaskReply)) (wire : Bytes) :
    Origin → Prop
  | .forwarded => ∃ nameserver source datagram,
      (⟨.inl (.exchange nameserver data), .received source datagram⟩ : Event TaskReply) ∈ trace ∧
        wire = withTxid parsed.txid (datagram.take 4096)
  | .blocked => wire = buildDnsNxdomain parsed.txid
  | .failed => wire = buildDnsServfail parsed.txid
  | .noData => wire = buildDnsResponse data parsed.txid (ownResponse [] 300)
  | .cached ips ttl => parsed.queryType = 1 ∧
      wire = buildDnsResponse data parsed.txid (ownResponse (v4Addrs ips) ttl) ∧
      ∃ entry age, (⟨.inl (.entry parsed.domain), some (entry, age)⟩ : Event TaskReply) ∈ trace ∧
        entry.failed = false ∧ entry.ips = ips
  | .tunnel response => parsed.queryType = 1 ∧ wire = buildDnsResponse data parsed.txid response ∧
      (⟨.inr .awaitReply, some (some response)⟩ : Event TaskReply) ∈ trace

theorem Origin.Explains.mono {origin : Origin} (explains : origin.Explains data parsed trace wire)
    (within : trace ⊆ other) : origin.Explains data parsed other wire := by
  cases origin with
  | forwarded =>
    obtain ⟨nameserver, source, datagram, listed, same⟩ := explains
    exact ⟨nameserver, source, datagram, within listed, same⟩
  | blocked | failed | noData => exact explains
  | cached ips ttl =>
    obtain ⟨address, same, entry, age, listed, live⟩ := explains
    exact ⟨address, same, entry, age, within listed, live⟩
  | tunnel response => exact ⟨explains.1, explains.2.1, within explains.2.2⟩

/-- The proxy's socket is left alone, and a query on the channel is for A records, with this id. -/
def Proper (queryId : UInt64) : Event TaskReply → Prop
  | ⟨.inr (.reply _ _), _⟩ => False
  | ⟨.inr (.submit query), _⟩ => query.queryId = queryId ∧ query.queryType = 1
  | _ => True

namespace DnsProxy

variable {proxy : DnsProxy} {data : Bytes} {queryId : UInt64} {parsed : ParsedQuery}
  {trace past : List (Event TaskReply)}

theorem resolveLocally_received {past : List (Event NetReply)} :
    (proxy.resolveLocally data txid).After past fun trace result => ∀ wire, result = .ok wire →
      ∃ nameserver source datagram,
        (⟨.exchange nameserver data, .received source datagram⟩ : Event NetReply) ∈ trace ∧
          wire = withTxid txid (datagram.take 4096) := by
  unfold resolveLocally
  split
  · rintro _ ⟨⟩
  · refine .bind (SplitTunnel.forwardInTurn_received _) fun trace found _ received => ?_
    cases found with
    | none => rintro _ ⟨⟩
    | some response =>
      obtain ⟨nameserver, source, datagram, listed, same⟩ := received response rfl
      rintro _ ⟨⟩
      exact ⟨nameserver, source, datagram, listed, (Option.some.inj same).symm⟩

theorem resolveLocally_explained :
    (proxy.resolveLocally data parsed.txid).lift.After past fun trace resolved => ∀ wire, resolved = .ok wire →
      Origin.Explains data parsed trace wire .forwarded := by
  refine resolveLocally_received.lift.imp fun trace resolved received wire same => ?_
  obtain ⟨nameserver, source, datagram, listed, read⟩ := received wire same
  exact ⟨nameserver, source, datagram, mem_innerTrace.mp listed, read⟩

theorem answerBypass_explained : (proxy.answerBypass data parsed).After past fun trace answer =>
    answer.origin.Explains data parsed trace answer.wire := by
  refine resolveLocally_explained.bind fun trace resolved _ explains => ?_
  cases resolved with
  | error causes => exact rfl
  | ok wire =>
    dsimp only
    split
    · exact explains wire rfl
    · exact after_true.bind fun _ _ within _ => (explains wire rfl).mono within

theorem answerLocally_explained : (proxy.answerLocally data parsed).After past fun trace answer =>
    answer.origin.Explains data parsed trace answer.wire := by
  refine resolveLocally_explained.bind fun trace resolved _ explains => ?_
  cases resolved with
  | error causes => exact rfl
  | ok wire => exact explains wire rfl

theorem lookupCached_read {resolver : SplitTunnel.DnsResolver} {past : List (Event NetReply)} :
    (resolver.lookupCached host).After past fun trace found => ∀ ips ∈ found, ∃ entry age,
      (⟨.entry host, some (entry, age)⟩ : Event NetReply) ∈ trace ∧ entry.failed = false ∧ entry.ips = ips := by
  unfold SplitTunnel.DnsResolver.lookupCached
  split
  · refine after_request fun found => ?_
    cases found with
    | none => rintro _ ⟨⟩
    | some found =>
      intro ips same
      obtain ⟨⟨-, lasting, -⟩, rfl⟩ := Option.ite_none_right_eq_some.mp same |>.imp_right Option.some.inj
      exact ⟨found.1, found.2, by simp, by simpa using lasting, rfl⟩
  · rintro _ ⟨⟩

theorem tunnelAnswer_explained (address : parsed.queryType = 1) {outcome : Option (Option DnsResponse)}
    (listed : (⟨.inr .awaitReply, outcome⟩ : Event TaskReply) ∈ trace) :
    (tunnelAnswer data parsed outcome).origin.Explains data parsed trace (tunnelAnswer data parsed outcome).wire := by
  unfold tunnelAnswer
  split
  · rename_i response
    split
    · exact ⟨address, rfl, listed⟩
    · exact rfl
  · exact rfl

theorem after_some {program : TaskProgram Answer} (holds : program.After past post) :
    (program >>= fun value => pure (some value)).After past fun trace found => ∀ value ∈ found, post trace value := by
  refine holds.bind fun trace value _ holds => ?_
  rintro _ ⟨⟩
  exact holds

theorem answerAddress_explained (address : parsed.queryType = 1) :
    (proxy.answerAddress data queryId parsed).After past fun trace found => ∀ answer ∈ found,
      answer.origin.Explains data parsed trace answer.wire := by
  refine lookupCached_read.lift.bind fun trace found _ read => ?_
  cases found with
  | some ips =>
    obtain ⟨entry, age, listed, live⟩ := read ips rfl
    have explains : (proxy.answerCached data parsed ips).After trace fun trace answer =>
        answer.origin.Explains data parsed trace answer.wire :=
      after_true.bind fun _ _ within _ => ⟨address, rfl, entry, age, within (mem_innerTrace.mp listed), live⟩
    exact after_some explains
  | none =>
    refine after_request fun sent => ?_
    cases sent with
    | false => rintro _ ⟨⟩
    | true =>
      refine after_request fun outcome => ?_
      rintro _ ⟨⟩
      exact tunnelAnswer_explained address (by simp)

theorem answerDecided_explained :
    (proxy.answerDecided data queryId parsed decision).After past fun trace found => ∀ answer ∈ found,
      answer.origin.Explains data parsed trace answer.wire := by
  cases decision with
  | bypass => exact after_some answerBypass_explained
  | block =>
    rintro _ ⟨⟩
    exact rfl
  | tunnel =>
    rw [answerDecided]
    split
    · exact after_some answerLocally_explained
    · rename_i carried
      split
      · rintro _ ⟨⟩
        exact rfl
      · rename_i other
        refine answerAddress_explained ?_
        by_contra wrong
        exact carried ⟨wrong, other⟩

theorem answer_explained : (proxy.answer data queryId parsed).After past fun trace found => ∀ answer ∈ found,
    answer.origin.Explains data parsed trace answer.wire :=
  after_true.bind fun _ _ _ _ => answerDecided_explained

theorem answerLocal_proper :
    Only (Proper queryId) (proxy.answerBypass data parsed) ∧
      Only (Proper queryId) (proxy.answerLocally data parsed) := by
  refine ⟨?_, ?_⟩
  · refine only_bind (only_lift fun _ => trivial) fun resolved => ?_
    cases resolved with
    | error causes => exact only_pure _
    | ok wire =>
      dsimp only
      split
      · exact only_pure _
      · refine only_bind ?_ fun _ => only_pure _
        unfold storeAnswer
        split
        · exact only_request fun _ => trivial
        · exact only_pure _
  · refine only_bind (only_lift fun _ => trivial) fun resolved => ?_
    cases resolved <;> exact only_pure _

theorem answerAddress_proper (address : parsed.queryType = 1) :
    Only (Proper queryId) (proxy.answerAddress data queryId parsed) := by
  refine only_bind (only_lift fun _ => trivial) fun found => ?_
  cases found with
  | some ips =>
    refine only_bind ?_ fun _ => only_pure _
    exact only_bind (only_lift fun _ => trivial) fun _ => only_pure _
  | none =>
    refine only_bind (only_request fun _ => ⟨rfl, address⟩) fun sent => ?_
    cases sent with
    | false => exact only_pure _
    | true => exact only_bind (only_request fun _ => trivial) fun _ => only_pure _

theorem answer_proper : Only (Proper queryId) (proxy.answer data queryId parsed) := by
  refine only_bind ?_ fun decision => ?_
  · unfold decide
    split
    · exact only_pure _
    · exact only_lift fun _ => trivial
  · cases decision with
    | bypass => exact only_bind answerLocal_proper.1 fun _ => only_pure _
    | block => exact only_pure _
    | tunnel =>
      rw [answerDecided]
      split
      · exact only_bind answerLocal_proper.2 fun _ => only_pure _
      · rename_i carried
        split
        · exact only_pure _
        · rename_i other
          refine answerAddress_proper ?_
          by_contra wrong
          exact carried ⟨wrong, other⟩

theorem handle_trace (yields : Yields (proxy.handle client data queryId) trace result) :
    (result = none ∧ ∀ event ∈ trace, Proper queryId event) ∨
      ∃ parsed answer before sent, parseDnsQuery proxy.fromUtf8 data = .ok parsed ∧ result = some answer ∧
        trace = before ++ [⟨.inr (.reply client answer.wire), sent⟩] ∧ (∀ event ∈ before, Proper queryId event) ∧
        answer.origin.Explains data parsed before answer.wire := by
  unfold handle at yields
  split at yields
  · obtain ⟨rfl, rfl⟩ := yields.of_pure
    exact .inl ⟨rfl, fun event listed => (by cases listed)⟩
  · rename_i parsed read
    obtain ⟨first, second, found, rfl, answering, sending⟩ := yields.of_bind
    have proper := answer_proper first found answering
    cases found with
    | none =>
      obtain ⟨rfl, rfl⟩ := sending.of_pure
      rw [List.append_nil]
      exact .inl ⟨rfl, proper⟩
    | some answer =>
      obtain ⟨sent, rest, rfl, ending⟩ := sending.of_request_bind
      obtain ⟨rfl, rfl⟩ := ending.of_pure
      exact .inr ⟨parsed, answer, first, sent, read, rfl, rfl, proper, answering.after answer_explained answer rfl⟩

end DnsProxy

end Rvpn.Client
