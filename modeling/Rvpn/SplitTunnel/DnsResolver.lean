import Rvpn.Lib.Interaction
import Rvpn.SplitTunnel.DnsWire

/-! `dns_cache.rs`: the shared resolver. What it asks of the world is explicit; times to live are in milliseconds.
-/

namespace Rvpn.SplitTunnel

open Interaction
open Interaction.Program (request)
open Server (Instant IpAddr SocketAddr)

structure DnsEntry where
  ips : List IpAddr
  cachedAt : Instant
  ttl : Nat
  failed : Bool
  deriving DecidableEq

inductive Exchange where
  | sendFailed (cause : String)
  | receiveFailed (cause : String)
  | timedOut
  | received (source : SocketAddr) (datagram : Bytes)
  deriving DecidableEq

inductive NetQuestion where
  | entry (host : Text)
  | store (host : Text) (ips : List IpAddr) (ttl : Nat)
  | storeFailure (host : Text)
  | bind
  | txid
  | exchange (nameserver : SocketAddr) (query : Bytes)
  | lookupHost (host : Text) (port : UInt16)
  deriving DecidableEq

def NetReply : NetQuestion → Type
  | .entry _ => Option (DnsEntry × Nat)
  | .store _ _ _ => Unit
  | .storeFailure _ => Unit
  | .bind => Except String Unit
  | .txid => UInt16
  | .exchange _ _ => Exchange
  | .lookupHost _ _ => Except String (List SocketAddr)

instance : ∀ question, Nonempty (NetReply question)
  | .entry _ => ⟨(none : Option (DnsEntry × Nat))⟩
  | .store _ _ _ | .storeFailure _ => ⟨()⟩
  | .bind => ⟨(.ok () : Except String Unit)⟩
  | .txid => ⟨(0 : UInt16)⟩
  | .exchange _ _ => ⟨Exchange.timedOut⟩
  | .lookupHost _ _ => ⟨(.ok [] : Except String (List SocketAddr))⟩

namespace Net

abbrev entry (host : Text) : Program NetReply (Option (DnsEntry × Nat)) := request (NetQuestion.entry host)
abbrev store (host : Text) (ips : List IpAddr) (ttl : Nat) : Program NetReply Unit :=
  request (NetQuestion.store host ips ttl)
abbrev storeFailure (host : Text) : Program NetReply Unit := request (NetQuestion.storeFailure host)
abbrev bind : Program NetReply (Except String Unit) := request NetQuestion.bind
abbrev txid : Program NetReply UInt16 := request NetQuestion.txid
abbrev exchange (nameserver : SocketAddr) (query : Bytes) : Program NetReply Exchange :=
  request (NetQuestion.exchange nameserver query)
abbrev lookupHost (host : Text) (port : UInt16) : Program NetReply (Except String (List SocketAddr)) :=
  request (NetQuestion.lookupHost host port)

end Net

inductive QueryError where
  | bindFailed (cause : String)
  | exhausted (nameserver : SocketAddr) (last : Option String)
  | malformed (cause : String)
  deriving DecidableEq

def attempts {Tag : Type} (nameserver : SocketAddr) (prepare : Program NetReply (Bytes × Tag)) (bufferSize : Nat) :
    Nat → Option String → Program NetReply (Except QueryError (Tag × Bytes))
  | 0, last => pure (.error (.exhausted nameserver last))
  | left + 1, _ => do
    match ← Net.bind with
    | .error cause => pure (.error (.bindFailed cause))
    | .ok () =>
      let (query, tag) ← prepare
      match ← Net.exchange nameserver query with
      | .sendFailed cause => attempts nameserver prepare bufferSize left (some ("send failed: " ++ cause))
      | .receiveFailed cause => attempts nameserver prepare bufferSize left (some ("recv error: " ++ cause))
      | .timedOut => attempts nameserver prepare bufferSize left (some "timeout (3s)")
      -- whoever sent it
      | .received _ datagram => pure (.ok (tag, datagram.take bufferSize))

def maxRetries : Nat := 2

def prepareQuery (domain : Text) : Program NetReply (Bytes × UInt16) := do
  let txid ← Net.txid
  pure (DnsWire.buildDnsQueryPacket domain txid, txid)

def queryNameserverUdp (nameserver : SocketAddr) (domain : Text) :
    Program NetReply (Except QueryError (List IpAddr × Nat)) := do
  match ← attempts nameserver (prepareQuery domain) 512 (maxRetries + 1) none with
  | .error error => pure (.error error)
  | .ok (txid, response) => pure ((DnsWire.parseDnsAResponse response txid).mapError .malformed)

/-- The query is sent as it is; `dns_proxy.rs` and `dns_server.rs` have it alike. -/
def queryNameserverUdpRaw (nameserver : SocketAddr) (query : Bytes) : Program NetReply (Except QueryError Bytes) := do
  match ← attempts nameserver (pure (query, ())) 4096 (maxRetries + 1) none with
  | .error error => pure (.error error)
  | .ok (_, response) => pure (.ok response)

/-- The nameservers in turn; `parse` may refuse what one answers. -/
def forwardInTurn {α : Type} (parse : Bytes → Option α) (query : Bytes) : List SocketAddr → Program NetReply (Option α)
  | [] => pure none
  | nameserver :: rest => do
    match ← queryNameserverUdpRaw nameserver query with
    | .error _ => forwardInTurn parse query rest
    | .ok response =>
      match parse response with
      | some value => pure (some value)
      | none => forwardInTurn parse query rest

namespace Nameserver

def cloudflare : SocketAddr := ⟨.v4 #v[1, 1, 1, 1], 53⟩

def google : SocketAddr := ⟨.v4 #v[8, 8, 8, 8], 53⟩

def alidns : SocketAddr := ⟨.v4 #v[223, 5, 5, 5], 53⟩

end Nameserver

def lastResortNameservers : List SocketAddr := [Nameserver.cloudflare, Nameserver.google]

def withLastResortNameservers (nameservers : List SocketAddr) : List SocketAddr :=
  if nameservers = [] then [] else nameservers ++ lastResortNameservers.filter fun ns => ns ∉ nameservers

structure DnsResolver where
  cacheEnabled : Bool
  cacheTtl : Nat
  cacheSize : Nat
  ipv6Enabled : Bool
  preferIpv4 : Bool
  nameservers : List SocketAddr

inductive ResolveError where
  | cachedFailure (host : Text) (remainingSecs : Nat)
  | noAddresses (host : Text)
  | lookupFailed (host : Text) (cause : String)
  deriving DecidableEq

namespace DnsResolver

def new (cacheEnabled : Bool) (cacheTtlSecs cacheSize : Nat) (ipv6Enabled preferIpv4 : Bool)
    (nameservers : List SocketAddr) : DnsResolver :=
  ⟨cacheEnabled, cacheTtlSecs * 1000, cacheSize, ipv6Enabled, preferIpv4, withLastResortNameservers nameservers⟩

def orderAddresses (resolver : DnsResolver) (addrs : List SocketAddr) : List SocketAddr :=
  if resolver.preferIpv4 then addrs.filter (·.ip.isV4) ++ addrs.filter (!·.ip.isV4) else addrs

def storeIps (resolver : DnsResolver) (host : Text) (ips : List IpAddr) (ttl : Option Nat) :
    Program NetReply Unit :=
  if resolver.cacheEnabled then Net.store host ips (ttl.getD resolver.cacheTtl) else pure ()

def storeFailure (resolver : DnsResolver) (host : Text) : Program NetReply Unit :=
  if resolver.cacheEnabled then Net.storeFailure host else pure ()

def storeWithTtl (resolver : DnsResolver) (host : Text) (ips : List IpAddr) (ttl : Nat) : Program NetReply Unit :=
  if resolver.cacheEnabled then Net.store host ips ttl else pure ()

def fromEntry (resolver : DnsResolver) (host : Text) (port : UInt16) (entry : DnsEntry) (age : Nat) :
    Option (Except ResolveError (List SocketAddr)) :=
  if age < entry.ttl then
    if entry.failed then some (.error (.cachedFailure host (entry.ttl / 1000 - age / 1000)))
    else if entry.ips = [] then none
    else some (.ok (resolver.orderAddresses (entry.ips.map fun ip => ⟨ip, port⟩)))
  else none

def cachedAnswer (resolver : DnsResolver) (host : Text) (port : UInt16) :
    Program NetReply (Option (Except ResolveError (List SocketAddr))) :=
  if resolver.cacheEnabled then do
    let found ← Net.entry host
    pure (found.bind fun (entry, age) => resolver.fromEntry host port entry age)
  else pure none

def queryNameservers (resolver : DnsResolver) (host : Text) (port : UInt16) :
    List SocketAddr → Program NetReply (Option (List SocketAddr))
  | [] => pure none
  | nameserver :: rest => do
    match ← queryNameserverUdp nameserver host with
    | .error _ => resolver.queryNameservers host port rest
    | .ok (ips, ttlSecs) =>
      let ips := if resolver.ipv6Enabled then ips else ips.filter (·.isV4)
      if ips = [] then resolver.queryNameservers host port rest
      else
        resolver.storeIps host ips (some (ttlSecs * 1000))
        pure (some (resolver.orderAddresses (ips.map fun ip => ⟨ip, port⟩)))

def systemLookup (resolver : DnsResolver) (host : Text) (port : UInt16) :
    Program NetReply (Except ResolveError (List SocketAddr)) := do
  match ← Net.lookupHost host port with
  | .ok addrs =>
    if addrs = [] then
      resolver.storeFailure host
      pure (.error (.noAddresses host))
    else
      resolver.storeIps host (addrs.map (·.ip)) none
      pure (.ok (resolver.orderAddresses addrs))
  | .error cause =>
    resolver.storeFailure host
    pure (.error (.lookupFailed host cause))

def resolve (resolver : DnsResolver) (host : Text) (port : UInt16) :
    Program NetReply (Except ResolveError (List SocketAddr)) := do
  match ← resolver.cachedAnswer host port with
  | some answer => pure answer
  | none =>
    match ← resolver.queryNameservers host port resolver.nameservers with
    | some addrs => pure (.ok addrs)
    | none => resolver.systemLookup host port

def lookupCached (resolver : DnsResolver) (host : Text) : Program NetReply (Option (List IpAddr)) :=
  if resolver.cacheEnabled then do
    match ← Net.entry host with
    | some (entry, age) => pure (if age < entry.ttl ∧ ¬ entry.failed ∧ entry.ips ≠ [] then some entry.ips else none)
    | none => pure none
  else pure none

def getRemainingTtl (resolver : DnsResolver) (host : Text) : Program NetReply (Option Nat) :=
  if resolver.cacheEnabled then do
    match ← Net.entry host with
    | some (entry, age) =>
      pure (if ¬ entry.failed ∧ 0 < (entry.ttl - age) / 1000 then some ((entry.ttl - age) / 1000) else none)
    | none => pure none
  else pure none

end DnsResolver

def Exchange.wasSent : Exchange → Bool
  | .sendFailed _ => false
  | _ => true

def wasSent : Event NetReply → Bool
  | ⟨.exchange _ _, exchange⟩ => Exchange.wasSent exchange
  | _ => false

/-- A name is looked up outside the tunnel. What the system's resolver reads as an address itself is no name. -/
def isLocalLookup (literal : Text → Bool) : Event NetReply → Bool
  | ⟨.lookupHost host _, _⟩ => !literal host
  | event => wasSent event

def Quiet (literal : Text → Bool) (trace : List (Event NetReply)) : Prop :=
  ∀ event ∈ trace, isLocalLookup literal event = false

def NoneSent (trace : List (Event NetReply)) : Prop := ∀ event ∈ trace, wasSent event = false

def DnsEntry.Settles (entry : DnsEntry) (age : Nat) : Prop := age < entry.ttl ∧ (entry.failed = true ∨ entry.ips ≠ [])

instance (entry : DnsEntry) (age : Nat) : Decidable (entry.Settles age) := inferInstanceAs (Decidable (_ ∧ _))

def Answered (host : Text) (trace : List (Event NetReply)) : Prop :=
  ∃ entry age, (⟨.entry host, some (entry, age)⟩ : Event NetReply) ∈ trace ∧ DnsEntry.Settles entry age

def AvoidsShared : Event NetReply → Prop
  | ⟨.entry _, _⟩ => False
  | ⟨.lookupHost _ _, _⟩ => False
  | _ => True

def IsStore : Event NetReply → Prop
  | ⟨.store _ _ _, _⟩ => True
  | ⟨.storeFailure _, _⟩ => True
  | _ => False

section lookups

variable {literal : Text → Bool} {host : Text} {port : UInt16} {trace past first second : List (Event NetReply)}
  {resolver : DnsResolver} {nameserver : SocketAddr}

theorem quiet_append_iff : Quiet literal (first ++ second) ↔ Quiet literal first ∧ Quiet literal second :=
  List.forall_mem_append

theorem noneSent_append_iff : NoneSent (first ++ second) ↔ NoneSent first ∧ NoneSent second :=
  List.forall_mem_append

theorem answered_append_iff : Answered host (first ++ second) ↔ Answered host first ∨ Answered host second := by
  constructor
  · rintro ⟨entry, age, listed, settles⟩
    rcases List.mem_append.mp listed with early | late
    · exact .inl ⟨entry, age, early, settles⟩
    · exact .inr ⟨entry, age, late, settles⟩
  · rintro (⟨entry, age, listed, settles⟩ | ⟨entry, age, listed, settles⟩)
    · exact ⟨entry, age, List.mem_append_left _ listed, settles⟩
    · exact ⟨entry, age, List.mem_append_right _ listed, settles⟩

theorem quiet_iff_noneSent (avoids : ∀ event ∈ trace, AvoidsShared event) : Quiet literal trace ↔ NoneSent trace := by
  refine forall₂_congr fun event listed => ?_
  have avoided := avoids event listed
  obtain ⟨question, reply⟩ := event
  cases question with
  | lookupHost host port => exact avoided.elim
  | _ => rfl

theorem not_answered (avoids : ∀ event ∈ trace, AvoidsShared event) : ¬ Answered host trace := by
  rintro ⟨entry, age, listed, -⟩
  exact avoids _ listed

theorem IsStore.avoids (stores : IsStore event) : AvoidsShared event := by
  obtain ⟨question, reply⟩ := event
  cases question <;> first | exact stores.elim | trivial

theorem IsStore.unsent (stores : IsStore event) : wasSent event = false := by
  obtain ⟨question, reply⟩ := event
  cases question <;> first | exact stores.elim | rfl

theorem storeIps_stores (ips : List IpAddr) (ttl : Option Nat) : Only IsStore (resolver.storeIps host ips ttl) := by
  unfold DnsResolver.storeIps
  split
  · exact only_request fun _ => trivial
  · exact only_pure _

theorem storeFailure_stores : Only IsStore (resolver.storeFailure host) := by
  unfold DnsResolver.storeFailure
  split
  · exact only_request fun _ => trivial
  · exact only_pure _

theorem attempts_only (bound : ∀ outcome, allowed ⟨.bind, outcome⟩)
    (exchanged : ∀ query exchange, allowed ⟨.exchange nameserver query, exchange⟩)
    (prepared : Only allowed prepare) (left : Nat) (last : Option String) :
    Only allowed (attempts nameserver prepare bufferSize left last) := by
  induction left generalizing last with
  | zero => exact only_pure _
  | succ left ih =>
    refine only_bind (only_request bound) fun socket => ?_
    cases socket with
    | error cause => exact only_pure _
    | ok _ =>
      refine only_bind prepared fun query => only_bind (only_request (exchanged _)) fun exchange => ?_
      cases exchange with
      | sendFailed cause => exact ih _
      | receiveFailed cause => exact ih _
      | timedOut => exact ih _
      | received source datagram => exact only_pure _

theorem attempts_received {Tag : Type} {prepare : Program NetReply (Bytes × Tag)} (made : Bytes → Tag → Prop)
    (prepared : ∀ past, prepare.After past fun _ tagged => made tagged.1 tagged.2) :
    (attempts nameserver prepare bufferSize left last).After past fun trace result => ∀ tag response,
      result = .ok (tag, response) → ∃ query source datagram, made query tag ∧
        (⟨.exchange nameserver query, .received source datagram⟩ : Event NetReply) ∈ trace ∧
        response = datagram.take bufferSize := by
  induction left generalizing last past with
  | zero => rintro _ _ ⟨⟩
  | succ left ih =>
    refine after_request fun socket => ?_
    cases socket with
    | error cause => rintro _ _ ⟨⟩
    | ok _ =>
      refine .bind (prepared _) fun trace tagged _ made => after_request fun exchange => ?_
      cases exchange with
      | received source datagram =>
        rintro _ _ ⟨⟩
        exact ⟨_, source, datagram, made, by simp, rfl⟩
      | sendFailed cause | receiveFailed cause | timedOut => exact ih

theorem queryNameserverUdp_received :
    (queryNameserverUdp nameserver host).After past fun trace result => ∀ ips ttlSecs,
      result = .ok (ips, ttlSecs) → ∃ txid source datagram,
        (⟨.exchange nameserver (DnsWire.buildDnsQueryPacket host txid), .received source datagram⟩ : Event NetReply) ∈
          trace ∧ DnsWire.parseDnsAResponse (datagram.take 512) txid = .ok (ips, ttlSecs) := by
  refine .bind (attempts_received (· = DnsWire.buildDnsQueryPacket host ·) fun _ _ => rfl) fun trace result _ received => ?_
  cases result with
  | error cause => rintro _ _ ⟨⟩
  | ok tagged =>
    obtain ⟨txid, response⟩ := tagged
    obtain ⟨query, source, datagram, rfl, listed, rfl⟩ := received _ _ rfl
    intro ips ttlSecs same
    refine ⟨txid, source, datagram, listed, ?_⟩
    cases parsed : DnsWire.parseDnsAResponse (datagram.take 512) txid with
    | error cause => simp [parsed, Except.mapError] at same
    | ok answer => simpa [parsed, Except.mapError] using same

theorem forwardInTurn_received (nameservers : List SocketAddr) :
    (forwardInTurn parse query nameservers).After past fun trace found => ∀ value, found = some value →
      ∃ nameserver source datagram, (⟨.exchange nameserver query, .received source datagram⟩ : Event NetReply) ∈ trace ∧
        parse (datagram.take 4096) = some value := by
  induction nameservers generalizing past with
  | nil => rintro _ ⟨⟩
  | cons nameserver rest ih =>
    have asked : (queryNameserverUdpRaw nameserver query).After past fun trace result => ∀ response,
        result = .ok response → ∃ source datagram,
          (⟨.exchange nameserver query, .received source datagram⟩ : Event NetReply) ∈ trace ∧
            response = datagram.take 4096 := by
      refine .bind (attempts_received (fun sent _ => sent = query) fun _ => rfl) fun trace result _ received => ?_
      cases result with
      | error cause => rintro _ ⟨⟩
      | ok tagged =>
        obtain ⟨_, source, datagram, rfl, listed, same⟩ := received _ _ rfl
        rintro _ ⟨⟩
        exact ⟨source, datagram, listed, same⟩
    refine asked.bind fun trace result _ received => ?_
    cases result with
    | error cause => exact ih
    | ok response =>
      obtain ⟨source, datagram, listed, rfl⟩ := received response rfl
      dsimp only
      split
      · rename_i parsed
        rintro _ ⟨⟩
        exact ⟨nameserver, source, datagram, listed, parsed⟩
      · exact ih

theorem prepareQuery_avoids : Only AvoidsShared (prepareQuery host) :=
  only_bind (only_request fun _ => trivial) fun _ => only_pure _

theorem queryNameserverUdp_avoids : Only AvoidsShared (queryNameserverUdp nameserver host) := by
  refine only_bind (attempts_only (fun _ => trivial) (fun _ _ => trivial) prepareQuery_avoids _ _) fun result => ?_
  cases result <;> exact only_pure _

theorem queryNameservers_avoids (nameservers : List SocketAddr) :
    Only AvoidsShared (resolver.queryNameservers host port nameservers) := by
  induction nameservers with
  | nil => exact only_pure _
  | cons nameserver rest ih =>
    refine only_bind queryNameserverUdp_avoids fun result => ?_
    cases result with
    | error cause => exact ih
    | ok answer =>
      dsimp only
      generalize (if resolver.ipv6Enabled = true then answer.1 else _) = ips
      split
      · exact ih
      · exact only_bind ((storeIps_stores _ _).mono fun _ => IsStore.avoids) fun _ => only_pure _

theorem queryNameservers_sent
    (yields : Yields (resolver.queryNameservers host port nameservers) trace (some addrs)) : ¬ NoneSent trace := by
  induction nameservers generalizing trace with
  | nil => cases yields.of_pure.2
  | cons nameserver rest ih =>
    obtain ⟨first, second, result, rfl, asking, going⟩ := yields.of_bind
    intro silent
    obtain ⟨former, latter⟩ := noneSent_append_iff.mp silent
    cases result with
    | error cause => exact ih going latter
    | ok answer =>
      obtain ⟨_, _, _, listed, -⟩ := asking.after queryNameserverUdp_received _ _ rfl
      cases former _ listed

theorem systemLookup_trace (yields : Yields (resolver.systemLookup host port) trace result) :
    ∃ reply rest, trace = ⟨.lookupHost host port, reply⟩ :: rest ∧ ∀ event ∈ rest, IsStore event := by
  obtain ⟨reply, rest, rfl, going⟩ := yields.of_request_bind
  refine ⟨reply, rest, rfl, ?_⟩
  revert going
  cases reply with
  | error cause => exact fun going => only_bind storeFailure_stores (fun _ => only_pure _) rest result going
  | ok addrs =>
    dsimp only
    split
    · exact fun going => only_bind storeFailure_stores (fun _ => only_pure _) rest result going
    · exact fun going => only_bind (storeIps_stores _ _) (fun _ => only_pure _) rest result going

theorem isSome_fromEntry_iff :
    (resolver.fromEntry host port entry age).isSome = true ↔ entry.Settles age := by
  unfold DnsResolver.fromEntry DnsEntry.Settles
  split
  · rename_i live
    by_cases failed : entry.failed = true
    · simp [live, failed]
    · by_cases empty : entry.ips = []
      · simp [failed, empty]
      · simp [live, failed, empty]
  · rename_i expired
    simp [expired]

theorem cachedAnswer_trace (yields : Yields (resolver.cachedAnswer host port) trace answer) :
    Quiet literal trace ∧ NoneSent trace ∧ (answer.isSome = true ↔ Answered host trace) := by
  unfold DnsResolver.cachedAnswer at yields
  split at yields
  · obtain ⟨found, rest, rfl, going⟩ := yields.of_request_bind
    obtain ⟨rfl, rfl⟩ := going.of_pure
    refine ⟨by simp [Quiet, isLocalLookup, wasSent], by simp [NoneSent, wasSent], ?_⟩
    cases found with
    | none =>
      refine ⟨nofun, ?_⟩
      rintro ⟨entry, age, listed, -⟩
      cases List.mem_singleton.mp listed
    | some found =>
      obtain ⟨entry, age⟩ := found
      refine isSome_fromEntry_iff.trans ⟨?_, ?_⟩
      · exact fun settles => ⟨entry, age, List.mem_singleton.mpr rfl, settles⟩
      · rintro ⟨other, later, listed, settles⟩
        cases List.mem_singleton.mp listed
        exact settles
  · obtain ⟨rfl, rfl⟩ := yields.of_pure
    simp [Quiet, NoneSent, Answered]

/-- A host is resolved without a lookup outside the tunnel exactly if the cache settles it, or if it is an
address to the system's resolver and no nameserver was reached. -/
theorem resolve_quiet_iff (yields : Yields (resolver.resolve host port) trace result) :
    Quiet literal trace ↔ Answered host trace ∨ (literal host = true ∧ NoneSent trace) := by
  obtain ⟨first, rest, cached, rfl, looking, going⟩ := yields.of_bind
  obtain ⟨quiet, silent, settled⟩ : Quiet literal first ∧ NoneSent first ∧ _ := cachedAnswer_trace looking
  cases cached with
  | some answer =>
    obtain ⟨rfl, -⟩ := going.of_pure
    rw [List.append_nil]
    exact iff_of_true quiet (.inl (settled.mp rfl))
  | none =>
    have missed : ¬ Answered host first := fun answered => by cases settled.mpr answered
    obtain ⟨second, third, found, rfl, asking, ending⟩ := going.of_bind
    have avoids := queryNameservers_avoids _ second found asking
    rw [quiet_append_iff, quiet_append_iff, answered_append_iff, answered_append_iff, noneSent_append_iff,
      noneSent_append_iff, quiet_iff_noneSent avoids]
    simp only [quiet, silent, missed, not_answered avoids, true_and, false_or]
    cases found with
    | some addrs =>
      obtain ⟨rfl, -⟩ := ending.of_pure
      simp [queryNameservers_sent asking, Answered]
    | none =>
      obtain ⟨reply, stores, rfl, stored⟩ := systemLookup_trace ending
      have unread : ¬ Answered host (⟨.lookupHost host port, reply⟩ :: stores) := by
        rintro ⟨entry, age, listed, -⟩
        rcases List.mem_cons.mp listed with same | later
        · cases same
        · exact stored _ later
      have unsent : NoneSent stores := fun event listed => (stored event listed).unsent
      have storing : Quiet literal stores :=
        (quiet_iff_noneSent fun event listed => (stored event listed).avoids).mpr unsent
      have looked : Quiet literal (⟨.lookupHost host port, reply⟩ :: stores) ↔ literal host = true := by
        rw [Quiet, List.forall_mem_cons]
        exact (and_iff_left storing).trans (by simp [isLocalLookup])
      have outside : NoneSent (⟨.lookupHost host port, reply⟩ :: stores) := List.forall_mem_cons.mpr ⟨rfl, unsent⟩
      simp only [unread, looked, outside, false_or, and_true]
      exact and_comm

theorem exists_queryNameservers_none (nameservers : List SocketAddr) :
    ∃ trace, Yields (resolver.queryNameservers host port nameservers) trace none := by
  induction nameservers with
  | nil => exact ⟨[], .done _⟩
  | cons nameserver rest ih =>
    obtain ⟨later, yields⟩ := ih
    have unbound : Yields (queryNameserverUdp nameserver host) [⟨.bind, .error "no socket"⟩]
        (.error (.bindFailed "no socket")) := .ask _ (.done _)
    exact ⟨_, unbound.bind yields⟩

theorem exists_cachedAnswer_none : ∃ trace, Yields (resolver.cachedAnswer host port) trace none := by
  unfold DnsResolver.cachedAnswer
  split
  · exact ⟨_, (yields_request none).bind (.done _)⟩
  · exact ⟨[], .done _⟩

theorem exists_systemLookup_error :
    ∃ trace error, Yields (resolver.systemLookup host port) trace (.error error) := by
  have stored : ∃ trace, Yields (resolver.storeFailure host) trace () := by
    unfold DnsResolver.storeFailure
    split
    · exact ⟨_, yields_request _⟩
    · exact ⟨[], .done _⟩
  obtain ⟨trace, stored⟩ := stored
  refine ⟨⟨.lookupHost host port, .error "no resolver"⟩ :: (trace ++ []), .lookupFailed host "no resolver", ?_⟩
  exact .bind (yields_request _) (stored.bind (.done _))

theorem exists_resolve_error : ∃ trace error, Yields (resolver.resolve host port) trace (.error error) := by
  obtain ⟨first, missed⟩ : ∃ trace, Yields (resolver.cachedAnswer host port) trace none := exists_cachedAnswer_none
  obtain ⟨second, unanswered⟩ : ∃ trace, Yields (resolver.queryNameservers host port resolver.nameservers) trace none :=
    exists_queryNameservers_none _
  obtain ⟨third, error, failed⟩ : ∃ trace error, Yields (resolver.systemLookup host port) trace (.error error) :=
    exists_systemLookup_error
  exact ⟨first ++ (second ++ third), error, missed.bind (unanswered.bind failed)⟩

end lookups

end Rvpn.SplitTunnel
