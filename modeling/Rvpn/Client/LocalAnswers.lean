import Rvpn.Client.DnsCorrelation
import Rvpn.Mobile.DnsRouting
import Rvpn.SplitTunnel.Authenticity

/-! What the two DNS servers forward and store of the datagrams that answer their own questions. -/

namespace Rvpn.Client

open Interaction
open Mobile (DnsReply DnsServer Message MessageCodec Query makeBaseResponse makeErrorResponse)
open Server (IpAddr SocketAddr)
open SplitTunnel
open SplitTunnel.DnsWire (parseDnsAResponse)

def GivesForwarded (datagram : Bytes) (ip : IpAddr) : Prop :=
  GivesAddress datagram ip ∨
    ∃ txid ips ttlSecs, parseDnsAResponse (withTxid txid (datagram.take 4096)) txid = .ok (ips, ttlSecs) ∧ ip ∈ ips

def GivesRecord (codec : MessageCodec) (datagram : Bytes) (ip : IpAddr) : Prop :=
  GivesAddress datagram ip ∨
    ∃ message record, codec.fromVec (datagram.take 4096) = .ok message ∧ record ∈ message.answers ∧
      record.address? = some ip

def storedBy : Event TaskReply → List IpAddr
  | ⟨.inl (.store _ ips _), _⟩ => ips
  | ⟨.inr (.storeBypass _ _ ips _), _⟩ => ips
  | _ => []

def Composed (request message : Message) : Prop :=
  ∃ code answers, message = { makeBaseResponse request with responseCode := code, answers }

def TaskTraced (trace : List (Event TaskReply)) : Prop :=
  ∀ event ∈ trace, ∀ ip ∈ storedBy event, Sourced GivesForwarded (innerTrace trace) ip

def AuthenticStores (gives : Bytes → IpAddr → Prop) (trace : List (Event NetReply)) : Prop :=
  ∀ host ips ttl stored, (⟨.store host ips ttl, stored⟩ : Event NetReply) ∈ trace →
    ∀ ip ∈ ips, ReadAuthentic trace (gives · ip)

theorem authenticStores_of_traced (traced : Traced gives trace) (trusted : Trusted trace) :
    AuthenticStores gives trace :=
  fun host ips ttl stored listed ip included => (traced host ips ttl stored listed ip included).authentic trusted

section inner

variable {Other : Type} {OtherReply : Other → Type} {past new : List (Event (Sum.elim NetReply OtherReply))}

theorem innerTrace_subset : innerTrace past ⊆ innerTrace (past ++ new) :=
  List.filterMap_subset _ (List.subset_append_left past new)

theorem innerTrace_outer (outer : ∀ event ∈ new, Event.inner? event = none) : innerTrace (past ++ new) = innerTrace past := by
  rw [innerTrace_append, innerTrace_eq_nil outer, List.append_nil]

end inner

section desktop

variable {proxy : DnsProxy} {data : Bytes} {queryId : UInt64} {parsed : ParsedQuery} {past new : List (Event TaskReply)}

theorem TaskTraced.append (traced : TaskTraced past)
    (added : ∀ event ∈ new, ∀ ip ∈ storedBy event, Sourced GivesForwarded (innerTrace (past ++ new)) ip) :
    TaskTraced (past ++ new) := by
  intro event listed ip included
  rcases List.mem_append.mp listed with early | late
  · exact (traced event early ip included).mono innerTrace_subset
  · exact added event late ip included

theorem keeps_taskTraced_request (unstored : ∀ reply, storedBy ⟨question, reply⟩ = []) :
    (Program.request question : TaskProgram (TaskReply question)).Keeps TaskTraced := by
  refine fun past traced reply => traced.append fun event listed ip included => ?_
  rw [List.mem_singleton.mp listed, unstored reply] at included
  cases included

theorem keeps_taskTraced_lift {program : Program NetReply α} (keeps : program.Keeps (Traced GivesForwarded)) :
    (program.lift : TaskProgram α).Keeps TaskTraced := by
  intro past traced
  have stores : Traced GivesForwarded (innerTrace past) :=
    fun host ips ttl stored listed => traced _ (mem_innerTrace.mp listed)
  have lifted : Only (∃ below, · = Event.lift below) (program.lift : TaskProgram α) := only_lift fun event => ⟨event, rfl⟩
  refine ((keeps _ stores).lift.and (lifted.after past)).imp ?_
  rintro _ _ ⟨stores, new, rfl, inner⟩
  refine traced.append fun event listed ip included => ?_
  obtain ⟨⟨question, reply⟩, rfl⟩ := inner event listed
  cases question with
  | store host ips ttl =>
    exact stores host ips ttl reply (mem_innerTrace.mpr (List.mem_append_right past listed)) ip included
  | _ => cases included

theorem resolveLocally_storeless : Only Storeless (proxy.resolveLocally data txid) := by
  unfold DnsProxy.resolveLocally
  split
  · exact only_pure _
  · refine only_bind (forwardInTurn_storeless _) fun found => ?_
    cases found <;> exact only_pure _

theorem answerBypass_traced : (proxy.answerBypass data parsed).Keeps TaskTraced := by
  intro past traced
  refine .bind (.and (keeps_taskTraced_lift (keeps_traced resolveLocally_storeless) past traced)
    DnsProxy.resolveLocally_received.lift) ?_
  rintro trace resolved - ⟨traced, received⟩
  cases resolved with
  | error causes => exact traced
  | ok wire =>
    dsimp only
    split
    · exact traced
    · rename_i ips ttlSecs read
      obtain ⟨nameserver, source, datagram, listed, rfl⟩ := received wire rfl
      refine Program.After.bind ?_ fun _ _ _ traced => traced
      unfold DnsProxy.storeAnswer
      split
      · refine fun reply => traced.append fun event stored ip included => ?_
        cases List.mem_singleton.mp stored
        exact .inl ⟨nameserver, data, source, datagram, innerTrace_subset listed, .inr ⟨_, ips, ttlSecs, read, included⟩⟩
      · exact traced

theorem answerAddress_traced : (proxy.answerAddress data queryId parsed).Keeps TaskTraced := by
  refine .bind (keeps_taskTraced_lift (keeps_traced lookupCached_storeless)) fun found => ?_
  cases found with
  | some ips =>
    refine .bind ?_ fun _ => keeps_pure _
    exact .bind (keeps_taskTraced_lift (keeps_traced getRemainingTtl_storeless)) fun _ => keeps_pure _
  | none =>
    refine .bind (keeps_taskTraced_request fun _ => rfl) fun sent => ?_
    cases sent with
    | false => exact keeps_pure _
    | true => exact .bind (keeps_taskTraced_request fun _ => rfl) fun _ => keeps_pure _

theorem answerLocally_traced : (proxy.answerLocally data parsed).Keeps TaskTraced := by
  refine .bind (keeps_taskTraced_lift (keeps_traced resolveLocally_storeless)) fun found => ?_
  cases found <;> exact keeps_pure _

theorem answer_traced : (proxy.answer data queryId parsed).Keeps TaskTraced := by
  refine .bind ?_ fun decision => ?_
  · unfold DnsProxy.decide
    split
    · exact keeps_pure _
    · exact keeps_taskTraced_lift (decideByHost_traced fun _ _ gives => .inl gives)
  · cases decision with
    | bypass => exact answerBypass_traced.bind fun _ => keeps_pure _
    | block => exact keeps_pure _
    | tunnel =>
      rw [DnsProxy.answerDecided]
      split
      · exact answerLocally_traced.bind fun _ => keeps_pure _
      · split
        · exact keeps_pure _
        · exact answerAddress_traced

theorem handle_traced : (proxy.handle client data queryId).Keeps TaskTraced := by
  unfold DnsProxy.handle
  split
  · exact keeps_pure _
  · refine answer_traced.bind fun found => ?_
    cases found with
    | none => exact keeps_pure _
    | some answer => exact .bind (keeps_taskTraced_request fun _ => rfl) fun _ => keeps_pure _

theorem handle_forwarded (yields : Yields (proxy.handle client data queryId) trace (some answer))
    (forwarded : answer.origin = .forwarded) :
    ∃ txid, ReadFrom (innerTrace trace) fun datagram => answer.wire = withTxid txid (datagram.take 4096) := by
  rcases DnsProxy.handle_trace yields with ⟨missing, -⟩ | ⟨parsed, found, before, sent, -, same, rfl, -, explains⟩
  · cases missing
  · cases same
    rw [forwarded] at explains
    obtain ⟨nameserver, source, datagram, received, wire⟩ := explains
    refine ⟨parsed.txid, nameserver, data, source, datagram, ?_, wire⟩
    exact mem_innerTrace.mpr (List.mem_append_left _ received)

end desktop

section phone

variable {server : DnsServer} {request : Message} {query : Query} {client : SocketAddr}
  {past new : List (Event DnsReply)} {inner : List (Event NetReply)}

theorem composed_base : Composed request (makeBaseResponse request) := ⟨.noError, [], rfl⟩

theorem composed_error (code : Mobile.ResponseCode) : Composed request (makeErrorResponse request code) :=
  ⟨code, [], rfl⟩

theorem toVec_of_serialize (serialized : server.serialize context message = .ok bytes) :
    server.codec.toVec message = .ok bytes :=
  Router.withContext_eq_ok.mp serialized

/-- What a response is from. -/
def From (server : DnsServer) (request message : Message) (trace : List (Event NetReply)) : Prop :=
  Composed request message ∨ ReadFrom trace fun datagram => server.codec.fromVec (datagram.take 4096) = .ok message

theorem resolveViaUdpForward_received : (server.resolveViaUdpForward request).After inner fun trace result =>
    ∀ response, result = .ok response →
      ReadFrom trace fun datagram => server.codec.fromVec (datagram.take 4096) = .ok response := by
  unfold DnsServer.resolveViaUdpForward
  split
  · rintro _ ⟨⟩
  · refine .bind (forwardInTurn_received _) fun trace found _ received => ?_
    cases found with
    | none => rintro _ ⟨⟩
    | some message =>
      obtain ⟨nameserver, source, datagram, listed, read⟩ := received message rfl
      rintro _ ⟨⟩
      refine ⟨nameserver, _, source, datagram, listed, ?_⟩
      cases parsed : server.codec.fromVec (datagram.take 4096) with
      | error causes => simp [parsed, Except.toOption] at read
      | ok other => simpa [parsed, Except.toOption] using read

theorem resolveViaUdpForward_storeless : Only Storeless (server.resolveViaUdpForward request) := by
  unfold DnsServer.resolveViaUdpForward
  split
  · exact only_pure _
  · refine only_bind (forwardInTurn_storeless _) fun found => ?_
    cases found <;> exact only_pure _

theorem cachedAnswers_storeless : Only Storeless (server.cachedAnswers query) := by
  refine only_bind lookupCached_storeless fun cached => ?_
  cases cached with
  | none => exact only_pure _
  | some ips =>
    refine only_bind getRemainingTtl_storeless fun ttl => ?_
    cases ttl <;> exact only_pure _

theorem resolveViaSystem_source (traced : Traced (GivesRecord server.codec) inner) :
    (server.resolveViaSystem request query).After inner fun trace response =>
      Traced (GivesRecord server.codec) trace ∧ From server request response trace := by
  refine (resolve_traced (fun _ _ gives => .inl gives) inner traced).bind fun trace found _ traced => ?_
  cases found with
  | error cause => exact ⟨traced, .inl (composed_error _)⟩
  | ok addrs =>
    refine .bind (keeps_traced getRemainingTtl_storeless trace traced) fun trace _ _ traced => ?_
    exact ⟨traced, .inl ⟨.noError, _, rfl⟩⟩

theorem storeAnswers_traced (traced : Traced (GivesRecord server.codec) inner)
    (read : ReadFrom inner fun datagram => server.codec.fromVec (datagram.take 4096) = .ok response) :
    (server.storeAnswers domain response).After inner fun trace _ => Traced (GivesRecord server.codec) trace := by
  unfold DnsServer.storeAnswers DnsResolver.storeWithTtl
  dsimp only
  split
  · split
    · refine traced.store fun ip included => ?_
      obtain ⟨⟨address, lasting⟩, found, rfl⟩ := List.mem_map.mp included
      obtain ⟨record, member, same⟩ := List.mem_filterMap.mp found
      obtain ⟨address, named, pair⟩ := Option.map_eq_some_iff.mp same
      cases pair
      obtain ⟨nameserver, sent, source, datagram, received, parsed⟩ := read
      exact .inl ⟨nameserver, sent, source, datagram, received, .inr ⟨response, record, parsed, member, named⟩⟩
    · exact traced
  · exact traced

theorem resolveLocal_source (traced : Traced (GivesRecord server.codec) inner) :
    (server.resolveLocal request query).After inner fun trace response =>
      Traced (GivesRecord server.codec) trace ∧ From server request response trace := by
  refine .bind (keeps_traced cachedAnswers_storeless inner traced) fun trace answers _ traced => ?_
  split
  · exact ⟨traced, .inl ⟨.noError, answers, rfl⟩⟩
  · refine .bind (.and (keeps_traced resolveViaUdpForward_storeless trace traced) resolveViaUdpForward_received) ?_
    rintro trace forwarded - ⟨traced, received⟩
    cases forwarded with
    | ok response =>
      have read := received response rfl
      exact (storeAnswers_traced traced read).bind fun _ _ within traced => ⟨traced, .inr (read.mono within)⟩
    | error causes => exact resolveViaSystem_source traced

theorem resolveRemote_composed :
    (server.resolveRemote request query exit).After past fun _ response => Composed request response := by
  unfold DnsServer.resolveRemote
  split
  · exact composed_base
  · split
    · refine after_true.bind fun _ found _ _ => ?_
      cases found with
      | error causes => exact composed_error _
      | ok answer => exact ⟨.noError, _, rfl⟩
    · exact composed_error _

theorem serialize_composed (composed : Composed request message) (bytes : Bytes)
    (serialized : server.serialize context message = .ok bytes) :
    ∃ message, server.codec.toVec message = .ok bytes ∧ Composed request message :=
  ⟨message, toVec_of_serialize serialized, composed⟩

theorem resolveTunnelMinimal_composed :
    (server.resolveTunnelMinimal request query domain exit).After past fun _ result => ∀ bytes, result = .ok bytes →
      ∃ message, server.codec.toVec message = .ok bytes ∧ Composed request message := by
  unfold DnsServer.resolveTunnelMinimal
  split
  · exact serialize_composed composed_base
  · split
    · refine after_true.bind fun _ found _ _ => ?_
      cases found with
      | error causes => exact serialize_composed (composed_error _)
      | ok answer => exact serialize_composed ⟨.noError, _, rfl⟩
    · exact serialize_composed (composed_error _)

/-- What the events of a query's task say about where its replies and what it stores are from. -/
structure Grounded (server : DnsServer) (request : Message) (trace : List (Event DnsReply)) : Prop where
  stores : Traced (GivesRecord server.codec) (innerTrace trace)
  replies : ∀ client bytes outcome, (⟨.inr (.reply client bytes), outcome⟩ : Event DnsReply) ∈ trace →
    ∃ message, server.codec.toVec message = .ok bytes ∧ From server request message (innerTrace trace)

def Unreplied : Event DnsReply → Prop
  | ⟨.inr (.reply _ _), _⟩ => False
  | _ => True

/-- What is stored so far is from its source, and there is no reply yet. -/
structure Ready (server : DnsServer) (trace : List (Event DnsReply)) : Prop where
  stores : Traced (GivesRecord server.codec) (innerTrace trace)
  unreplied : ∀ event ∈ trace, Unreplied event

theorem Ready.grounded (ready : Ready server past) : Grounded server request past :=
  ⟨ready.stores, fun _ _ _ listed => (ready.unreplied _ listed).elim⟩

theorem Ready.reply (ready : Ready server past) (serialized : server.codec.toVec message = .ok bytes)
    (source : From server request message (innerTrace past)) (outcome : Except String Unit) :
    Grounded server request (past ++ [⟨.inr (.reply client bytes), outcome⟩]) := by
  have same : innerTrace (past ++ [⟨.inr (.reply client bytes), outcome⟩]) = innerTrace past :=
    innerTrace_outer (List.forall_mem_singleton.mpr rfl)
  refine ⟨same ▸ ready.stores, fun _ _ _ listed => ?_⟩
  rcases List.mem_append.mp listed with early | late
  · exact (ready.unreplied _ early).elim
  · cases List.mem_singleton.mp late
    exact ⟨message, serialized, same ▸ source⟩

theorem Ready.lift {program : Program NetReply α} {post : List (Event NetReply) → α → Prop} (ready : Ready server past)
    (holds : program.After (innerTrace past) fun trace value => Traced (GivesRecord server.codec) trace ∧ post trace value) :
    (program.lift : Mobile.DnsProgram α).After past fun trace value => Ready server trace ∧ post (innerTrace trace) value := by
  have silent : Only Unreplied (program.lift : Mobile.DnsProgram α) := only_lift fun _ => trivial
  refine (holds.lift.and (silent.after past)).imp ?_
  rintro _ value ⟨⟨stores, holds⟩, new, rfl, silent⟩
  exact ⟨⟨stores, List.forall_mem_append.mpr ⟨ready.unreplied, silent⟩⟩, holds⟩

theorem Ready.asks (ready : Ready server past) (asks : ∀ event ∈ new, Mobile.AsksExit event) :
    Ready server (past ++ new) := by
  refine ⟨?_, List.forall_mem_append.mpr ⟨ready.unreplied, fun event listed => ?_⟩⟩
  · rw [innerTrace_outer fun event listed => (asks event listed).outer]
    exact ready.stores
  · have asked := asks event listed
    unfold Unreplied
    split
    · exact asked.elim
    · trivial

theorem respond_grounded (ready : Ready server past) (source : From server request message (innerTrace past)) :
    (server.respond client serializing sending message).After past fun trace _ => Grounded server request trace := by
  unfold DnsServer.respond
  split
  · exact ready.grounded
  · rename_i bytes serialized
    refine after_request fun outcome => ?_
    cases outcome <;> exact ready.reply (toVec_of_serialize serialized) source _

theorem decidedResponse_source (ready : Ready server past) :
    (server.decidedResponse request query decision).After past fun trace response =>
      Ready server trace ∧ From server request response (innerTrace trace) := by
  cases decision with
  | bypass => exact ready.lift (resolveLocal_source ready.stores)
  | tunnel =>
    refine (Program.After.and (Mobile.DnsServer.resolveRemote_asks.after past) resolveRemote_composed).imp ?_
    rintro _ response ⟨⟨new, rfl, asks⟩, composed⟩
    exact ⟨ready.asks asks, .inl composed⟩
  | block => exact ⟨ready, .inl (composed_error _)⟩

theorem handleDecided_grounded (ready : Ready server past) :
    (server.handleDecided request query client decision).After past fun trace _ => Grounded server request trace := by
  refine (decidedResponse_source ready).bind ?_
  rintro trace response - ⟨ready, source⟩
  split
  · exact ready.grounded
  · rename_i bytes serialized
    exact after_request fun outcome => ready.reply (toVec_of_serialize serialized) source outcome

theorem handleQuery_grounded :
    (server.handleQuery request client).After [] fun trace _ => Grounded server request trace := by
  have ready : Ready server [] := ⟨traced_nil, fun event listed => (by cases listed)⟩
  unfold DnsServer.handleQuery
  iterate 3
    split
    · exact ready.grounded
  iterate 2
    split
    · exact respond_grounded ready (.inl composed_base)
  split
  · exact respond_grounded ready (.inl (composed_error _))
  split
  · refine (ready.lift (resolveLocal_source ready.stores)).bind ?_
    rintro trace response - ⟨ready, source⟩
    exact respond_grounded ready source
  · refine .bind (ready.lift (.and (decideByHost_traced (fun _ _ gives => .inl gives) _ ready.stores) after_true)) ?_
    exact fun _ _ _ holds => handleDecided_grounded holds.1

theorem forwardRawDns_received : (server.forwardRawDns data).After inner fun trace result =>
    ∀ bytes, result = .ok bytes → ReadFrom trace fun datagram => bytes = datagram.take 4096 := by
  refine .bind (forwardInTurn_received _) fun trace found _ received => ?_
  cases found with
  | none => rintro _ ⟨⟩
  | some response =>
    obtain ⟨nameserver, source, datagram, listed, read⟩ := received response rfl
    rintro _ ⟨⟩
    exact ⟨nameserver, _, source, datagram, listed, (Option.some.inj read).symm⟩

theorem forwardRawDns_storeless : Only Storeless (server.forwardRawDns data) := by
  refine only_bind (forwardInTurn_storeless _) fun found => ?_
  cases found <;> exact only_pure _

theorem resolveDecided_source (traced : Traced (GivesRecord server.codec) (innerTrace past)) :
    (server.resolveDecided data request query decision).After past fun trace result =>
      Traced (GivesRecord server.codec) (innerTrace trace) ∧ ∀ bytes, result = .ok bytes →
        (∃ message, server.codec.toVec message = .ok bytes ∧ Composed request message) ∨
          ReadFrom (innerTrace trace) fun datagram => bytes = datagram.take 4096 := by
  cases decision with
  | block => exact ⟨traced, fun bytes serialized => .inl (serialize_composed (composed_error _) bytes serialized)⟩
  | bypass =>
    refine (Program.After.and (keeps_traced forwardRawDns_storeless _ traced) forwardRawDns_received).lift.imp ?_
    exact fun trace result holds => ⟨holds.1, fun bytes same => .inr (holds.2 bytes same)⟩
  | tunnel =>
    refine (Program.After.and (Mobile.DnsServer.resolveTunnelMinimal_asks.after past) resolveTunnelMinimal_composed).imp ?_
    rintro _ result ⟨⟨new, rfl, asks⟩, composed⟩
    refine ⟨?_, fun bytes same => .inl (composed bytes same)⟩
    rwa [innerTrace_outer fun event listed => (asks event listed).outer]

theorem resolveRaw_source : (server.resolveRaw data).After [] fun trace handled =>
    Traced (GivesRecord server.codec) (innerTrace trace) ∧ ∀ bytes, handled.result = .ok bytes →
      (∃ request message, server.codec.fromVec data = .ok request ∧ server.codec.toVec message = .ok bytes ∧
        Composed request message) ∨
        ReadFrom (innerTrace trace) fun datagram => bytes = datagram.take 4096 := by
  unfold DnsServer.resolveRaw
  split
  · exact ⟨traced_nil, fun bytes same => (by cases same)⟩
  · rename_i request parsed
    have read : server.codec.fromVec data = .ok request := Router.withContext_eq_ok.mp parsed
    split
    · exact ⟨traced_nil, fun bytes same => (by cases same)⟩
    split
    · exact ⟨traced_nil, fun bytes same => .inl ⟨request, _, read, toVec_of_serialize same, composed_base⟩⟩
    · have nothing : Traced (GivesRecord server.codec) [] := traced_nil
      refine .bind (.lift (decideByHost_traced (fun _ _ => Or.inl) _ nothing)) fun trace decision _ traced => ?_
      refine (resolveDecided_source traced).bind ?_
      rintro trace result - ⟨traced, source⟩
      refine ⟨traced, fun bytes same => (source bytes same).imp_left ?_⟩
      rintro ⟨message, serialized, composed⟩
      exact ⟨request, message, read, serialized, composed⟩

end phone

/-- A task that may look something up itself: the desktop's for a datagram, the phones' for a query from either side,
and the resolver's for a host. -/
inductive LocalTask where
  | desktop (proxy : DnsProxy) (client : SocketAddr) (data : Bytes) (queryId : UInt64)
      (trace : List (Event TaskReply)) (result : Option Answer)
  | phone (server : DnsServer) (request : Message) (client : SocketAddr) (trace : List (Event DnsReply))
      (handled : Mobile.Handled Unit)
  | extension (server : DnsServer) (data : Bytes) (trace : List (Event DnsReply)) (handled : Mobile.Handled Bytes)
  | lookup (resolver : DnsResolver) (host : Text) (port : UInt16) (trace : List (Event NetReply))
      (result : Except ResolveError (List SocketAddr))

namespace LocalTask

def Happens : LocalTask → Prop
  | .desktop proxy client data queryId trace result => Yields (proxy.handle client data queryId) trace result
  | .phone server request client trace handled => Yields (server.handleQuery request client) trace handled
  | .extension server data trace handled => Yields (server.resolveRaw data) trace handled
  | .lookup resolver host port trace result => Yields (resolver.resolve host port) trace result

def lookups : LocalTask → List (Event NetReply)
  | .desktop _ _ _ _ trace _ => innerTrace trace
  | .phone _ _ _ trace _ => innerTrace trace
  | .extension _ _ trace _ => innerTrace trace
  | .lookup _ _ _ trace _ => trace

/-- A response that is sent on and not of the phones' server's own making, and each address that is stored, are read
from a datagram that answers its query. -/
def Genuine (task : LocalTask) : Prop :=
  match task with
  | .desktop _ _ _ _ trace result =>
    (∀ answer, result = some answer → answer.origin = .forwarded →
      ∃ txid, ReadAuthentic task.lookups fun datagram => answer.wire = withTxid txid (datagram.take 4096)) ∧
    ∀ event ∈ trace, ∀ ip ∈ storedBy event, ReadAuthentic task.lookups (GivesForwarded · ip)
  | .phone server request _ trace _ =>
    (∀ receiver bytes outcome, (⟨.inr (.reply receiver bytes), outcome⟩ : Event DnsReply) ∈ trace →
      ∃ message, server.codec.toVec message = .ok bytes ∧ (Composed request message ∨
        ReadAuthentic task.lookups fun datagram => server.codec.fromVec (datagram.take 4096) = .ok message)) ∧
    AuthenticStores (GivesRecord server.codec) task.lookups
  | .extension server data _ handled =>
    (∀ bytes, handled.result = .ok bytes →
      (∃ request message, server.codec.fromVec data = .ok request ∧ server.codec.toVec message = .ok bytes ∧
        Composed request message) ∨ ReadAuthentic task.lookups fun datagram => bytes = datagram.take 4096) ∧
    AuthenticStores (GivesRecord server.codec) task.lookups
  | .lookup _ _ _ _ _ => AuthenticStores GivesAddress task.lookups

/-- If all datagrams that a task receives are from the nameserver that was asked, under the transaction id and for the
question of the query, and the system's resolver knows no address, then all that the task forwards and stores is from
datagrams that answer their queries. -/
theorem local_answers_authentic (task : LocalTask) (happens : task.Happens) (trusted : Trusted task.lookups) :
    task.Genuine := by
  cases task with
  | desktop proxy client data queryId trace result =>
    refine ⟨?_, ?_⟩
    · rintro answer rfl forwarded
      obtain ⟨txid, read⟩ := handle_forwarded happens forwarded
      exact ⟨txid, read.authentic trusted⟩
    · intro event listed ip included
      exact (happens.after (handle_traced [] fun event listed => (by cases listed)) event listed ip included).authentic trusted
  | phone server request client trace handled =>
    have grounded := happens.after handleQuery_grounded
    refine ⟨?_, authenticStores_of_traced grounded.stores trusted⟩
    intro receiver bytes outcome listed
    obtain ⟨message, serialized, source⟩ := grounded.replies receiver bytes outcome listed
    exact ⟨message, serialized, Or.imp_right (fun read => read.authentic trusted) source⟩
  | extension server data trace handled =>
    obtain ⟨traced, source⟩ := happens.after resolveRaw_source
    refine ⟨?_, authenticStores_of_traced traced trusted⟩
    intro bytes same
    exact (source bytes same).imp_right fun read => read.authentic trusted
  | lookup resolver host port trace result =>
    exact authenticStores_of_traced (happens.after (resolve_traced (fun _ _ gives => gives) [] traced_nil)) trusted

end LocalTask

namespace LocalSample

open CorrelationSample (addressQuery client nameserver proxy vpnName)

def genuine : Bytes := buildDnsResponse (addressQuery vpnName) 0x1234 (ownResponse [#v[198, 51, 100, 7]] 60)

def forged : Bytes := buildDnsResponse (addressQuery "www.example.com".toList) 0 (ownResponse [#v[6, 6, 6, 6]] 60)

def stranger : SocketAddr := ⟨.v4 #v[6, 6, 6, 6], 4000⟩

def answeredBy (source : SocketAddr) (datagram : Bytes) (ip : Vector UInt8 4) : List (Event TaskReply) :=
  [⟨.inl .bind, (.ok () : Except String Unit)⟩,
    ⟨.inl (.exchange nameserver (addressQuery vpnName)), .received source datagram⟩,
    ⟨.inr (.storeBypass vpnName 1 [.v4 ip] 60000), ()⟩,
    ⟨.inr (.reply client (withTxid 0x1234 datagram)), (.ok () : Except String Unit)⟩]

def forVpnName (source : SocketAddr) (datagram : Bytes) (ip : Vector UInt8 4) : LocalTask :=
  .desktop proxy client (addressQuery vpnName) 1 (answeredBy source datagram ip)
    (some ⟨withTxid 0x1234 datagram, .forwarded⟩)

theorem of_answeredBy (listed : (⟨.exchange asked query, .received other found⟩ : Event NetReply) ∈
      innerTrace (answeredBy source datagram ip)) :
    asked = nameserver ∧ query = addressQuery vpnName ∧ other = source ∧ found = datagram := by
  have member := mem_innerTrace.mp listed
  simp only [answeredBy, List.mem_cons, List.not_mem_nil, or_false] at member
  rcases member with same | same | same | same
  · cases same
  · cases same
    exact ⟨rfl, rfl, rfl, rfl⟩
  · cases same
  · cases same

end LocalSample

namespace LocalTask

open CorrelationSample LocalSample in
theorem genuine_answer_authentic :
    (forVpnName nameserver genuine #v[198, 51, 100, 7]).Happens ∧
      Trusted (forVpnName nameserver genuine #v[198, 51, 100, 7]).lookups ∧
      (forVpnName nameserver genuine #v[198, 51, 100, 7]).Genuine := by
  have happens : (forVpnName nameserver genuine #v[198, 51, 100, 7]).Happens := yields_of_replay (by decide +kernel)
  have trusted : Trusted (forVpnName nameserver genuine #v[198, 51, 100, 7]).lookups := by
    refine ⟨?_, ?_⟩
    · intro asked query source datagram listed
      obtain ⟨rfl, rfl, rfl, rfl⟩ := of_answeredBy listed
      decide +kernel
    · intro host port addrs listed
      have member := mem_innerTrace.mp listed
      simp only [answeredBy, List.mem_cons, List.not_mem_nil, or_false] at member
      rcases member with same | same | same | same <;> cases same
  exact ⟨happens, trusted, local_answers_authentic _ happens trusted⟩

open CorrelationSample LocalSample in
/-- A stranger's datagram, under another transaction id and for another question, is sent on as the answer to the
query, and its address is stored. -/
theorem forged_answer_forwarded :
    (forVpnName stranger forged #v[6, 6, 6, 6]).Happens ∧ ¬ (forVpnName stranger forged #v[6, 6, 6, 6]).Genuine ∧
      .v4 #v[6, 6, 6, 6] ∈ (answeredBy stranger forged #v[6, 6, 6, 6]).flatMap storedBy := by
  refine ⟨yields_of_replay (by decide +kernel), ?_, by decide +kernel⟩
  intro authentic
  obtain ⟨txid, asked, query, source, datagram, listed, genuine, -⟩ := authentic.1 _ rfl rfl
  obtain ⟨rfl, rfl, rfl, rfl⟩ := of_answeredBy listed
  exact absurd genuine.source (by decide)

end LocalTask

end Rvpn.Client
