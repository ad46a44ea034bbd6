import Rvpn.Client.DnsProxy
import Rvpn.Lib.Slots
import Rvpn.Lib.Transition

/-! The DNS proxy of the desktop client with all its tasks; timeouts may strike and cache entries may go at any
moment. -/

namespace Rvpn.Client

open Interaction
open Server (Instant IpAddr SocketAddr)
open SplitTunnel (DnsEntry DnsQuery DnsResponse Text)
open SplitTunnel.DnsWire (txidOf)
open Transition

structure PendingQuery where
  task : Nat
  domain : Text
  queryType : UInt16

/-- A task for a datagram, with what it has asked so far and the channel on which it is sent a reply. -/
structure DnsTask where
  client : SocketAddr
  data : Bytes
  queryId : UInt64
  past : List (Event TaskReply) := []
  rest : TaskProgram (Option Answer)
  slot : Option (Option DnsResponse) := none

/-- Addresses that were stored as those of a domain, from the answer to a query of the type. -/
structure Stored where
  domain : Text
  queryType : UInt16
  ips : List IpAddr
  deriving DecidableEq

structure DnsProxyState where
  now : Instant := 0
  tasks : List DnsTask := []
  nextId : UInt64 := 1
  cache : Table Text DnsEntry := .empty
  stored : List Stored := []
  /-- Queries on their way to the connection, with the tasks that wait. -/
  channel : List (DnsQuery × Nat) := []
  session : Option (Table UInt64 PendingQuery) := none

inductive DnsProxyAction where
  | tick (elapsed : Nat)
  | arrive (client : SocketAddr) (datagram : Bytes)
  | go (task : Nat) (event : Event TaskReply)
  | connect
  | forward
  | sendFailed
  | respond (response : DnsResponse)
  | close
  | resolved (host : Text) (ips : List IpAddr) (ttl : Nat)
  | forget (host : Text)

def failureTtl : Nat := 30 * 1000

namespace DnsProxyState

variable (proxy : DnsProxy) (state : DnsProxyState)

def store (host : Text) (queryType : UInt16) (ips : List IpAddr) (ttl : Nat) : DnsProxyState :=
  { state with
    cache := state.cache.insert host ⟨ips, state.now, ttl, false⟩
    stored := ⟨host, queryType, ips⟩ :: state.stored }

def notify (owners : List Nat) (outcome : Option DnsResponse) : DnsProxyState :=
  { state with
    tasks := state.tasks.mapIdx fun i task => if i ∈ owners then { task with slot := some outcome } else task }

/-- What a task's question does, if the reply is one it can have. The network may reply anything. -/
def serve (asker : Nat) (slot : Option (Option DnsResponse)) : Event TaskReply → Option DnsProxyState
  | ⟨.inl (.entry host), (found : Option (DnsEntry × Nat))⟩ =>
    if found = (state.cache.lookup host).map fun entry => (entry, state.now - entry.cachedAt) then some state else none
  | ⟨.inl (.store host ips ttl), _⟩ => some (state.store host 1 ips ttl)
  | ⟨.inl (.storeFailure host), _⟩ =>
    some { state with cache := state.cache.insert host ⟨[], state.now, failureTtl, true⟩ }
  | ⟨.inr (.storeBypass domain queryType ips ttl), _⟩ => some (state.store domain queryType ips ttl)
  | ⟨.inr (.submit query), (sent : Bool)⟩ =>
    some (if sent then { state with channel := state.channel ++ [(query, asker)] } else state)
  | ⟨.inr .awaitReply, (outcome : Option (Option DnsResponse))⟩ =>
    -- five seconds may pass, and the sender may be gone
    if outcome = none ∨ outcome = slot then some state else none
  | _ => some state

def settle (pending : PendingQuery) (response : DnsResponse) : DnsProxyState :=
  let state := if response.success ∧ proxy.splitTunnel.dnsResolver.cacheEnabled then
    state.store pending.domain pending.queryType (response.ipv4Addrs.map .v4) (response.ttl * 1000) else state
  state.notify [pending.task] (some response)

def step : DnsProxyAction → Option DnsProxyState
  | .tick elapsed => some { state with now := state.now + elapsed }
  | .arrive client datagram =>
    let data := datagram.take 512
    some { state with
      tasks := state.tasks ++ [{ client, data, queryId := state.nextId, rest := proxy.handle client data state.nextId }]
      nextId := state.nextId + 1 }
  | .go asker event =>
    state.tasks[asker]?.bind fun task => (task.rest.advance event).bind fun rest =>
      (state.serve asker task.slot event).map fun next =>
        { next with tasks := next.tasks.set asker { task with past := task.past ++ [event], rest } }
  | .connect =>
    if state.session.isNone then
      -- what has waited for the connection is stale
      some { state.notify (state.channel.map Prod.snd) none with channel := [], session := some .empty }
    else none
  | .forward =>
    match state.session, state.channel with
    | some session, (query, asker) :: rest => some { state with
        channel := rest
        session := some (session.insert query.queryId ⟨asker, query.domain, query.queryType⟩) }
    | _, _ => none
  | .sendFailed =>
    match state.session, state.channel with
    | some _, _ :: rest => some { state with channel := rest, session := none }
    | _, _ => none
  | .respond response =>
    state.session.map fun session =>
      match session.lookup response.queryId with
      | some pending =>
        { settle proxy state pending response with session := some (session.erase response.queryId) }
      | none => state
  | .close =>
    state.session.map fun session =>
      { state.notify (session.entries.map fun entry => entry.2.task) none with session := none }
  | .resolved host ips ttl => some (state.store host 1 ips ttl)
  | .forget host => some { state with cache := state.cache.erase host }

end DnsProxyState

/-- Left out are a nameserver's response that has no room for a transaction id, and addresses in the answer to a query
for something else, which are stored. -/
def Careful (state : DnsProxyState) : DnsProxyAction → Prop
  | .go asker ⟨.inl (.exchange _ query), .received _ datagram⟩ =>
    ∀ task ∈ state.tasks[asker]?, task.data = query → 2 ≤ datagram.length
  | .go _ ⟨.inr (.storeBypass _ queryType _ _), _⟩ => queryType = 1
  | _ => True

def idAt (position : Nat) : UInt64 := UInt64.ofNat (position + 1)

theorem idAt_succ (position : Nat) : idAt (position + 1) = idAt position + 1 := UInt64.ofNat_add (position + 1) 1

def replyOf : Event TaskReply → Option (SocketAddr × Bytes)
  | ⟨.inr (.reply client wire), _⟩ => some (client, wire)
  | _ => none

def DnsTask.sent (task : DnsTask) : List (SocketAddr × Bytes) := task.past.filterMap replyOf

def Sound (stored : List Stored) (data : Bytes) (queryId : UInt64) : Event TaskReply → Prop
  | ⟨.inl (.exchange _ query), .received _ datagram⟩ => data = query → 2 ≤ datagram.length
  | ⟨.inl (.entry host), some (entry, _)⟩ => entry.failed = true ∨ ⟨host, 1, entry.ips⟩ ∈ stored
  | ⟨.inr .awaitReply, some (some response)⟩ => response.queryId = queryId
  | _ => True

/-- An answer from the tunnel is made of the response with the task's id, and one from the cache of addresses that
were stored for its domain as A records. -/
def Answer.Correlated (stored : List Stored) (data : Bytes) (queryId : UInt64) (parsed : ParsedQuery)
    (answer : Answer) : Prop :=
  match answer.origin with
  | .tunnel response => parsed.queryType = 1 ∧ response.queryId = queryId ∧
      answer.wire = buildDnsResponse data parsed.txid response
  | .cached ips ttl => parsed.queryType = 1 ∧ ⟨parsed.domain, 1, ips⟩ ∈ stored ∧
      answer.wire = buildDnsResponse data parsed.txid (ownResponse (v4Addrs ips) ttl)
  | .noData => answer.wire = buildDnsResponse data parsed.txid (ownResponse [] 300)
  | .failed => answer.wire = buildDnsServfail parsed.txid
  | .blocked => answer.wire = buildDnsNxdomain parsed.txid
  | .forwarded => True

namespace DnsTask

/-- The task is in the middle of its program, and what it was told is sound. -/
structure Valid (proxy : DnsProxy) (stored : List Stored) (task : DnsTask) : Prop where
  come : Steps (proxy.handle task.client task.data task.queryId) task.past task.rest
  sound : ∀ event ∈ task.past, Sound stored task.data task.queryId event
  answered : ∀ response, task.slot = some (some response) → response.queryId = task.queryId

variable {proxy : DnsProxy} {stored others : List Stored} {task : DnsTask}

theorem Valid.mono (valid : Valid proxy stored task) (within : ∀ entry ∈ stored, entry ∈ others) :
    Valid proxy others task := by
  refine ⟨valid.come, ?_, valid.answered⟩
  intro event listed
  have sound := valid.sound event listed
  unfold Sound at sound ⊢
  split
  · exact sound
  · exact sound.imp_right (within _)
  · exact sound
  · trivial

theorem Valid.replied (valid : Valid proxy stored task) (replied : task.sent ≠ []) :
    ∃ parsed answer before, parseDnsQuery proxy.fromUtf8 task.data = .ok parsed ∧
      task.rest = .done (some answer) ∧ task.sent = [(task.client, answer.wire)] ∧
      (∀ event ∈ before, event ∈ task.past) ∧ answer.origin.Explains task.data parsed before answer.wire := by
  have silent {trace : List (Event TaskReply)} (proper : ∀ event ∈ trace, Proper task.queryId event) :
      trace.filterMap replyOf = [] := by
    refine List.filterMap_eq_nil_iff.mpr fun event listed => ?_
    have improper := proper event listed
    unfold replyOf
    split
    · exact improper.elim
    · rfl
  obtain ⟨later, result, onward, whole⟩ := valid.come.exists_yields
  rcases DnsProxy.handle_trace whole with
    ⟨-, proper⟩ | ⟨parsed, answer, before, sent, read, rfl, same, proper, explains⟩
  · exact absurd (silent fun event listed => proper event (List.mem_append_left _ listed)) replied
  · rcases List.eq_nil_or_concat later with rfl | ⟨rest, last, rfl⟩
    · rw [List.append_nil] at same
      refine ⟨parsed, answer, before, read, ?_, ?_, ?_, explains⟩
      · generalize task.rest = rest at onward
        cases onward
        rfl
      · rw [DnsTask.sent, same, List.filterMap_append, silent proper]
        rfl
      · intro event listed
        exact same ▸ List.mem_append_left _ listed
    · -- the reply is still to come
      rw [List.concat_eq_append, ← List.append_assoc] at same
      obtain ⟨earlier, -⟩ := List.append_inj' same rfl
      refine absurd (silent fun event listed => proper event ?_) replied
      exact earlier ▸ List.mem_append_left _ listed

theorem txid_of_explains {data wire : Bytes} {queryId : UInt64} {parsed : ParsedQuery} {origin : Origin}
    {before : List (Event TaskReply)} {fromUtf8 : Bytes → Option Text} (read : parseDnsQuery fromUtf8 data = .ok parsed)
    (explains : origin.Explains data parsed before wire)
    (sound : ∀ event ∈ before, Sound stored data queryId event) : txidOf wire = txidOf data := by
  rw [← txidOf_parsed read]
  cases origin with
  | forwarded =>
    obtain ⟨nameserver, source, datagram, listed, rfl⟩ := explains
    refine txidOf_withTxid ?_
    have long : 2 ≤ datagram.length := sound _ listed rfl
    rw [List.length_take]
    omega
  | blocked | failed | noData =>
    cases explains
    exact txidOf_encode _
  | cached | tunnel =>
    obtain ⟨-, rfl, -⟩ := explains
    exact txidOf_encode _

theorem correlated_of_explains {data : Bytes} {queryId : UInt64} {parsed : ParsedQuery} {answer : Answer}
    {before : List (Event TaskReply)} (explains : answer.origin.Explains data parsed before answer.wire)
    (sound : ∀ event ∈ before, Sound stored data queryId event) :
    answer.Correlated stored data queryId parsed := by
  obtain ⟨wire, origin⟩ := answer
  cases origin with
  | forwarded => trivial
  | blocked | failed | noData => exact explains
  | cached ips ttl =>
    obtain ⟨address, same, entry, age, listed, lasting, rfl⟩ := explains
    have kept : entry.failed = true ∨ ⟨parsed.domain, 1, entry.ips⟩ ∈ stored := sound _ listed
    refine ⟨address, kept.resolve_left ?_, same⟩
    simp [lasting]
  | tunnel response =>
    obtain ⟨address, same, listed⟩ := explains
    exact ⟨address, sound _ listed, same⟩

end DnsTask

/-- Ids are those of positions wherever they occur, and what the cache has was stored for A records. -/
structure DnsProxyState.Correlated (proxy : DnsProxy) (state : DnsProxyState) : Prop where
  task : ∀ (i : Nat) (task : DnsTask), state.tasks[i]? = some task →
    task.queryId = idAt i ∧ task.Valid proxy state.stored
  next : state.nextId = idAt state.tasks.length
  channel : ∀ query i, (query, i) ∈ state.channel → query.queryId = idAt i ∧ query.queryType = 1
  pending : ∀ session, state.session = some session → ∀ id query, session.lookup id = some query →
    id = idAt query.task ∧ query.queryType = 1
  cache : ∀ host entry, state.cache.lookup host = some entry →
    entry.failed = true ∨ ⟨host, 1, entry.ips⟩ ∈ state.stored

namespace DnsProxyState

variable {proxy : DnsProxy} {state next : DnsProxyState}

namespace Correlated

theorem initial : Correlated proxy {} := by
  refine ⟨?_, rfl, ?_, ?_, ?_⟩
  · intro i task present
    cases present
  · intro query i listed
    cases listed
  · intro session there
    cases there
  · intro host entry present
    cases present

section

variable (correlated : Correlated proxy state)
include correlated

theorem store (host : Text) (ips : List IpAddr) (ttl : Nat) :
    Correlated proxy (state.store host 1 ips ttl) where
  task i task present := by
    obtain ⟨numbered, valid⟩ := correlated.task i task present
    exact ⟨numbered, valid.mono fun entry listed => List.mem_cons_of_mem _ listed⟩
  next := correlated.next
  channel := correlated.channel
  pending := correlated.pending
  cache other entry present := by
    rcases Table.of_lookup_insert present with ⟨rfl, rfl⟩ | ⟨-, present⟩
    · exact .inr List.mem_cons_self
    · exact (correlated.cache other entry present).imp_right (List.mem_cons_of_mem _)

theorem notify (meant : ∀ response, outcome = some response → ∀ i ∈ owners, response.queryId = idAt i) :
    Correlated proxy (state.notify owners outcome) where
  task i task present := by
    rw [DnsProxyState.notify, List.getElem?_mapIdx] at present
    obtain ⟨before, stored, rfl⟩ := Option.map_eq_some_iff.mp present
    obtain ⟨numbered, valid⟩ := correlated.task i before stored
    split
    · rename_i owner
      refine ⟨numbered, valid.come, valid.sound, ?_⟩
      rintro response ⟨⟩
      exact (meant response rfl i owner).trans numbered.symm
    · exact ⟨numbered, valid⟩
  next := by
    rw [DnsProxyState.notify, List.length_mapIdx]
    exact correlated.next
  channel := correlated.channel
  pending := correlated.pending
  cache := correlated.cache

theorem notify_none (owners : List Nat) :
    Correlated proxy (state.notify owners none) :=
  correlated.notify fun response same => (by cases same)

theorem serve {task : DnsTask}
    (proper : replyOf event ≠ none ∨ Proper (idAt asker) event) (careful : Careful state (.go asker event))
    (served : state.serve asker task.slot event = some next) :
    Correlated proxy next ∧ next.tasks = state.tasks ∧ ∀ entry ∈ state.stored, entry ∈ next.stored := by
  unfold DnsProxyState.serve at served
  split at served
  · obtain ⟨-, rfl⟩ := of_guard served
    exact ⟨correlated, rfl, fun entry listed => listed⟩
  · cases served
    exact ⟨correlated.store _ _ _, rfl, fun entry listed => List.mem_cons_of_mem _ listed⟩
  · rename_i host _
    cases served
    refine ⟨{ correlated with cache := ?_ }, rfl, fun entry listed => listed⟩
    intro other entry present
    rcases Table.of_lookup_insert present with ⟨-, rfl⟩ | ⟨-, present⟩
    · exact .inl rfl
    · exact correlated.cache other entry present
  · rename_i domain queryType ips ttl _
    cases served
    cases (careful : queryType = 1)
    exact ⟨correlated.store _ _ _, rfl, fun entry listed => List.mem_cons_of_mem _ listed⟩
  · rename_i query sent
    cases served
    cases sent with
    | false => exact ⟨correlated, rfl, fun entry listed => listed⟩
    | true =>
      refine ⟨{ correlated with channel := ?_ }, rfl, fun entry listed => listed⟩
      intro other i listed
      rcases List.mem_append.mp listed with earlier | new
      · exact correlated.channel other i earlier
      · cases List.mem_singleton.mp new
        exact proper.resolve_left (by simp [replyOf])
  · obtain ⟨-, rfl⟩ := of_guard served
    exact ⟨correlated, rfl, fun entry listed => listed⟩
  · cases served
    exact ⟨correlated, rfl, fun entry listed => listed⟩

theorem sound_of_serve {task : DnsTask}
    (present : state.tasks[asker]? = some task) (careful : Careful state (.go asker event))
    (served : state.serve asker task.slot event = some next) : Sound state.stored task.data task.queryId event := by
  unfold Sound
  split
  · intro same
    exact careful task present same
  · rename_i host entry age
    obtain ⟨same, -⟩ := Option.ite_none_right_eq_some.mp served
    obtain ⟨found, listed, pair⟩ := Option.map_eq_some_iff.mp same.symm
    cases pair
    exact correlated.cache host entry listed
  · rename_i response
    obtain ⟨told, -⟩ := Option.ite_none_right_eq_some.mp served
    exact (correlated.task asker task present).2.answered response (told.resolve_left (by simp)).symm
  · trivial

theorem go (careful : Careful state (.go asker event))
    (taken : step proxy state (.go asker event) = some next) :
    Correlated proxy next := by
  obtain ⟨task, present, taken⟩ := Option.bind_eq_some_iff.mp taken
  obtain ⟨rest, advanced, taken⟩ := Option.bind_eq_some_iff.mp taken
  obtain ⟨served, serving, rfl⟩ := Option.map_eq_some_iff.mp taken
  obtain ⟨numbered, valid⟩ := correlated.task asker task present
  have come := valid.come.advance advanced
  have only : Only (fun event => replyOf event ≠ none ∨ Proper task.queryId event)
      (proxy.handle task.client task.data task.queryId) := by
    intro trace result yields event listed
    rcases DnsProxy.handle_trace yields with ⟨-, proper⟩ | ⟨-, answer, before, sent, -, -, rfl, proper, -⟩
    · exact .inr (proper event listed)
    · rcases List.mem_append.mp listed with earlier | last
      · exact .inr (proper event earlier)
      · cases List.mem_singleton.mp last
        exact .inl (by simp [replyOf])
  have proper := only.of_steps come event (by simp)
  rw [numbered] at proper
  obtain ⟨kept, sameTasks, grown⟩ := correlated.serve proper careful serving
  have told := correlated.sound_of_serve present careful serving
  refine { kept with task := ?_, next := ?_ }
  · intro i other stored
    rcases Slots.of_set stored with ⟨rfl, rfl⟩ | ⟨-, stored⟩
    · have whole : DnsTask.Valid proxy state.stored { task with past := task.past ++ [event], rest } := by
        refine ⟨come, ?_, valid.answered⟩
        exact List.forall_mem_append.mpr ⟨valid.sound, List.forall_mem_singleton.mpr told⟩
      exact ⟨numbered, whole.mono grown⟩
    · exact kept.task i other stored
  · rw [List.length_set]
    exact kept.next

theorem arrive (client : SocketAddr) (data : Bytes) :
    Correlated proxy { state with
      tasks := state.tasks ++ [{ client, data, queryId := state.nextId, rest := proxy.handle client data state.nextId }]
      nextId := state.nextId + 1 } := by
  refine { correlated with task := ?_, next := ?_ }
  · intro i task present
    rcases Slots.of_append present with stored | ⟨rfl, rfl⟩
    · exact correlated.task i task stored
    · refine ⟨correlated.next, .start, ?_, ?_⟩
      · intro event listed
        cases listed
      · intro response sent
        cases sent
  · rw [List.length_append, List.length_singleton, idAt_succ, ← correlated.next]

theorem forward {session : Table UInt64 PendingQuery} {query : DnsQuery}
    {asker : Nat} {rest : List (DnsQuery × Nat)} (there : state.session = some session)
    (waiting : state.channel = (query, asker) :: rest) :
    Correlated proxy { state with
      channel := rest
      session := some (session.insert query.queryId ⟨asker, query.domain, query.queryType⟩) } := by
  obtain ⟨meant, address⟩ := correlated.channel query asker (waiting ▸ List.mem_cons_self)
  refine { correlated with channel := ?_, pending := ?_ }
  · intro other i listed
    exact correlated.channel other i (waiting ▸ List.mem_cons_of_mem _ listed)
  · rintro _ ⟨⟩ id other present
    rcases Table.of_lookup_insert present with ⟨rfl, rfl⟩ | ⟨-, present⟩
    · exact ⟨meant, address⟩
    · exact correlated.pending session there id other present

theorem settle (meant : response.queryId = idAt query.task)
    (address : query.queryType = 1) :
    Correlated proxy (settle proxy state query response) := by
  refine notify ?_ ?_
  · split
    · rw [address]
      exact correlated.store _ _ _
    · exact correlated
  · rintro _ ⟨⟩ i owner
    cases List.mem_singleton.mp owner
    exact meant

theorem step (careful : Careful state action)
    (taken : step proxy state action = some next) : Correlated proxy next := by
  cases action with
  | tick elapsed =>
    cases taken
    exact { correlated with }
  | arrive client datagram =>
    cases taken
    exact correlated.arrive client _
  | go asker event => exact correlated.go careful taken
  | connect =>
    obtain ⟨-, rfl⟩ := of_guard taken
    have notified := correlated.notify_none (state.channel.map Prod.snd)
    refine { notified with channel := ?_, pending := ?_ }
    · intro query i listed
      cases listed
    · rintro session ⟨⟩ id query present
      cases present
  | forward =>
    simp only [DnsProxyState.step] at taken
    split at taken
    · rename_i session query asker rest there waiting
      cases taken
      exact correlated.forward there waiting
    · cases taken
  | sendFailed =>
    simp only [DnsProxyState.step] at taken
    split at taken
    · rename_i session query rest there waiting
      cases taken
      refine { correlated with channel := ?_, pending := ?_ }
      · intro other i listed
        exact correlated.channel other i (waiting ▸ List.mem_cons_of_mem _ listed)
      · intro session none
        cases none
    · cases taken
  | respond response =>
    obtain ⟨session, there, same⟩ := Option.map_eq_some_iff.mp taken
    split at same
    · rename_i query listed
      subst same
      obtain ⟨meant, address⟩ := correlated.pending session there _ query listed
      have settled := correlated.settle meant address
      refine { settled with pending := ?_ }
      rintro _ ⟨⟩ id other present
      exact correlated.pending session there id other (Table.of_lookup_erase present).2
    · subst same
      exact correlated
  | close =>
    obtain ⟨session, there, rfl⟩ := Option.map_eq_some_iff.mp taken
    have notified := correlated.notify_none (session.entries.map fun entry => entry.2.task)
    refine { notified with pending := ?_ }
    intro session none
    cases none
  | resolved host ips ttl =>
    cases taken
    exact correlated.store host ips ttl
  | forget host =>
    cases taken
    refine { correlated with cache := ?_ }
    intro other entry present
    exact correlated.cache other entry (Table.of_lookup_erase present).2

end

end Correlated

/-- If nameservers' responses have room for a transaction id and only answers to queries for A records are stored: a
task sends at most one reply, to where its datagram came from and with its query's transaction id; and a reply
resolved through the tunnel is made of the response with the task's id, which no other of fewer than 2^64 tasks has,
or of addresses stored for the domain as A records. -/
theorem replies_correlated (proxy : DnsProxy) (actions : List DnsProxyAction) (final : DnsProxyState)
    (reached : Transition.run (step proxy) {} actions = some final)
    (careful : Transition.Meets (step proxy) Careful {} actions) (i : Nat) (task : DnsTask)
    (present : final.tasks[i]? = some task) :
    task.sent.length ≤ 1 ∧
    (final.tasks.length < 2 ^ 64 → ∀ (j : Nat) (other : DnsTask), final.tasks[j]? = some other →
      other.queryId = task.queryId → j = i) ∧
    ∀ client wire, (client, wire) ∈ task.sent → client = task.client ∧ txidOf wire = txidOf task.data ∧
      ∃ parsed answer, parseDnsQuery proxy.fromUtf8 task.data = .ok parsed ∧ task.rest = .done (some answer) ∧
        answer.wire = wire ∧ answer.Correlated final.stored task.data task.queryId parsed := by
  have correlated : Correlated proxy final :=
    run_preserves_of_meets (fun _ _ _ holds met taken => holds.step met taken) Correlated.initial careful
      reached
  obtain ⟨numbered, valid⟩ := correlated.task i task present
  refine ⟨?_, ?_, ?_⟩
  · by_cases replied : task.sent = []
    · simp [replied]
    · obtain ⟨-, answer, -, -, -, once, -⟩ := valid.replied replied
      simp [once]
  · intro few j other stored same
    have inside := (List.getElem?_eq_some_iff.mp present).1
    have within := (List.getElem?_eq_some_iff.mp stored).1
    have ids : idAt j = idAt i := (correlated.task j other stored).1.symm.trans (same.trans numbered)
    have numbers := congrArg UInt64.toNat ids
    simp only [idAt, UInt64.toNat_ofNat'] at numbers
    omega
  · intro client wire listed
    obtain ⟨parsed, answer, before, read, finished, once, within, explains⟩ := valid.replied (List.ne_nil_of_mem listed)
    rw [once] at listed
    cases List.mem_singleton.mp listed
    have sound : ∀ event ∈ before, Sound final.stored task.data task.queryId event :=
      fun event early => valid.sound event (within event early)
    exact ⟨rfl, DnsTask.txid_of_explains read explains sound, parsed, answer, read, finished, rfl,
      DnsTask.correlated_of_explains explains sound⟩

end DnsProxyState

namespace CorrelationSample

def siteName : Text := "www.baidu.com".toList

def vpnName : Text := "vpn.example.net".toList

def parsers : SplitTunnel.AddressParsers where
  parseNetwork text := if text = "36.0.0.0/8".toList then some ⟨.v4 #v[36, 0, 0, 0], 8, by decide⟩ else none
  parseIpAddr _ := .error "invalid IP address syntax"

def splitTunnel : SplitTunnel.SplitTunnelManager where
  builtins := {
    toLowercase := SplitTunnel.lowercase
    chinaDomains := ["baidu.com".toList]
    adDomains := []
    forceTunnelDomains := []
    getCountryIps := fun country => if country = "CN" then some ["36.0.0.0/8".toList] else none
    parsers }
  config := ⟨true, ["CN"], false⟩
  data := {}
  dnsResolver := .new true 300 1000 true true []

def nameserver : SocketAddr := SplitTunnel.Nameserver.alidns

def client : SocketAddr := ⟨.v4 #v[127, 0, 0, 1], 40000⟩

def proxy : DnsProxy :=
  .new splitTunnel vpnName [nameserver] [] fun bytes => some (bytes.map fun byte => Char.ofNat byte.toNat)

def addressQuery (name : Text) : Bytes := SplitTunnel.DnsWire.buildDnsQueryPacket name 0x1234

def anyQuery (name : Text) : Bytes :=
  (addressQuery name).take ((addressQuery name).length - 4) ++ [0x00, 0xFF, 0x00, 0x01]

def response : DnsResponse := ⟨1, true, [#v[104, 16, 0, 2]], [], 60, none⟩

def answered : List DnsProxyAction :=
  [.connect, .arrive client (addressQuery "example.com".toList),
    .go 0 ⟨.inl (.entry "example.com".toList), (none : Option (DnsEntry × Nat))⟩,
    .go 0 ⟨.inr (.submit ⟨1, "example.com".toList, 1⟩), true⟩, .forward, .respond response,
    .go 0 ⟨.inr .awaitReply, some (some response)⟩,
    .go 0 ⟨.inr (.reply client (buildDnsResponse (addressQuery "example.com".toList) 0x1234 response)),
      (.ok () : Except String Unit)⟩]

def short : List DnsProxyAction :=
  [.arrive client (addressQuery vpnName), .go 0 ⟨.inl .bind, (.ok () : Except String Unit)⟩,
    .go 0 ⟨.inl (.exchange nameserver (addressQuery vpnName)), .received nameserver [7]⟩,
    .go 0 ⟨.inr (.reply client [7]), (.ok () : Except String Unit)⟩]

def inChina : DnsEntry := ⟨[.v4 #v[36, 1, 1, 1]], 0, 60000, false⟩

def elsewhere : DnsEntry := ⟨[.v4 #v[9, 9, 9, 9]], 0, 60000, false⟩

def allRecords : Bytes := buildDnsResponse (anyQuery siteName) 0x1234 (ownResponse [#v[9, 9, 9, 9]] 60)

/-- A query for all records of a site goes past the tunnel, and the address in the answer then replies to a query that
goes through it. -/
def mixed : List DnsProxyAction :=
  [.resolved siteName [.v4 #v[36, 1, 1, 1]] 60000, .arrive client (anyQuery siteName),
    .go 0 ⟨.inl (.entry siteName), some (inChina, 0)⟩, .go 0 ⟨.inl .bind, (.ok () : Except String Unit)⟩,
    .go 0 ⟨.inl (.exchange nameserver (anyQuery siteName)), .received nameserver allRecords⟩,
    .go 0 ⟨.inr (.storeBypass siteName 255 [.v4 #v[9, 9, 9, 9]] 60000), ()⟩,
    .go 0 ⟨.inr (.reply client allRecords), (.ok () : Except String Unit)⟩,
    .arrive client (addressQuery siteName),
    .go 1 ⟨.inl (.entry siteName), some (elsewhere, 0)⟩, .go 1 ⟨.inl (.entry siteName), some (elsewhere, 0)⟩,
    .go 1 ⟨.inl (.entry siteName), some (elsewhere, 0)⟩,
    .go 1 ⟨.inr (.reply client (buildDnsResponse (addressQuery siteName) 0x1234 (ownResponse [#v[9, 9, 9, 9]] 60))),
      (.ok () : Except String Unit)⟩]

end CorrelationSample

namespace DnsProxyState

open CorrelationSample in
theorem answered_reply_correlated :
    ∃ final task, Transition.run (step proxy) {} answered = some final ∧ final.tasks[0]? = some task ∧
      task.sent = [(client, buildDnsResponse (addressQuery "example.com".toList) 0x1234 response)] ∧
      ∃ parsed answer, parseDnsQuery proxy.fromUtf8 task.data = .ok parsed ∧ task.rest = .done (some answer) ∧
        answer.Correlated final.stored task.data task.queryId parsed := by
  obtain ⟨final, reached, task, present, sent⟩ : ∃ final, run (step proxy) {} answered = some final ∧
      ∃ task, final.tasks[0]? = some task ∧
        task.sent = [(client, buildDnsResponse (addressQuery "example.com".toList) 0x1234 response)] := by
    decide +kernel
  have careful : Meets (step proxy) Careful {} answered :=
    meets_of_forall (by simp [answered, Careful]) _
  obtain ⟨-, -, own⟩ := replies_correlated proxy answered final reached careful 0 task present
  obtain ⟨-, -, parsed, answer, read, finished, -, correlated⟩ := own client _ (sent ▸ List.mem_singleton.mpr rfl)
  exact ⟨final, task, reached, present, sent, parsed, answer, read, finished, correlated⟩

open CorrelationSample in
/-- A nameserver's response of one byte is sent on without the query's transaction id. And the address in the answer
to a query for all records is stored, and replies to a query for A records. -/
theorem replies_uncorrelated :
    (∃ final task, Transition.run (step proxy) {} short = some final ∧ final.tasks[0]? = some task ∧
      task.sent = [(client, [7])] ∧ txidOf task.data = [0x12, 0x34]) ∧
    ∃ final task, Transition.run (step proxy) {} mixed = some final ∧ final.tasks[1]? = some task ∧
      task.sent = [(client, buildDnsResponse (addressQuery siteName) 0x1234 (ownResponse [#v[9, 9, 9, 9]] 60))] ∧
      final.stored = [⟨siteName, 255, [.v4 #v[9, 9, 9, 9]]⟩, ⟨siteName, 1, [.v4 #v[36, 1, 1, 1]]⟩] := by
  have first : ∃ final, run (step proxy) {} short = some final ∧ ∃ task, final.tasks[0]? = some task ∧
      task.sent = [(client, [7])] ∧ txidOf task.data = [0x12, 0x34] := by
    decide +kernel
  have second : ∃ final, run (step proxy) {} mixed = some final ∧ ∃ task, final.tasks[1]? = some task ∧
      task.sent = [(client, buildDnsResponse (addressQuery siteName) 0x1234 (ownResponse [#v[9, 9, 9, 9]] 60))] ∧
      final.stored = [⟨siteName, 255, [.v4 #v[9, 9, 9, 9]]⟩, ⟨siteName, 1, [.v4 #v[36, 1, 1, 1]]⟩] := by
    decide +kernel
  obtain ⟨⟨final, reached, task, facts⟩, other, onward, later, more⟩ := And.intro first second
  exact ⟨⟨final, task, reached, facts⟩, other, later, onward, more⟩

end DnsProxyState

end Rvpn.Client
