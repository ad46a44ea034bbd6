import Rvpn.Mobile.DnsServer
import Rvpn.Mobile.ExitRouting

/-! From the DNS answers of a phone to its packets. -/

namespace Rvpn.Mobile

open Interaction
open Server (Instant IpAddr)
open SplitTunnel (AddressParsers ErrorChain Router Text)
open Transition

namespace RouteMap

variable {map : RouteMap} {now : Instant} {ip other : IpAddr} {entry : RouteEntry} {server : String} {ttl : Nat}

theorem lookup_of_makeRoom (found : (map.makeRoom now).lookup ip = some entry) : map.lookup ip = some entry := by
  have live : ∀ {found}, (Table.filter (fun _ entry => decide (now < entry.expires)) map).lookup ip = some found →
      map.lookup ip = some found := by
    intro found listed
    rw [Table.lookup_filter] at listed
    exact (Option.filter_eq_some_iff.mp listed).1
  unfold makeRoom at found
  dsimp only at found
  split at found
  · split at found
    · exact live (Table.of_lookup_erase found).2
    · exact live found
  · exact live found

theorem lookup_insertRoute_self : (map.insertRoute now ip server ttl).lookup ip = some ⟨server, now + ttl⟩ := by
  rw [insertRoute, Table.lookup_insert, if_pos rfl]

theorem lookup_of_insertRoute (different : other ≠ ip)
    (found : (map.insertRoute now ip server ttl).lookup other = some entry) : map.lookup other = some entry := by
  rw [insertRoute, Table.lookup_insert, if_neg different] at found
  split at found
  · exact lookup_of_makeRoom found
  · exact found

theorem lookup_lookupRoute (good : now < entry.expires) (found : map.lookup ip = some entry) :
    (map.lookupRoute now other).2.lookup ip = some entry := by
  unfold lookupRoute
  split
  · rename_i stored present
    split
    · exact found
    · rename_i expired
      rw [Table.lookup_erase, if_neg ?_]
      · exact found
      · rintro rfl
        cases present.symm.trans found
        exact expired good
  · exact found

end RouteMap

namespace TunClient

def routeEntry (client : TunClient) (ip : IpAddr) : Option RouteEntry := client.routeMap.bind (Table.lookup ip)

def destination (packet : Bytes) : Option (Vector UInt8 4) :=
  if packet.length < 20 ∨ packet.headD 0 >>> 4 ≠ 4 then none
  else some (Vector.ofFn fun i => packet.getD (16 + i) 0)

def recorded (parsers : AddressParsers) (dohClients : List String) (client : TunClient) (octets : Vector UInt8 4) :
    ExitAction → Option RouteEntry
  | .answer now domain addrs ttl =>
    (client.chooseExitOf parsers domain).bind fun exit =>
      if exit ∈ dohClients ∧ .v4 octets ∈ addrs then some ⟨exit, now + max ttl 30 * 1000⟩ else none
  | _ => none

def ExitAction.notAfter (now : Instant) : ExitAction → Prop
  | .packet time _ => time ≤ now
  | .answer time _ _ _ => time ≤ now
  | .session _ _ => True

/-- An address must not be recorded for another exit, evicted by an answer, or recorded again with an earlier expiry.
-/
structure Keeps (parsers : AddressParsers) (dohClients : List String) (capacity : Nat) (octets : Vector UInt8 4)
    (exit : String) (client : TunClient) (action : ExitAction) : Prop where
  sameExit : ∀ entry, client.recorded parsers dohClients octets action = some entry → entry.server = exit
  notEvicted : ∀ now domain addrs ttl next, action = .answer now domain addrs ttl →
    step parsers dohClients capacity client action = some next → next.routeEntry (.v4 octets) ≠ none
  notSooner : ∀ entry present, client.recorded parsers dohClients octets action = some entry →
    client.routeEntry (.v4 octets) = some present → present.expires ≤ entry.expires

structure Sticky (octets : Vector UInt8 4) (exit : String) (deadline : Instant) (client : TunClient) : Prop where
  router : ∃ router, client.router = some router
  entry : ∃ entry, client.routeEntry (.v4 octets) = some entry ∧ entry.server = exit ∧ deadline ≤ entry.expires

variable {parsers : AddressParsers} {dohClients : List String} {capacity : Nat} {client next : TunClient}
  {octets : Vector UInt8 4} {exit : String} {deadline now : Instant} {action : ExitAction}

theorem routeEntry_noteRoutedAnswer
    (noted : (client.noteRoutedAnswer now exit addrs ttl).routeEntry (.v4 octets) = some entry) :
    if .v4 octets ∈ addrs then entry = ⟨exit, now + max ttl 30 * 1000⟩
    else client.routeEntry (.v4 octets) = some entry := by
  obtain ⟨map, stored, found⟩ := Option.bind_eq_some_iff.mp noted
  obtain ⟨before, present, rfl⟩ := Option.map_eq_some_iff.mp stored
  have same : client.routeEntry (.v4 octets) = before.lookup (.v4 octets) := by rw [routeEntry, present]; rfl
  rw [same]
  clear noted present stored same
  induction addrs generalizing before with
  | nil => exact found
  | cons addr rest ih =>
    have later := ih _ found
    by_cases again : .v4 octets ∈ rest
    · rw [if_pos again] at later
      rw [if_pos (List.mem_cons_of_mem _ again)]
      exact later
    · rw [if_neg again] at later
      cases addr with
      | v6 segments => rwa [if_neg (by simp [again])]
      | v4 first =>
        by_cases here : first = octets
        · subst here
          rw [if_pos List.mem_cons_self]
          exact (Option.some.inj (RouteMap.lookup_insertRoute_self.symm.trans later)).symm
        · rw [if_neg (by simp [again, Ne.symm here])]
          exact RouteMap.lookup_of_insertRoute (by simpa using Ne.symm here) later

theorem router_of_step (taken : step parsers dohClients capacity client action = some next) :
    next.router = client.router := by
  cases action with
  | packet now packet =>
    simp only [step, sendPacket] at taken
    split at taken
    · cases taken
      rfl
    · split at taken
      · obtain ⟨session, -, rfl⟩ := Option.map_eq_some_iff.mp taken
        rfl
      · cases taken
        rfl
  | answer now domain addrs ttl =>
    simp only [step] at taken
    split at taken
    · split at taken <;>
      · cases taken
        rfl
    · cases taken
      rfl
  | session name action =>
    obtain ⟨-, taken⟩ := Option.ite_none_left_eq_some.mp taken
    obtain ⟨before, -, moved⟩ := Option.bind_eq_some_iff.mp taken
    obtain ⟨session, -, rfl⟩ := Option.map_eq_some_iff.mp moved
    rfl

theorem routeEntry_of_packet (good : now < entry.expires) (present : client.routeEntry ip = some entry)
    (taken : client.sendPacket capacity now packet = some next) :
    next.routeEntry ip = some entry := by
  have looked : (client.chooseExit now packet).2.bind (Table.lookup ip) = some entry := by
    unfold chooseExit chooseExitName
    split
    · exact present
    · split
      · exact present
      · obtain ⟨map, stored, found⟩ := Option.bind_eq_some_iff.mp present
        rw [stored]
        have kept :
            (map.lookupRoute now (.v4 (Vector.ofFn fun i => packet.getD (16 + i) 0))).2.lookup ip = some entry :=
          RouteMap.lookup_lookupRoute good found
        dsimp only
        split
        · rename_i server later same
          rwa [same] at kept
        · rename_i later same
          rwa [same] at kept
  unfold sendPacket at taken
  dsimp only at taken
  split at taken
  · cases taken
    exact looked
  · split at taken
    · obtain ⟨session, -, rfl⟩ := Option.map_eq_some_iff.mp taken
      exact looked
    · cases taken
      exact looked

theorem Sticky.step (sticky : Sticky octets exit deadline client) (timely : now < deadline)
    (ordered : action.notAfter now) (keeps : Keeps parsers dohClients capacity octets exit client action)
    (taken : TunClient.step parsers dohClients capacity client action = some next) :
    Sticky octets exit deadline next := by
  obtain ⟨router, ⟨entry, present, same, lasting⟩⟩ := sticky
  refine ⟨router_of_step taken ▸ router, ?_⟩
  cases action with
  | packet time packet =>
    have good : time < entry.expires := Nat.lt_of_le_of_lt ordered (Nat.lt_of_lt_of_le timely lasting)
    exact ⟨entry, routeEntry_of_packet good present taken, same, lasting⟩
  | answer time domain addrs ttl =>
    obtain ⟨after, found⟩ := Option.ne_none_iff_exists'.mp (keeps.notEvicted time domain addrs ttl next rfl taken)
    refine ⟨after, found, ?_⟩
    have unchanged : client.routeEntry (.v4 octets) = some after → after.server = exit ∧ deadline ≤ after.expires := by
      intro kept
      cases present.symm.trans kept
      exact ⟨same, lasting⟩
    simp only [TunClient.step] at taken
    split at taken
    · rename_i chosen routed
      split at taken
      · rename_i started
        cases taken
        have told := routeEntry_noteRoutedAnswer found
        split at told
        · rename_i listed
          have made : client.recorded parsers dohClients octets (.answer time domain addrs ttl) = some after := by
            rw [recorded, routed, Option.bind_some, if_pos ⟨started, listed⟩, told]
          exact ⟨keeps.sameExit after made, Nat.le_trans lasting (keeps.notSooner after entry made present)⟩
        · exact unchanged told
      · cases taken
        exact unchanged found
    · cases taken
      exact unchanged found
  | session name action =>
    obtain ⟨-, taken⟩ := Option.ite_none_left_eq_some.mp taken
    obtain ⟨before, -, moved⟩ := Option.bind_eq_some_iff.mp taken
    obtain ⟨session, -, rfl⟩ := Option.map_eq_some_iff.mp moved
    exact ⟨entry, present, same, lasting⟩

theorem Sticky.chooseExit (sticky : Sticky octets exit deadline client) (timely : now < deadline)
    (aimed : destination packet = some octets) : (client.chooseExit now packet).1 = some exit := by
  obtain ⟨⟨router, routed⟩, ⟨entry, present, same, lasting⟩⟩ := sticky
  obtain ⟨map, stored, found⟩ := Option.bind_eq_some_iff.mp present
  obtain ⟨wellFormed, aimed⟩ := Option.ite_none_left_eq_some.mp aimed
  have good : now < entry.expires := Nat.lt_of_lt_of_le timely lasting
  have looked : map.lookupRoute now (.v4 octets) = (some exit, map) := by
    simp [RouteMap.lookupRoute, found, if_pos good, same]
  simp only [TunClient.chooseExit, chooseExitName, routed, stored, if_neg wellFormed, Option.some.inj aimed, looked]

theorem noted_of_lookUpThroughTunnel
    (yields : Yields (DnsServer.lookUpThroughTunnel domain queryType (some exit)) trace (.ok answer)) :
    (⟨.inr (.noteRouted exit answer.addrs answer.ttl), ()⟩ : Event DnsReply) ∈ trace := by
  have noting : ∀ {addrs cached} {trace : List (Event DnsReply)},
      Yields (DnsServer.note (some exit) domain queryType addrs cached) trace (.ok answer) →
        (⟨.inr (.noteRouted exit answer.addrs answer.ttl), ()⟩ : Event DnsReply) ∈ trace := by
    intro addrs cached trace yields
    obtain ⟨first, second, remaining, rfl, -, ending⟩ := yields.of_bind
    obtain ⟨written, rest, rfl, returning⟩ := ending.of_request_bind
    obtain ⟨rfl, same⟩ := returning.of_pure
    cases same
    exact List.mem_append_right _ List.mem_cons_self
  obtain ⟨first, second, cached, rfl, -, onward⟩ := yields.of_bind
  cases cached with
  | some addrs => exact List.mem_append_right _ (noting onward)
  | none =>
    obtain ⟨third, fourth, resolved, rfl, -, ending⟩ := onward.of_bind
    cases resolved with
    | error causes => cases ending.of_pure.2
    | ok addrs => exact List.mem_append_right _ (List.mem_append_right _ (noting ending))

theorem of_answerRecord {answer : TunnelAnswer} {record : Record}
    (returned : record ∈ answer.addrs.filterMap (answerRecord query answer.ttl))
    (data : record.data = some (.a octets)) :
    record.ttl = answer.ttl ∧ .v4 octets ∈ answer.addrs := by
  obtain ⟨addr, listed, made⟩ := List.mem_filterMap.mp returned
  unfold answerRecord at made
  split at made
  · cases made
    cases data
    exact ⟨rfl, listed⟩
  · cases made
    cases data
  · cases made

/-- The addresses in an answer for a domain that the router sends to another exit than the default are recorded for
that exit; and as long as nothing that follows records such an address for another exit, evicts it or records it again
with an earlier expiry, packets to it go to that exit, within the record's time to live and half a minute at least. -/
theorem packet_follows_answer (parsers : AddressParsers) (dohClients : List String) (capacity : Nat)
    (before : TunClient) (domain : Text) (exit : String) (routed : before.chooseExitOf parsers domain = some exit)
    (started : exit ∈ dohClients) (query : Query) (queryType : UInt16) (trace : List (Event DnsReply))
    (answer : TunnelAnswer)
    (asked : Yields (DnsServer.lookUpThroughTunnel domain queryType (some exit)) trace (.ok answer))
    (record : Record) (returned : record ∈ answer.addrs.filterMap (answerRecord query answer.ttl))
    (octets : Vector UInt8 4) (data : record.data = some (.a octets)) (time : Instant) (answered : TunClient)
    (told : step parsers dohClients capacity before (.answer time domain answer.addrs answer.ttl) = some answered)
    (present : answered.routeEntry (.v4 octets) ≠ none) (later : List ExitAction) (now : Instant)
    (ordered : ∀ action ∈ later, action.notAfter now)
    (kept : Transition.Meets (step parsers dohClients capacity) (Keeps parsers dohClients capacity octets exit)
      answered later)
    (after : TunClient) (onward : Transition.run (step parsers dohClients capacity) answered later = some after)
    (packet : Bytes) (aimed : destination packet = some octets) (timely : now < time + max record.ttl 30 * 1000) :
    (⟨.inr (.noteRouted exit answer.addrs answer.ttl), ()⟩ : Event DnsReply) ∈ trace ∧
      (after.chooseExit now packet).1 = some exit := by
  refine ⟨noted_of_lookUpThroughTunnel asked, ?_⟩
  obtain ⟨sameTtl, listed⟩ := of_answerRecord returned data
  rw [sameTtl] at timely
  have sticky : Sticky octets exit (time + max answer.ttl 30 * 1000) answered := by
    obtain ⟨router, set, -⟩ := Option.bind_eq_some_iff.mp routed
    refine ⟨⟨router, (router_of_step told).trans set⟩, ?_⟩
    obtain ⟨entry, found⟩ := Option.ne_none_iff_exists'.mp present
    simp only [step, routed, started, if_true, Option.some.injEq] at told
    subst told
    have made := routeEntry_noteRoutedAnswer found
    rw [if_pos listed] at made
    subst made
    exact ⟨_, found, rfl, Nat.le_refl _⟩
  have meets : Meets (step parsers dohClients capacity)
      (fun client action => Keeps parsers dohClients capacity octets exit client action ∧ action.notAfter now)
      answered later :=
    kept.and (meets_of_forall (fun action listed _ => ordered action listed) _)
  have lasting : Sticky octets exit (time + max answer.ttl 30 * 1000) after :=
    run_preserves_of_meets
      (fun _ _ _ holds met taken => holds.step timely met.2 met.1 taken) sticky meets onward
  exact lasting.chooseExit timely aimed

end TunClient

namespace StickinessSample

open ExitRoutingSample

def octets : Vector UInt8 4 := #v[8, 8, 8, 2]

def name : Text := "example.com".toList

def query : Query := ⟨"example.com.".toList, .a⟩

def miss (name : Text) : Event DnsReply :=
  ⟨.inr (.dohEntry (some "sg") name 1), (none : Option (CacheEntry × Instant))⟩

def asking : List (Event DnsReply) :=
  [miss name, miss name,
    ⟨.inr (.dohQuery (some "sg") name 1), DohOutcome.response ⟨1, true, [octets], [], 300, none⟩⟩,
    ⟨.inr (.dohStore (some "sg") name 1 [.v4 octets] false 300000), ()⟩,
    ⟨.inr (.dohEntry (some "sg") name 1), some (⟨[.v4 octets], 300000, false⟩, 0)⟩,
    ⟨.inr (.noteRouted "sg" [.v4 octets] 300), ()⟩]

def answer : TunnelAnswer := ⟨[.v4 octets], 300, false⟩

def again : TunClient.ExitAction := .answer 1000 "www.example.com".toList [.v4 octets] 30

end StickinessSample

namespace TunClient

open ExitRoutingSample PendingUplinkSample StickinessSample in
theorem packet_in_time_follows_answer :
    ∃ client answered after, new parsers (fun _ => .ok ()) config = .ok client ∧
      step parsers ["sg"] 64 client (.answer 0 name answer.addrs answer.ttl) = some answered ∧
      Transition.run (step parsers ["sg"] 64) answered [.packet 1000 (packet 2)] = some after ∧
      (after.chooseExit 299999 (packet 2)).1 = some "sg" := by
  obtain ⟨client, made, routed, answered, told, present, after, reached, -⟩ :
      ∃ client, new parsers (fun _ => .ok ()) config = .ok client ∧ client.chooseExitOf parsers name = some "sg" ∧
      ∃ answered, step parsers ["sg"] 64 client (.answer 0 name answer.addrs answer.ttl) = some answered ∧
        answered.routeEntry (.v4 octets) = some ⟨"sg", 300000⟩ ∧
      ∃ after, run (step parsers ["sg"] 64) answered [.packet 1000 (packet 2)] = some after ∧ True := by
    decide +kernel
  refine ⟨client, answered, after, made, told, reached, ?_⟩
  have kept : Meets (step parsers ["sg"] 64) (Keeps parsers ["sg"] 64 octets "sg") answered
      [.packet 1000 (packet 2)] := by
    refine ⟨⟨?_, ?_, ?_⟩, fun _ _ => trivial⟩
    · intro entry recorded
      cases recorded
    · intro now domain addrs ttl next same
      cases same
    · intro entry present recorded
      cases recorded
  exact (packet_follows_answer parsers ["sg"] 64 client name "sg" routed (by decide) query 1 asking answer
    (yields_of_replay (by decide +kernel)) ⟨query.name, 300, some (.a octets)⟩ (by decide +kernel) octets rfl 0 answered
    told
    (by simp [present]) [.packet 1000 (packet 2)] 299999 (by simp [ExitAction.notAfter]) kept after reached (packet 2)
    (by decide +kernel) (by decide)).2

open ExitRoutingSample PendingUplinkSample StickinessSample in
/-- A second answer for the same exit shortens the address's time: half a minute later, long before the first answer
ends, packets to it go to the default exit. -/
theorem second_answer_ends_first :
    ∃ client answered after, new parsers (fun _ => .ok ()) config = .ok client ∧
      client.chooseExitOf parsers name = some "sg" ∧
      step parsers ["sg"] 64 client (.answer 0 name answer.addrs answer.ttl) = some answered ∧
      answered.recorded parsers ["sg"] octets again = some ⟨"sg", 31000⟩ ∧
      Transition.run (step parsers ["sg"] 64) answered [again] = some after ∧
      (after.chooseExit 32000 (packet 2)).1 = none ∧ 32000 < 0 + max answer.ttl 30 * 1000 := by
  obtain ⟨client, made, routed, answered, told, repeated, after, reached, last⟩ :
      ∃ client, new parsers (fun _ => .ok ()) config = .ok client ∧ client.chooseExitOf parsers name = some "sg" ∧
      ∃ answered, step parsers ["sg"] 64 client (.answer 0 name answer.addrs answer.ttl) = some answered ∧
        answered.recorded parsers ["sg"] octets again = some ⟨"sg", 31000⟩ ∧
      ∃ after, run (step parsers ["sg"] 64) answered [again] = some after ∧
        (after.chooseExit 32000 (packet 2)).1 = none := by
    decide +kernel
  exact ⟨client, answered, after, made, routed, told, repeated, reached, last, by decide⟩

end TunClient

end Rvpn.Mobile
