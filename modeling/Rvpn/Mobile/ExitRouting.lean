import Rvpn.Mobile.PendingUplink
import Rvpn.Mobile.RouteMap
import Rvpn.SplitTunnel.Router

/-! Exits of a phone with several servers, alike on iOS and Android. -/

namespace Rvpn.Mobile

open Server (Instant IpAddr)
open SplitTunnel (AddressParsers ErrorChain Router RoutingRule Text bind_eq_ok defaultServerName)

/-- An entry of `extra_servers`: its name, and the address, bundle, pin and SNI its session is made from. -/
structure MobileServerEntry (Details : Type) where
  name : String
  details : Details

structure TunConfig (Details : Type) where
  extraServers : List (MobileServerEntry Details) := []
  routing : List (String × RoutingRule) := []

structure TunClient where
  sessions : Table String PendingUplink
  router : Option Router
  routeMap : Option RouteMap
  direct : List Bytes

namespace TunClient

variable {Details : Type}

def validateExtraServerNames : List String → List (MobileServerEntry Details) → Except ErrorChain Unit
  | _, [] => .ok ()
  | seen, entry :: rest =>
    if entry.name = "" then .error ["extraServers entry with empty name"]
    else if entry.name = defaultServerName then
      .error ["extraServers name '" ++ defaultServerName ++ "' is reserved for the top-level server"]
    else if entry.name ∈ seen then .error ["duplicate extraServers name '" ++ entry.name ++ "'"]
    else validateExtraServerNames (entry.name :: seen) rest

/-- The loop that makes a session for each entry; reading the entry's address and bundle may fail. -/
def addSessions (prepare : MobileServerEntry Details → Except ErrorChain Unit) :
    List (MobileServerEntry Details) → Table String PendingUplink → Except ErrorChain (Table String PendingUplink)
  | [], sessions => .ok sessions
  | entry :: rest, sessions => do
    prepare entry
    addSessions prepare rest (sessions.insert entry.name {})

def knownServers (config : TunConfig Details) : List String :=
  defaultServerName :: config.extraServers.map MobileServerEntry.name

def new (parsers : AddressParsers) (prepare : MobileServerEntry Details → Except ErrorChain Unit)
    (config : TunConfig Details) : Except ErrorChain TunClient :=
  let sessions := Table.insert defaultServerName {} .empty
  if config.extraServers.isEmpty then
    if config.routing.isEmpty then .ok ⟨sessions, none, none, []⟩
    else .error ["routing rules require extraServers entries; with a single server every flow already uses it"]
  else do
    validateExtraServerNames [] config.extraServers
    let sessions ← addSessions prepare config.extraServers sessions
    let router ← Router.withContext "invalid multi-server routing rules"
      (Router.build parsers (knownServers config) config.routing)
    return ⟨sessions, some router, some .empty, []⟩

def staticExit (router : Router) (dst : IpAddr) : Option String :=
  let chosen := router.chooseIp dst
  if chosen = defaultServerName then none else some chosen

/-- `choose_exit_name`, with what the lookup leaves of the route map. -/
def chooseExitName (router : Option Router) (routeMap : Option RouteMap) (now : Instant) (packet : Bytes) :
    Option String × Option RouteMap :=
  match router with
  | none => (none, routeMap)
  | some router =>
    if packet.length < 20 ∨ packet.headD 0 >>> 4 ≠ 4 then (none, routeMap)
    else
      let dst : IpAddr := .v4 (Vector.ofFn fun i => packet.getD (16 + i) 0)
      match routeMap with
      | none => (staticExit router dst, none)
      | some map =>
        match map.lookupRoute now dst with
        | (some name, map) => (some name, some map)
        | (none, map) => (staticExit router dst, some map)

def chooseExit (client : TunClient) (now : Instant) (packet : Bytes) : Option String × Option RouteMap :=
  chooseExitName client.router client.routeMap now packet

def sendDefault (client : TunClient) (packet : Bytes) : TunClient := { client with direct := client.direct ++ [packet] }

/-- `try_send_packet` and `send_packet_to_server`, up to what the session does with the packet. A call waits
while the session's queue is locked. -/
def sendPacket (capacity : Nat) (client : TunClient) (now : Instant) (packet : Bytes) : Option TunClient :=
  let (exit, routeMap) := client.chooseExit now packet
  let client := { client with routeMap }
  match exit with
  | none => some (client.sendDefault packet)
  | some name =>
    match client.sessions.lookup name with
    | some session =>
      (session.step capacity (.enqueue packet)).map fun session =>
        { client with sessions := client.sessions.insert name session }
    | none => some (client.sendDefault packet)

def chooseExitOf (parsers : AddressParsers) (client : TunClient) (domain : Text) : Option String :=
  client.router.bind fun router =>
    let chosen := router.choose parsers domain
    if chosen = defaultServerName then none else some chosen

/-- Times to live are in seconds and last for half a minute at least; only IPv4 addresses are recorded. -/
def noteRoutedAnswer (client : TunClient) (now : Instant) (exit : String) (addrs : List IpAddr) (ttl : Nat) :
    TunClient :=
  let record (map : RouteMap) (addr : IpAddr) : RouteMap :=
    match addr with
    | .v4 _ => map.insertRoute now addr exit (max ttl 30 * 1000)
    | .v6 _ => map
  { client with routeMap := client.routeMap.map fun map => addrs.foldl record map }

inductive ExitAction where
  | packet (now : Instant) (packet : Bytes)
  /-- A domain is resolved through the tunnel, from the cache or not, to these addresses. -/
  | answer (now : Instant) (domain : Text) (addrs : List IpAddr) (ttl : Nat)
  /-- A session goes on with a call of `enqueue_uplink` or with its connection. -/
  | session (name : String) (action : UplinkAction)
  deriving DecidableEq

def isEnqueue : UplinkAction → Bool
  | .enqueue _ => true
  | _ => false

def step (parsers : AddressParsers) (dohClients : List String) (capacity : Nat) (client : TunClient) :
    ExitAction → Option TunClient
  | .packet now packet => client.sendPacket capacity now packet
  | .answer now domain addrs ttl =>
    match client.chooseExitOf parsers domain with
    | some exit => if exit ∈ dohClients then some (client.noteRoutedAnswer now exit addrs ttl) else some client
    | none => some client
  | .session name action =>
    if isEnqueue action then none
    else
      (client.sessions.lookup name).bind fun session =>
        (session.step capacity action).map fun session =>
          { client with sessions := client.sessions.insert name session }

structure Routed (known : List String) (client : TunClient) : Prop where
  sessions : ∀ name ∈ known, ∃ session, client.sessions.lookup name = some session
  router : ∀ router, client.router = some router → Router.Named known router
  routeMap : ∀ map, client.routeMap = some map → RouteMap.Names (Router.Exit known) map

variable {parsers : AddressParsers} {known : List String} {client next : TunClient} {capacity : Nat}
  {dohClients : List String} {now : Instant} {packet : Bytes} {name : String}

theorem lookup_of_addSessions (added : addSessions prepare entries before = .ok after)
    (named : name ∈ entries.map MobileServerEntry.name ∨ ∃ session, before.lookup name = some session) :
    ∃ session, after.lookup name = some session := by
  induction entries generalizing before with
  | nil =>
    cases added
    exact named.resolve_left nofun
  | cons entry rest ih =>
    obtain ⟨-, -, added⟩ := bind_eq_ok added
    refine ih added ?_
    by_cases same : name = entry.name
    · exact .inr ⟨{}, by rw [Table.lookup_insert, if_pos same]⟩
    · rcases named with listed | ⟨session, found⟩
      · exact .inl ((List.mem_cons.mp listed).resolve_left same)
      · exact .inr ⟨session, by rw [Table.lookup_insert, if_neg same]; exact found⟩

theorem routed_of_new (made : new parsers prepare config = .ok client) : Routed (knownServers config) client := by
  have first : (Table.insert defaultServerName ({} : PendingUplink) .empty).lookup defaultServerName = some {} := by
    rw [Table.lookup_insert, if_pos rfl]
  unfold new at made
  dsimp only at made
  split at made
  · rename_i single
    split at made
    · cases made
      refine ⟨?_, nofun, nofun⟩
      intro name listed
      rw [knownServers, List.isEmpty_iff.mp single, List.map_nil, List.mem_singleton] at listed
      exact ⟨{}, by rw [listed]; exact first⟩
    · cases made
  · obtain ⟨-, -, made⟩ := bind_eq_ok made
    obtain ⟨sessions, added, made⟩ := bind_eq_ok made
    obtain ⟨router, built, made⟩ := bind_eq_ok made
    cases made
    refine ⟨?_, ?_, ?_⟩
    · intro name listed
      refine lookup_of_addSessions added ?_
      rcases List.mem_cons.mp listed with rfl | extra
      · exact .inr ⟨{}, first⟩
      · exact .inl extra
    · rintro router ⟨⟩
      exact Router.named_of_build (Router.withContext_eq_ok.mp built)
    · rintro map ⟨⟩
      exact RouteMap.names_empty

namespace Routed

section

variable (routed : Routed known client)
include routed

theorem staticExit {router : Router} (present : client.router = some router)
    {dst : IpAddr} (chosen : TunClient.staticExit router dst = some name) : Router.Exit known name := by
  obtain ⟨other, same⟩ := Option.ite_none_left_eq_some.mp chosen
  cases same
  exact (routed.router router present).chooseIp dst other

theorem chooseExit (now : Instant) (packet : Bytes) :
    (∀ name, (client.chooseExit now packet).1 = some name → Router.Exit known name) ∧
    ∀ map, (client.chooseExit now packet).2 = some map → RouteMap.Names (Router.Exit known) map := by
  unfold TunClient.chooseExit chooseExitName
  split
  · exact ⟨nofun, routed.routeMap⟩
  · rename_i router present
    split
    · exact ⟨nofun, routed.routeMap⟩
    · dsimp only
      split
      · exact ⟨fun name chosen => routed.staticExit present chosen, nofun⟩
      · rename_i map stored
        have names := routed.routeMap map stored
        split
        · rename_i server later looked
          have found : (map.lookupRoute now _).1 = some server := congrArg Prod.fst looked
          have kept : (map.lookupRoute now _).2 = later := congrArg Prod.snd looked
          refine ⟨?_, ?_⟩
          · rintro name ⟨⟩
            exact names.server_of_lookupRoute found
          · rintro map ⟨⟩
            exact kept ▸ names.lookupRoute
        · rename_i later looked
          have kept : (map.lookupRoute now _).2 = later := congrArg Prod.snd looked
          refine ⟨fun name chosen => routed.staticExit present chosen, ?_⟩
          rintro map ⟨⟩
          exact kept ▸ names.lookupRoute

theorem noteRoutedAnswer (permitted : Router.Exit known exit) (now : Instant)
    (addrs : List IpAddr) (ttl : Nat) : Routed known (client.noteRoutedAnswer now exit addrs ttl) := by
  refine { routed with routeMap := ?_ }
  intro map stored
  obtain ⟨before, present, rfl⟩ := Option.map_eq_some_iff.mp stored
  have names := routed.routeMap before present
  clear present stored
  induction addrs generalizing before with
  | nil => exact names
  | cons addr rest ih =>
    refine ih _ ?_
    cases addr with
    | v4 octets => exact names.insertRoute permitted
    | v6 segments => exact names

theorem setSession (name : String) (session : PendingUplink) :
    Routed known { client with sessions := client.sessions.insert name session } := by
  refine { routed with sessions := ?_ }
  intro other listed
  rw [Table.lookup_insert]
  split
  · exact ⟨session, rfl⟩
  · exact routed.sessions other listed

theorem sendPacket (sent : client.sendPacket capacity now packet = some next) :
    Routed known next := by
  have chosen := routed.chooseExit now packet
  have looked : Routed known { client with routeMap := (client.chooseExit now packet).2 } :=
    { routed with routeMap := chosen.2 }
  unfold TunClient.sendPacket at sent
  dsimp only at sent
  split at sent
  · cases sent
    exact { looked with }
  · split at sent
    · obtain ⟨session, -, rfl⟩ := Option.map_eq_some_iff.mp sent
      exact looked.setSession _ session
    · cases sent
      exact { looked with }

theorem step (taken : TunClient.step parsers dohClients capacity client action = some next) : Routed known next := by
  cases action with
  | packet now packet => exact routed.sendPacket taken
  | answer now domain addrs ttl =>
    simp only [TunClient.step] at taken
    split at taken
    · rename_i exit chosen
      obtain ⟨router, present, chosen⟩ := Option.bind_eq_some_iff.mp chosen
      obtain ⟨other, same⟩ := Option.ite_none_left_eq_some.mp chosen
      cases same
      split at taken
      · cases taken
        exact routed.noteRoutedAnswer ((routed.router router present).choose domain other) now addrs ttl
      · cases taken
        exact routed
    · cases taken
      exact routed
  | session name action =>
    obtain ⟨-, taken⟩ := Option.ite_none_left_eq_some.mp taken
    obtain ⟨before, -, moved⟩ := Option.bind_eq_some_iff.mp taken
    obtain ⟨session, -, rfl⟩ := Option.map_eq_some_iff.mp moved
    exact routed.setSession name session

end

end Routed

theorem sendPacket_of_chosen (chosen : (client.chooseExit now packet).1 = some name)
    (present : client.sessions.lookup name = some session)
    (sent : client.sendPacket capacity now packet = some next) :
    ∃ after, session.step capacity (.enqueue packet) = some after ∧
      next = { client with
        routeMap := (client.chooseExit now packet).2, sessions := client.sessions.insert name after } := by
  unfold sendPacket at sent
  simp only [chosen, present] at sent
  obtain ⟨after, moved, rfl⟩ := Option.map_eq_some_iff.mp sent
  exact ⟨after, moved, rfl⟩

/-- Whatever the route map holds, a packet whose choice is a named exit is for one of the configured extra servers,
which has a session; the packet goes to its `enqueue_uplink`, and neither the default session nor another gets it. -/
theorem exit_never_downgraded (parsers : AddressParsers) (dohClients : List String) (capacity : Nat)
    (prepare : MobileServerEntry Details → Except ErrorChain Unit) (config : TunConfig Details)
    (client : TunClient) (made : new parsers prepare config = .ok client) (actions : List ExitAction)
    (final : TunClient) (reached : Transition.run (step parsers dohClients capacity) client actions = some final)
    (now : Instant) (packet : Bytes) (name : String) (chosen : (final.chooseExit now packet).1 = some name) :
    name ≠ defaultServerName ∧ name ∈ config.extraServers.map MobileServerEntry.name ∧
    ∃ session, final.sessions.lookup name = some session ∧
      ∀ next, final.sendPacket capacity now packet = some next →
        next.direct = final.direct ∧
        (∃ after, session.step capacity (.enqueue packet) = some after ∧ next.sessions.lookup name = some after) ∧
        ∀ other, other ≠ name → next.sessions.lookup other = final.sessions.lookup other := by
  have routed : Routed (knownServers config) final := Transition.run_preserves
    (fun client action next holds taken => holds.step taken) (routed_of_new made) reached
  obtain ⟨listed, other⟩ := (routed.chooseExit now packet).1 name chosen
  obtain ⟨session, present⟩ := routed.sessions name listed
  refine ⟨other, (List.mem_cons.mp listed).resolve_left other, session, present, ?_⟩
  intro next sent
  obtain ⟨after, moved, rfl⟩ := sendPacket_of_chosen chosen present sent
  refine ⟨rfl, ⟨after, moved, ?_⟩, ?_⟩
  · rw [Table.lookup_insert, if_pos rfl]
  · intro another different
    rw [Table.lookup_insert, if_neg different]

end TunClient

namespace ExitRoutingSample

def parsers : AddressParsers := ⟨fun _ => none, fun _ => .error "invalid IP address syntax"⟩

def config : TunConfig Unit where
  extraServers := [⟨"sg", ()⟩]
  routing := [("sg", ⟨["example.com".toList], []⟩)]

def actions : List TunClient.ExitAction := [.answer 0 "www.Example.com.".toList [.v4 #v[8, 8, 8, 1]] 60]

end ExitRoutingSample

namespace TunClient

open ExitRoutingSample PendingUplinkSample in
theorem routed_packet_kept_from_default :
    ∃ client final, new parsers (fun _ => .ok ()) config = .ok client ∧
      Transition.run (step parsers ["sg"] 64) client actions = some final ∧
      (final.chooseExit 59999 (packet 1)).1 = some "sg" ∧
      ∃ next, final.sendPacket 64 59999 (packet 1) = some next ∧ next.direct = final.direct := by
  obtain ⟨client, made, final, reached, chosen, next, sent, -⟩ :
      ∃ client, new parsers (fun _ => .ok ()) config = .ok client ∧
      ∃ final, Transition.run (step parsers ["sg"] 64) client actions = some final ∧
        (final.chooseExit 59999 (packet 1)).1 = some "sg" ∧
      ∃ next, final.sendPacket 64 59999 (packet 1) = some next ∧ True := by
    decide +kernel
  obtain ⟨-, -, session, -, kept⟩ := exit_never_downgraded parsers ["sg"] 64 (fun _ => .ok ()) config client made
    actions final reached 59999 (packet 1) "sg" chosen
  exact ⟨client, final, made, reached, chosen, next, sent, (kept next sent).1⟩

end TunClient

end Rvpn.Mobile
