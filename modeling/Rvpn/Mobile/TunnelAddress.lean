import Rvpn.Mobile.PendingUplink

/-! A secondary session over its connections: the uplink channel outlives the tunnel IP. -/

namespace Rvpn.Mobile

/-- The `run_tx` of a connection, with the batch it has collected. -/
inductive TxTask where
  | unspawned
  | running (batch : List Bytes)
  | finished
  deriving DecidableEq

structure Connection where
  ip : Ipv4Addr
  tx : TxTask
  sent : List Bytes
  deriving DecidableEq

structure SecondarySession where
  uplink : PendingUplink := {}
  connections : List Connection := []
  deriving DecidableEq

inductive SecondaryAction where
  /-- A step of `enqueue_uplink`, `flush_pending` or `drop_pending`. -/
  | uplink (action : UplinkAction)
  /-- `connect` has a `VirtualIp` and stores it. -/
  | assign (ip : Ipv4Addr)
  | spawn
  | receive (k : Nat)
  /-- The first packets go out as a batch; one that did not fit stays for the next. -/
  | send (k count : Nat)
  | finish (k : Nat)
  deriving DecidableEq

def UplinkAction.shared : UplinkAction → Bool
  | .storeIp _ | .take => false
  | _ => true

namespace SecondarySession

variable (capacity : Nat)

/-- The connection, if its `run_tx` runs, with the batch. -/
def running (state : SecondarySession) (k : Nat) : Option (Connection × List Bytes) :=
  (state.connections[k]?).bind fun connection =>
    match connection.tx with
    | .running batch => some (connection, batch)
    | _ => none

def change (state : SecondarySession) (k : Nat) (connection : Connection) : SecondarySession :=
  { state with connections := state.connections.set k connection }

/-- `connect` has come to the end of the last connection: its relay has returned, which may leave `run_tx`
behind. -/
def idle (state : SecondarySession) : Bool :=
  state.connections.getLast?.all fun connection => connection.tx ≠ .unspawned

def step (state : SecondarySession) : SecondaryAction → Option SecondarySession
  | .uplink action =>
    if action.shared then (state.uplink.step capacity action).map fun uplink => { state with uplink } else none
  | .assign ip =>
    if state.idle then
      (state.uplink.step capacity (.storeIp ip)).map fun uplink =>
        { uplink, connections := state.connections ++ [⟨ip, .unspawned, []⟩] }
    else none
  | .spawn =>
    let k := state.connections.length - 1
    (state.connections[k]?).bind fun connection =>
      if connection.tx = .unspawned ∧ state.uplink.flush = .idle then
        some (state.change k { connection with tx := .running [] })
      else none
  | .receive k =>
    (state.running k).bind fun (connection, batch) =>
      match state.uplink.channel with
      | [] => none
      | item :: _ =>
        (state.uplink.step capacity .take).map fun uplink =>
          { state.change k { connection with tx := .running (batch ++ [item.bytes]) } with uplink }
  | .send k count =>
    (state.running k).map fun (connection, batch) =>
      state.change k { connection with
        tx := .running (batch.drop count), sent := connection.sent ++ batch.take count }
  | .finish k => (state.running k).map fun (connection, _) => state.change k { connection with tx := .finished }

variable {capacity : Nat} {state next : SecondarySession}

theorem running_eq_some (found : state.running k = some (connection, batch)) :
    connection ∈ state.connections ∧ connection.tx = .running batch := by
  obtain ⟨listed, present, same⟩ := Option.bind_eq_some_iff.mp found
  split at same
  · rename_i runs
    cases same
    exact ⟨List.mem_of_getElem? present, runs⟩
  · cases same

def HasSource (ip : Ipv4Addr) (packet : Bytes) : Prop := Server.sourceOf packet = some (.v4 ip)

/-- Whatever will be put on the channel or is there has the tunnel IP as its source address. -/
structure UplinkAddressed (uplink : PendingUplink) : Prop where
  channel : ∀ item ∈ uplink.channel, ∃ ip, uplink.tunnelIp = some ip ∧ HasSource ip item.bytes
  demux : ∀ item ip, uplink.demux = some (item, ip) → uplink.tunnelIp = some ip
  locking : ∀ ip, uplink.flush = .locking ip → uplink.tunnelIp = some ip
  flushing : ∀ ip, uplink.flush = .flushing ip → uplink.tunnelIp = some ip

namespace UplinkAddressed

variable {uplink after : PendingUplink} {action : UplinkAction}

theorem offer (addressed : UplinkAddressed uplink) (known : uplink.tunnelIp = some ip) :
    UplinkAddressed (uplink.offer capacity item ip) ∧ (uplink.offer capacity item ip).tunnelIp = uplink.tunnelIp := by
  rcases PendingUplink.offer_cases capacity item ip uplink with same | ⟨bytes, rewritten, same⟩
  · rw [same]
    exact ⟨addressed, rfl⟩
  · rw [same]
    refine ⟨{ addressed with channel := ?_ }, rfl⟩
    exact List.forall_mem_append.mpr ⟨addressed.channel,
      List.forall_mem_singleton.mpr ⟨ip, known, sourceOf_rewriteSrcIp rewritten⟩⟩

theorem step (addressed : UplinkAddressed uplink) (shared : action.shared = true)
    (taken : uplink.step capacity action = some after) :
    UplinkAddressed after ∧ after.tunnelIp = uplink.tunnelIp := by
  cases PendingUplink.moves_of_step taken with
  | @sent packet ip known free same =>
    subst same
    refine ⟨{ addressed with demux := ?_ }, rfl⟩
    rintro item ip ⟨⟩
    exact known
  | stashed unknown free same | dropPending same =>
    subst same
    exact ⟨{ addressed with }, rfl⟩
  | @trySend item ip held same =>
    have known := addressed.demux item ip held
    have unheld : UplinkAddressed { uplink with demux := none } := { addressed with demux := nofun }
    subst same
    exact unheld.offer known
  | storeIp idle same => cases shared
  | @readIp ip known same =>
    subst same
    refine ⟨{ addressed with locking := ?_, flushing := nofun }, rfl⟩
    rintro ip ⟨⟩
    exact known
  | @lock ip ready same =>
    subst same
    refine ⟨{ addressed with locking := nofun, flushing := ?_ }, rfl⟩
    rintro ip ⟨⟩
    exact addressed.locking ip ready
  | @pop item rest ip flushing first same =>
    have known := addressed.flushing ip flushing
    have shorter : UplinkAddressed { uplink with pending := rest } := { addressed with }
    subst same
    exact shorter.offer known
  | unlock flushing empty same =>
    subst same
    exact ⟨{ addressed with locking := nofun, flushing := nofun }, rfl⟩
  | take same => cases shared

end UplinkAddressed

structure ConnectionAddressed (tunnelIp : Option Ipv4Addr) (connection : Connection) : Prop where
  current : connection.tx ≠ .finished → tunnelIp = some connection.ip
  batch : ∀ batch, connection.tx = .running batch → ∀ packet ∈ batch, HasSource connection.ip packet
  sent : ∀ packet ∈ connection.sent, HasSource connection.ip packet

structure Addressed (state : SecondarySession) : Prop where
  uplink : UplinkAddressed state.uplink
  connections : ∀ connection ∈ state.connections, ConnectionAddressed state.uplink.tunnelIp connection

/-- A new address is stored only if nothing with the old one is left: no packet on the channel, no
`enqueue_uplink` before its `try_send`, no `run_tx` of an earlier connection. -/
def addressSettled (state : SecondarySession) : SecondaryAction → Bool
  | .assign ip =>
    state.uplink.tunnelIp = some ip ||
      (state.uplink.channel.isEmpty && state.uplink.demux.isNone &&
        state.connections.all fun connection => connection.tx = .finished)
  | _ => true

theorem Addressed.change (addressed : Addressed state) (k : Nat)
    (kept : ConnectionAddressed state.uplink.tunnelIp connection) : Addressed (state.change k connection) := by
  refine ⟨addressed.uplink, ?_⟩
  intro other listed
  rcases List.mem_or_eq_of_mem_set listed with old | rfl
  · exact addressed.connections other old
  · exact kept

theorem Addressed.assign (addressed : Addressed state) (met : addressSettled state (.assign ip) = true)
    (moved : state.uplink.step capacity (.storeIp ip) = some after) :
    Addressed ⟨after, state.connections ++ [⟨ip, .unspawned, []⟩]⟩ := by
  have fresh : ConnectionAddressed (some ip) ⟨ip, .unspawned, []⟩ := ⟨fun _ => rfl, nofun, nofun⟩
  cases PendingUplink.moves_of_step moved with
  | storeIp idle same =>
    subst same
    simp only [addressSettled, Bool.or_eq_true, Bool.and_eq_true, decide_eq_true_eq, List.isEmpty_iff,
      Option.isNone_iff_eq_none, List.all_eq_true] at met
    refine ⟨⟨?_, ?_, nofun, nofun⟩, ?_⟩
    · intro item listed
      rcases met with same | ⟨⟨empty, -⟩, -⟩
      · exact same ▸ addressed.uplink.channel item listed
      · rw [empty] at listed
        cases listed
    · intro item other held
      rcases met with same | ⟨⟨-, free⟩, -⟩
      · exact same ▸ addressed.uplink.demux item other held
      · rw [free] at held
        cases held
    · intro connection listed
      rcases List.mem_append.mp listed with old | new
      · have before := addressed.connections connection old
        rcases met with same | ⟨-, finished⟩
        · exact same ▸ before
        · exact { before with current := fun live => absurd (finished connection old) live }
      · rw [List.mem_singleton.mp new]
        exact fresh

theorem Addressed.step (addressed : Addressed state) (met : addressSettled state action = true)
    (taken : SecondarySession.step capacity state action = some next) : Addressed next := by
  cases action with
  | uplink action =>
    obtain ⟨shared, stepped⟩ := Option.ite_none_right_eq_some.mp taken
    obtain ⟨after, moved, rfl⟩ := Option.map_eq_some_iff.mp stepped
    obtain ⟨uplink, same⟩ := addressed.uplink.step shared moved
    refine ⟨uplink, ?_⟩
    show ∀ connection ∈ state.connections, ConnectionAddressed after.tunnelIp connection
    rw [same]
    exact addressed.connections
  | assign ip =>
    obtain ⟨-, stepped⟩ := Option.ite_none_right_eq_some.mp taken
    obtain ⟨after, moved, rfl⟩ := Option.map_eq_some_iff.mp stepped
    exact addressed.assign met moved
  | spawn =>
    obtain ⟨connection, present, ready, rfl⟩ := Transition.guarded_eq_some_iff.mp taken
    have old := addressed.connections connection (List.mem_of_getElem? present)
    refine addressed.change _ { old with current := fun _ => old.current (by rw [ready.1]; nofun), batch := ?_ }
    rintro batch ⟨⟩ packet listed
    cases listed
  | receive k =>
    obtain ⟨⟨connection, batch⟩, found, stepped⟩ := Option.bind_eq_some_iff.mp taken
    obtain ⟨member, runs⟩ := running_eq_some found
    have old := addressed.connections connection member
    have current := old.current (by rw [runs]; nofun)
    cases queued : state.uplink.channel with
    | nil =>
      rw [queued] at stepped
      cases stepped
    | cons item rest =>
      simp only [queued] at stepped
      obtain ⟨after, moved, rfl⟩ := Option.map_eq_some_iff.mp stepped
      cases PendingUplink.moves_of_step moved with
      | take same =>
        subst same
        have changed : Addressed (state.change k { connection with tx := .running (batch ++ [item.bytes]) }) := by
          refine addressed.change k { old with current := fun _ => current, batch := ?_ }
          rintro batch ⟨⟩ packet listed
          rcases List.mem_append.mp listed with earlier | new
          · exact old.batch batch runs packet earlier
          · obtain ⟨ip, known, source⟩ := addressed.uplink.channel item (by rw [queued]; exact List.mem_cons_self)
            cases known.symm.trans current
            rwa [List.mem_singleton.mp new]
        refine ⟨{ addressed.uplink with channel := ?_ }, changed.connections⟩
        intro other listed
        exact addressed.uplink.channel other (List.mem_of_mem_tail listed)
  | send k count =>
    obtain ⟨⟨connection, batch⟩, found, rfl⟩ := Option.map_eq_some_iff.mp taken
    obtain ⟨member, runs⟩ := running_eq_some found
    have old := addressed.connections connection member
    have sources := old.batch batch runs
    refine addressed.change k ⟨fun _ => old.current (by rw [runs]; nofun), ?_, ?_⟩
    · rintro rest ⟨⟩ packet listed
      exact sources packet (List.mem_of_mem_drop listed)
    · intro packet listed
      rcases List.mem_append.mp listed with earlier | new
      · exact old.sent packet earlier
      · exact sources packet (List.mem_of_mem_take new)
  | finish k =>
    obtain ⟨⟨connection, batch⟩, found, rfl⟩ := Option.map_eq_some_iff.mp taken
    have old := addressed.connections connection (running_eq_some found).1
    exact addressed.change k { old with current := fun live => absurd rfl live, batch := nofun }

/-- As long as an address is stored only when nothing with another one is left, every packet sent over a connection
has as its source the address assigned for it. -/
theorem sent_from_assigned (capacity : Nat) (actions : List SecondaryAction) (final : SecondarySession)
    (met : Transition.Meets (step capacity) (fun state action => addressSettled state action = true) {} actions)
    (reached : Transition.run (step capacity) {} actions = some final) (k : Nat) (connection : Connection)
    (present : final.connections[k]? = some connection) (packet : Bytes) (sent : packet ∈ connection.sent) :
    Server.sourceOf packet = some (.v4 connection.ip) := by
  have initially : Addressed {} := ⟨⟨nofun, nofun, nofun, nofun⟩, nofun⟩
  have addressed : Addressed final := Transition.run_preserves_of_meets
    (fun state action next holds met taken => holds.step met taken) initially met reached
  exact (addressed.connections connection (List.mem_of_getElem? present)).sent packet sent

end SecondarySession

namespace TunnelAddressSample

open PendingUplinkSample (packet)

def firstIp : Ipv4Addr := #v[10, 8, 0, 5]
def secondIp : Ipv4Addr := #v[10, 9, 0, 7]

def connect (ip : Ipv4Addr) : List SecondaryAction :=
  [.assign ip, .uplink .readIp, .uplink .lock, .uplink .unlock, .spawn]

/-- The first connection has sent its packet and ended when the second gets another address. -/
def emptiedFirst : List SecondaryAction :=
  connect firstIp ++ [.uplink (.enqueue (packet 1)), .uplink .trySend, .receive 0, .send 0 1, .finish 0] ++
    connect secondIp ++ [.uplink (.enqueue (packet 2)), .uplink .trySend, .receive 1, .send 1 1]

def staleAddress : List SecondaryAction :=
  connect firstIp ++ [.finish 0, .uplink (.enqueue (packet 1)), .uplink .trySend] ++ connect secondIp ++
    [.receive 1, .send 1 1]

def readdressed (ip : Ipv4Addr) (host : UInt8) : Bytes := (rewriteSrcIp (packet host) ip).getD []

end TunnelAddressSample

namespace SecondarySession

open TunnelAddressSample in
theorem emptied_first_from_assigned :
    ∃ final, Transition.run (step 64) {} emptiedFirst = some final ∧
      final.connections[1]? = some ⟨secondIp, .running [], [readdressed secondIp 2]⟩ ∧
      Server.sourceOf (readdressed secondIp 2) = some (.v4 secondIp) := by
  refine Transition.exists_of_evaluated (p := fun final => final.connections[1]? =
    some ⟨secondIp, .running [], [readdressed secondIp 2]⟩) (by decide +kernel) fun final reached present => ⟨present, ?_⟩
  exact sent_from_assigned 64 emptiedFirst final (by decide +kernel) reached 1 _ present _ List.mem_cons_self

open TunnelAddressSample in
theorem stale_address_sent :
    ∃ final, Transition.run (step 64) {} staleAddress = some final ∧
      final.connections[1]? = some ⟨secondIp, .running [], [readdressed firstIp 1]⟩ ∧
      Server.sourceOf (readdressed firstIp 1) = some (.v4 firstIp) ∧ firstIp ≠ secondIp := by
  decide +kernel

end SecondarySession

end Rvpn.Mobile
