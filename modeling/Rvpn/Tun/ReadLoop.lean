import Rvpn.Tun.Leases
import Rvpn.Tun.Server

/-! The registry of downlink senders with the loop that reads the device taken apart at its locks. -/

namespace Rvpn.Tun

open Crypto Session
open Server (Instant IpAddr)
open Transition

/-- What the registry knows of a session: the identifier of its lease, where `run` stands, and
its address. The session's position names its channel. -/
structure Client where
  clientId : String
  phase : Phase
  ip : Option IpAddr
  deriving DecidableEq, Repr

/-- Where `run_read_loop` stands: waiting for a packet, with a sender looked up for the
address, or with a sender it has found closed. -/
inductive Reader where
  | waiting
  | lookedUp (ip : IpAddr) (index : Nat)
  | foundClosed (ip : IpAddr) (index : Nat)
  deriving DecidableEq, Repr

structure Senders where
  pool : IpPool
  registered : IpAddr → Option Nat
  clients : List Client
  reader : Reader

inductive SendersAction where
  | greet (clientId : String)
  | reclaim (now : Instant)
  | allocate (index : Nat) (now : Instant)
  | abort (index : Nat)
  | register (index : Nat)
  | finish (index : Nat)
  | checkOwner (index : Nat)
  | unregister (index : Nat)
  | lookUp (ip : IpAddr)
  | trySend
  | removeClosed

def Client.closed (client : Client) : Bool :=
  client.phase = .closing ∨ client.phase = .unregistering ∨ client.phase = .ended

namespace Senders

def start (pool : IpPool) : Senders where
  pool
  registered := fun _ => none
  clients := []
  reader := .waiting

def setClient (state : Senders) (index : Nat) (client : Client) : Senders :=
  { state with clients := state.clients.set index client }

def registerClient (state : Senders) (ip : Option IpAddr) (index : Nat) : Senders :=
  match ip with
  | some ip => { state with registered := Function.update state.registered ip (some index) }
  | none => state

/-- `unregister_client` after the ownership check: `same_channel` guards the removal. -/
def unregisterClient (state : Senders) (ip : Option IpAddr) (index : Nat) : Senders :=
  match ip with
  | some ip =>
    if state.registered ip = some index then
      { state with registered := Function.update state.registered ip none }
    else state
  | none => state

/-- The ownership check of `unregister_client`. -/
def ownerAgrees (state : Senders) (client : Client) : Bool :=
  match client.ip with
  | none => false
  | some ip =>
    match state.pool.allocated.lookup ip with
    | some entry => entry.clientId = client.clientId
    | none => true

def closed (state : Senders) (index : Nat) : Bool :=
  match state.clients[index]? with
  | some client => client.closed
  | none => false

def step (state : Senders) : SendersAction → Option Senders
  | .greet clientId => some { state with clients := state.clients ++ [⟨clientId, .greeted, none⟩] }
  | .reclaim now =>
    some { state with pool := (state.pool.reclaimExpired now fun ip => (state.registered ip).isSome).2 }
  | .allocate index now =>
    state.clients[index]?.bind fun client =>
      if client.phase = .greeted then
        let (ip, pool) := state.pool.allocate now client.clientId
        some ({ state with pool }.setClient index { client with phase := .leased, ip })
      else none
  | .abort index =>
    state.clients[index]?.bind fun client =>
      if client.phase = .leased then some (state.setClient index { client with phase := .ended }) else none
  | .register index =>
    state.clients[index]?.bind fun client =>
      if client.phase = .leased then
        some ((state.registerClient client.ip index).setClient index { client with phase := .running })
      else none
  | .finish index =>
    state.clients[index]?.bind fun client =>
      if client.phase = .running then some (state.setClient index { client with phase := .closing }) else none
  | .checkOwner index =>
    state.clients[index]?.bind fun client =>
      if client.phase = .closing then
        let phase := if state.ownerAgrees client then .unregistering else .ended
        some (state.setClient index { client with phase })
      else none
  | .unregister index =>
    state.clients[index]?.bind fun client =>
      if client.phase = .unregistering then
        some ((state.unregisterClient client.ip index).setClient index { client with phase := .ended })
      else none
  | .lookUp ip =>
    match state.reader, state.registered ip with
    | .waiting, some index => some { state with reader := .lookedUp ip index }
    | .waiting, none => some state
    | .lookedUp _ _, _ | .foundClosed _ _, _ => none
  | .trySend =>
    match state.reader with
    | .lookedUp ip index =>
      some { state with reader := if state.closed index then .foundClosed ip index else .waiting }
    | .waiting | .foundClosed _ _ => none
  | .removeClosed =>
    -- whatever sender is registered by now
    match state.reader with
    | .foundClosed ip _ =>
      some { state with registered := Function.update state.registered ip none, reader := .waiting }
    | .waiting | .lookedUp _ _ => none

variable {state next : Senders} {action : SendersAction} {ip : IpAddr} {index owner : Nat}

/-- The senders that `register` puts in place. -/
theorem registered_registerClient (own : Option IpAddr) :
    (state.registerClient own index).registered ip =
      if own = some ip then some index else state.registered ip := by
  cases own with
  | none => simp [registerClient]
  | some addr =>
    by_cases same : addr = ip
    · subst same
      simp [registerClient]
    · simp [registerClient, same, Ne.symm same]

/-- `unregister` removes the session's own sender and no other. -/
theorem registered_unregisterClient (own : Option IpAddr) :
    (state.unregisterClient own index).registered ip = state.registered ip ∨
      (state.registered ip = some index ∧ (state.unregisterClient own index).registered ip = none) := by
  cases own with
  | none => exact .inl rfl
  | some addr =>
    unfold unregisterClient
    dsimp only
    split
    · rename_i mine
      by_cases same : ip = addr
      · subst same
        exact .inr ⟨mine, by simp⟩
      · exact .inl (by simp [same])
    · exact .inl rfl

/-- What a step does to the registry and the reader: nothing, a registration, the removal of
the session's own sender, a move of the reader, or the removal of what is registered where
the reader has found a sender closed. -/
inductive Effect (state : Senders) : SendersAction → Senders → Prop where
  | none (action : SendersAction) (next : Senders) (registry : next.registered = state.registered)
      (reader : next.reader = state.reader) : Effect state action next
  | register (index : Nat) (client : Client) (next : Senders) (found : state.clients[index]? = some client)
      (registry : ∀ ip, next.registered ip = if client.ip = some ip then some index else state.registered ip)
      (reader : next.reader = state.reader) : Effect state (.register index) next
  | unregister (index : Nat) (next : Senders) (closed : state.closed index = true)
      (registry : ∀ ip, next.registered ip = state.registered ip ∨
        (state.registered ip = some index ∧ next.registered ip = Option.none))
      (reader : next.reader = state.reader) : Effect state (.unregister index) next
  | look (ip : IpAddr) (index : Nat) (present : state.registered ip = some index) :
      Effect state (.lookUp ip) { state with reader := .lookedUp ip index }
  | sent : Effect state .trySend { state with reader := .waiting }
  | find (ip : IpAddr) (index : Nat) (looked : state.reader = .lookedUp ip index)
      (closed : state.closed index = true) :
      Effect state .trySend { state with reader := .foundClosed ip index }
  | remove (ip : IpAddr) (index : Nat) (found : state.reader = .foundClosed ip index) :
      Effect state .removeClosed
        { state with registered := Function.update state.registered ip Option.none, reader := .waiting }

theorem registerClient_frame (state : Senders) (own : Option IpAddr) (index : Nat) :
    (state.registerClient own index).reader = state.reader ∧
      (state.registerClient own index).clients = state.clients := by
  cases own <;> exact ⟨rfl, rfl⟩

theorem unregisterClient_frame (state : Senders) (own : Option IpAddr) (index : Nat) :
    (state.unregisterClient own index).reader = state.reader ∧
      (state.unregisterClient own index).clients = state.clients := by
  cases own with
  | none => exact ⟨rfl, rfl⟩
  | some ip =>
    unfold unregisterClient
    dsimp only
    split <;> exact ⟨rfl, rfl⟩

theorem effect_of_step (taken : step state action = some next) : Effect state action next := by
  cases action with
  | greet | reclaim =>
    cases taken
    exact .none _ _ rfl rfl
  | allocate index now =>
    obtain ⟨client, found, taken⟩ := Option.bind_eq_some_iff.mp taken
    split at taken <;> [skip; cases taken]
    cases taken
    exact .none _ _ rfl rfl
  | abort | finish | checkOwner =>
    obtain ⟨client, found, -, rfl⟩ := guarded_eq_some_iff.mp taken
    exact .none _ _ rfl rfl
  | register index =>
    obtain ⟨client, found, -, rfl⟩ := guarded_eq_some_iff.mp taken
    exact .register index client _ found (fun ip => registered_registerClient client.ip)
      (registerClient_frame state client.ip index).1
  | unregister index =>
    obtain ⟨client, found, agreed, rfl⟩ := guarded_eq_some_iff.mp taken
    refine .unregister index _ ?_ (fun ip => registered_unregisterClient client.ip)
      (unregisterClient_frame state client.ip index).1
    simp [closed, found, Client.closed, agreed]
  | lookUp ip =>
    simp only [step] at taken
    split at taken
    · rename_i index idle present
      cases taken
      exact .look ip index present
    · cases taken
      exact .none _ _ rfl rfl
    all_goals cases taken
  | trySend =>
    simp only [step] at taken
    split at taken
    · rename_i ip index looked
      cases taken
      split
      · rename_i closed
        exact .find ip index looked closed
      · exact .sent
    all_goals cases taken
  | removeClosed =>
    simp only [step] at taken
    split at taken
    · rename_i ip index found
      cases taken
      exact .remove ip index found
    all_goals cases taken

theorem closed_setClient {client changed : Client} {base : Senders} (same : base.clients = state.clients)
    (found : state.clients[index]? = some client) (kept : client.closed = true → changed.closed = true)
    (gone : state.closed other = true) :
    (base.setClient index changed).closed other = true := by
  unfold closed at gone ⊢
  simp only [setClient, same]
  by_cases here : other = index
  · subst here
    have inside : other < state.clients.length := (List.getElem?_eq_some_iff.mp found).1
    rw [List.getElem?_set_self inside]
    rw [found] at gone
    exact kept gone
  · rwa [List.getElem?_set_ne (Ne.symm here)]

theorem closed_of_step (taken : step state action = some next) (gone : state.closed index = true) :
    next.closed index = true := by
  cases action with
  | greet clientId =>
    cases taken
    unfold closed at gone ⊢
    split at gone
    · rename_i client found
      have inside : index < state.clients.length := (List.getElem?_eq_some_iff.mp found).1
      simpa [List.getElem?_append_left inside, found] using gone
    · cases gone
  | reclaim now =>
    cases taken
    exact gone
  | allocate other now =>
    obtain ⟨client, found, taken⟩ := Option.bind_eq_some_iff.mp taken
    split at taken <;> [rename_i greeted; cases taken]
    cases taken
    exact closed_setClient rfl found (by simp [Client.closed, greeted]) gone
  | abort | finish =>
    obtain ⟨client, found, -, rfl⟩ := guarded_eq_some_iff.mp taken
    exact closed_setClient rfl found (by simp [Client.closed]) gone
  | register other =>
    obtain ⟨client, found, leased, rfl⟩ := guarded_eq_some_iff.mp taken
    exact closed_setClient (registerClient_frame state client.ip other).2 found
      (by simp [Client.closed, leased]) gone
  | checkOwner other =>
    obtain ⟨client, found, -, rfl⟩ := guarded_eq_some_iff.mp taken
    refine closed_setClient rfl found (fun _ => ?_) gone
    by_cases agrees : state.ownerAgrees client = true <;> simp [Client.closed, agrees]
  | unregister other =>
    obtain ⟨client, found, -, rfl⟩ := guarded_eq_some_iff.mp taken
    exact closed_setClient (unregisterClient_frame state client.ip other).2 found
      (by simp [Client.closed]) gone
  | lookUp ip =>
    simp only [step] at taken
    split at taken
    · cases taken
      exact gone
    · cases taken
      exact gone
    all_goals cases taken
  | trySend | removeClosed =>
    simp only [step] at taken
    split at taken
    · cases taken
      exact gone
    all_goals cases taken

def handling : Reader → Option IpAddr
  | .waiting => none
  | .lookedUp ip _ | .foundClosed ip _ => some ip

def undisturbed (state : Senders) : SendersAction → Bool
  | .register index => state.clients[index]?.all fun client =>
      client.ip = none ∨ client.ip ≠ handling state.reader
  | _ => true

/-- The sender that the reader has looked up is the registered one, unless it has been removed;
and one that it has found closed is closed. -/
structure Current (state : Senders) : Prop where
  looked : ∀ ip index, state.reader = .lookedUp ip index →
    state.registered ip = some index ∨ state.registered ip = none
  found : ∀ ip index, state.reader = .foundClosed ip index →
    (state.registered ip = some index ∨ state.registered ip = none) ∧ state.closed index = true

theorem Current.of_registry (current : Current state) (taken : step state action = some next)
    (reader : next.reader = state.reader)
    (registry : ∀ ip, handling state.reader = some ip →
      next.registered ip = state.registered ip ∨ next.registered ip = none) : Current next := by
  constructor
  · intro ip index looked
    rw [reader] at looked
    rcases registry ip (by simp [looked, handling]) with same | removed
    · rw [same]
      exact current.looked ip index looked
    · exact .inr removed
  · intro ip index found
    rw [reader] at found
    obtain ⟨registered, closed⟩ := current.found ip index found
    refine ⟨?_, closed_of_step taken closed⟩
    rcases registry ip (by simp [found, handling]) with same | removed
    · rwa [same]
    · exact .inr removed

theorem Current.step (current : Current state) (calm : undisturbed state action = true)
    (taken : step state action = some next) : Current next := by
  cases effect_of_step taken with
  | none _ _ registry reader => exact current.of_registry taken reader fun ip _ => .inl (by rw [registry])
  | register index client _ present registry reader =>
    refine current.of_registry taken reader fun ip busy => .inl ?_
    have elsewhere : client.ip ≠ some ip := by
      intro same
      simp [undisturbed, present, busy, same] at calm
    rw [registry, if_neg elsewhere]
  | unregister index _ closed registry reader =>
    refine current.of_registry taken reader fun ip _ => ?_
    rcases registry ip with same | ⟨-, removed⟩
    · exact .inl same
    · exact .inr removed
  | look ip index present =>
    refine ⟨fun addr other looked => ?_, fun addr other found => by cases found⟩
    obtain ⟨rfl, rfl⟩ := Reader.lookedUp.inj looked
    exact .inl present
  | sent => exact ⟨fun addr other looked => (by cases looked), fun addr other found => by cases found⟩
  | find ip index looked closed =>
    refine ⟨fun addr other again => (by cases again), fun addr other found => ?_⟩
    obtain ⟨rfl, rfl⟩ := Reader.foundClosed.inj found
    exact ⟨current.looked ip index looked, closed⟩
  | remove ip index found =>
    exact ⟨fun addr other looked => (by cases looked), fun addr other found => by cases found⟩

/-- If no session registers for the address that the read loop is handling, a sender that leaves the registry is the
one of the session being cleaned up, or the one that the read loop has found closed; either way its channel is closed.
-/
theorem removed_sender_is_closed {pool : IpPool} {actions : List SendersAction}
    (reached : Transition.run Senders.step (start pool) actions = some state)
    (calm : Transition.Meets Senders.step (fun state action => undisturbed state action = true) (start pool) actions)
    (taken : Senders.step state action = some next) (before : state.registered ip = some owner)
    (after : next.registered ip = none) :
    (action = .unregister owner ∨ action = .removeClosed ∧ state.reader = .foundClosed ip owner) ∧
      state.closed owner = true := by
  have current : Current state := by
    apply run_preserves_of_meets (fun _ _ _ current calm taken => current.step calm taken) _ calm reached
    exact ⟨nofun, nofun⟩
  cases effect_of_step taken with
  | none _ _ registry reader => simp [registry, before] at after
  | register index client _ present registry reader =>
    rw [registry, before] at after
    split at after <;> cases after
  | unregister index _ closed registry reader =>
    rcases registry ip with same | ⟨own, -⟩
    · simp [same, before] at after
    · cases own.symm.trans before
      exact ⟨.inl rfl, closed⟩
  | look | sent | find => simp [before] at after
  | remove addr index found =>
    by_cases here : ip = addr
    · subst here
      obtain ⟨own | missing, closed⟩ := current.found ip index found
      · cases own.symm.trans before
        exact ⟨.inr ⟨rfl, found⟩, closed⟩
      · simp [missing] at before
    · simp [here, before] at after

namespace Reconnect

def address : IpAddr := .v4 #v[10, 200, 0, 6]

def onePool : IpPool := ⟨3600000, [address], .empty⟩

/-- A session ends while the read loop has a packet for it, and the client is back before the
loop takes the write lock. -/
def actions : List SendersAction :=
  [.greet "ik:00", .allocate 0 0, .register 0, .lookUp address, .finish 0, .trySend,
    .greet "ik:00", .allocate 1 1, .register 1]

def calmActions : List SendersAction := actions.take 6

def calmState : Senders := (run Senders.step (start onePool) calmActions).getD (start onePool)

end Reconnect

open Reconnect in
/-- The loop then removes the sender of the live session. -/
theorem live_sender_removed :
    ∃ state next, Transition.run Senders.step (start onePool) actions = some state ∧
      Senders.step state .removeClosed = some next ∧ state.reader = .foundClosed address 0 ∧
      state.registered address = some 1 ∧ state.closed 1 = false ∧ next.registered address = none := by
  refine ⟨_, _, rfl, rfl, ?_⟩
  decide

open Reconnect in
theorem closed_sender_removed :
    calmState.registered address = some 0 ∧
      (SendersAction.removeClosed = .unregister 0 ∨
        SendersAction.removeClosed = .removeClosed ∧ calmState.reader = .foundClosed address 0) ∧
      calmState.closed 0 = true := by
  have reached : run Senders.step (start onePool) calmActions = some calmState := rfl
  exact ⟨by decide, removed_sender_is_closed reached (by decide) rfl (by decide) (by decide)⟩

end Senders

end Rvpn.Tun
