import Rvpn.Crypto.Symbolic
import Rvpn.Tun.Server

/-! Who can take over the downlink of a leased address: the Hello decides. -/

namespace Rvpn.Tun

open Crypto Session
open Server (Instant IpAddr)

variable {Secret Private : Type} {P : Primitives Secret Private} {responder : X3dhPrivateBundle Private}
  {state next : State P} {action : Action Private}

theorem tunClientId_injective (same : tunClientId first = tunClientId second) :
    first = second := by
  have texts := congrArg String.toList same
  simp only [tunClientId, String.toList_append, String.toList_ofList] at texts
  have digits := List.append_cancel_left texts
  exact Vector.toList_inj.mp (TextCodec.hexEncode_injective digits)

def State.LeasedTo (state : State P) (ip : IpAddr) (identity : PublicKey) : Prop :=
  ∃ entry, state.pool.allocated.lookup ip = some entry ∧ entry.clientId = tunClientId identity

/-- The lease that a session was given lasts for the whole duration, whatever happens. -/
def State.Secured (state : State P) (connection : Connection P) (ip : IpAddr) : Prop :=
  connection.leasedAt + state.pool.leaseDuration ≤ state.now ∨
    state.pool.LeasedUntil ip (tunClientId connection.session.clientIdentity)
      (connection.leasedAt + state.pool.leaseDuration)

/-- Between its allocation and its registration a session has its lease secured. -/
structure Leasing (state : State P) : Prop where
  apart : state.pool.Apart
  past : ∀ connection ∈ state.sessions, connection.phase = .leased → connection.leasedAt ≤ state.now
  secured : ∀ connection ∈ state.sessions, connection.phase = .leased →
    ∀ ip, connection.ip = some ip → state.Secured connection ip

theorem start_leasing (apart : pool.Apart) : Leasing (State.start pool : State P) where
  apart := apart
  past := fun _ member => absurd member List.not_mem_nil
  secured := fun _ member => absurd member List.not_mem_nil

namespace Leasing

section

variable (leasing : Leasing state)
include leasing

/-- A step that touches neither clock nor pool and puts no session into `leased`. -/
theorem of_sessions (now : next.now = state.now) (pool : next.pool = state.pool)
    (kept : ∀ connection ∈ next.sessions, connection.phase = .leased → ∃ old ∈ state.sessions,
      old.phase = .leased ∧ old.ip = connection.ip ∧ old.leasedAt = connection.leasedAt ∧
        old.session.clientIdentity = connection.session.clientIdentity) : Leasing next := by
  refine ⟨pool ▸ leasing.apart, ?_, ?_⟩
  · intro connection member leased
    obtain ⟨old, listed, before, -, same, -⟩ := kept connection member leased
    rw [now, ← same]
    exact leasing.past old listed before
  · intro connection member leased ip given
    obtain ⟨old, listed, before, address, same, identity⟩ := kept connection member leased
    have secured := leasing.secured old listed before ip (address.trans given)
    unfold State.Secured at secured ⊢
    rwa [now, pool, ← same, ← identity]

theorem set (found : state.sessions[index]? = some connection)
    (now : next.now = state.now) (pool : next.pool = state.pool)
    (sessions : next.sessions = state.sessions.set index after)
    (kept : after.phase = .leased → connection.phase = .leased ∧ connection.ip = after.ip ∧
      connection.leasedAt = after.leasedAt ∧
        connection.session.clientIdentity = after.session.clientIdentity) : Leasing next := by
  refine leasing.of_sessions now pool fun other member leased => ?_
  rw [sessions] at member
  rcases List.mem_or_eq_of_mem_set member with old | rfl
  · exact ⟨other, old, leased, rfl, rfl, rfl⟩
  · exact ⟨connection, List.mem_of_getElem? found, kept leased⟩

theorem tick (elapsed : Nat) : Leasing { state with now := state.now + elapsed } := by
  refine ⟨leasing.apart, ?_, ?_⟩
  · intro connection member leased
    exact Nat.le_add_right_of_le (leasing.past connection member leased)
  · intro connection member leased ip given
    rcases leasing.secured connection member leased ip given with late | held
    · exact .inl (Nat.le_add_right_of_le late)
    · exact .inr held

theorem reclaim (isActive : IpAddr → Bool) :
    Leasing { state with pool := (state.pool.reclaimExpired state.now isActive).2 } := by
  refine ⟨leasing.apart.reclaimExpired isActive, leasing.past, ?_⟩
  intro connection member leased ip given
  rcases leasing.secured connection member leased ip given with late | held
  · exact .inl late
  · by_cases late : connection.leasedAt + state.pool.leaseDuration ≤ state.now
    · exact .inl late
    · exact .inr (held.reclaimExpired (Nat.lt_of_not_le late) isActive)

theorem allocate (index : Nat) (connection : Connection P) :
    Leasing ({ state with
        pool := (state.pool.allocate state.now (tunClientId connection.session.clientIdentity)).2 }.set index
      { connection with
        phase := .leased
        ip := (state.pool.allocate state.now (tunClientId connection.session.clientIdentity)).1
        leasedAt := state.now }) := by
  have same := state.pool.leaseDuration_allocate state.now (tunClientId connection.session.clientIdentity)
  refine ⟨leasing.apart.allocate, ?_, ?_⟩
  · intro other member leased
    rcases List.mem_or_eq_of_mem_set member with old | rfl
    · exact leasing.past other old leased
    · exact Nat.le_refl state.now
  · intro other member leased ip given
    unfold State.Secured
    rw [State.set, same]
    rcases List.mem_or_eq_of_mem_set member with old | rfl
    · rcases leasing.secured other old leased ip given with late | held
      · exact .inl late
      · have current := Nat.add_le_add_right (leasing.past other old leased) state.pool.leaseDuration
        exact .inr (held.allocate current leasing.apart.free)
    · exact .inr (IpPool.leasedUntil_of_allocate given)

theorem moves (moves : Moves responder state action next) : Leasing next := by
  cases moves with
  | tick elapsed => exact leasing.tick elapsed
  | reclaim => exact leasing.reclaim _
  | greet drawn message session =>
    refine leasing.of_sessions rfl rfl fun connection member leased => ?_
    rcases List.mem_append.mp member with old | new
    · exact ⟨connection, old, leased, rfl, rfl, rfl⟩
    · rw [List.mem_singleton.mp new] at leased
      cases leased
  | allocate index connection found greeted => exact leasing.allocate index connection
  | abort index connection found | finish index connection found => exact leasing.set found rfl rfl rfl nofun
  | register index connection found leased =>
    obtain ⟨now, pool, sessions, -⟩ := state.registerClient_frame connection.ip index
    refine leasing.set found now pool (congrArg (List.set · index _) sessions) fun leased => ?_
    cases leased
  | send index nonce plaintext associatedData connection found
  | fail index drawn message connection ratchet found
  | accept index drawn message connection plaintext ratchet found | deliver index connection frame inbox found
  | write index connection frame inbox found | setFlows index flows connection found =>
    exact leasing.set found rfl rfl rfl fun leased => ⟨leased, rfl, rfl, rfl⟩
  | checkOwner index connection found closing =>
    refine leasing.set found rfl rfl rfl fun leased => ?_
    dsimp only at leased
    split at leased <;> cases leased
  | unregister index connection found agreed =>
    obtain ⟨now, pool, sessions, -⟩ := state.unregisterClient_frame connection.ip index
    refine leasing.set found now pool (congrArg (List.set · index _) sessions) fun leased => ?_
    cases leased
  | findStale | removeStale =>
    exact leasing.of_sessions rfl rfl fun connection member leased =>
      ⟨connection, member, leased, rfl, rfl, rfl⟩
  | refuse => exact leasing
  | reject => exact leasing
  | route => exact leasing

end

end Leasing

theorem Moves.registers (moves : Moves responder state action next) (after : next.senders ip = some index)
    (before : state.senders ip ≠ some index) :
    ∃ connection, state.sessions[index]? = some connection ∧ connection.phase = .leased ∧
      connection.ip = some ip := by
  cases moves with
  | register other connection found leased =>
    cases given : connection.ip with
    | none =>
      simp only [given, State.registerClient, State.set] at after
      exact absurd after before
    | some addr =>
      simp only [given, State.registerClient, State.set] at after
      by_cases same : ip = addr
      · subst same
        rw [Function.update_self] at after
        cases after
        exact ⟨connection, found, leased, given⟩
      · rw [Function.update_of_ne same] at after
        exact absurd after before
  | unregister other connection found agreed =>
    have kept : state.senders ip = some index := state.senders_unregisterClient connection.ip other after
    exact absurd kept before
  | removeStale addr other stale =>
    by_cases same : ip = addr
    · subst same
      simp at after
    · dsimp only at after
      rw [Function.update_of_ne same] at after
      exact absurd after before
  | _ => exact absurd after before

/-- The sender for an address that is leased to a client is replaced only by a session whose Hello carried that
client's identity key, or by one that registers when the lease duration has passed since its own allocation. -/
theorem replaced_only_under_lease_identity {pool : IpPool} (apart : pool.Apart)
    {actions : List (Action Private)} {state next : State P} {action : Action Private} {ip : IpAddr}
    {index : Nat} {identity : PublicKey}
    (reached : Transition.run (step responder) (State.start pool) actions = some state)
    (taken : step responder state action = some next) (leased : state.LeasedTo ip identity)
    (before : state.senders ip ≠ some index) (after : next.senders ip = some index) :
    ∃ connection, state.sessions[index]? = some connection ∧
      (connection.session.clientIdentity = identity ∨
        connection.leasedAt + state.pool.leaseDuration ≤ state.now) := by
  have leasing : Leasing state :=
    Transition.run_preserves (fun _ _ _ holds taken => holds.moves (moves_of_step taken))
      (start_leasing apart) reached
  obtain ⟨connection, found, waiting, given⟩ := (moves_of_step taken).registers after before
  refine ⟨connection, found, ?_⟩
  rcases leasing.secured connection (List.mem_of_getElem? found) waiting ip given with late | held
  · exact .inr late
  · obtain ⟨entry, listed, owner⟩ := leased
    obtain ⟨held, same, owned, -⟩ := held
    cases listed.symm.trans same
    exact .inl (tunClientId_injective (owned.symm.trans owner))

namespace Sample

open Symbolic (keyOf primitives)

def responderKeys : X3dhPrivateBundle (Vector UInt8 32) where
  identityKey := keyOf 1
  prekeySignature := []
  identityX25519Key := keyOf 2
  signedPrekey := keyOf 3
  oneTimePrekey := none

def address : IpAddr := .v4 #v[10, 200, 0, 3]

def onePool : IpPool := ⟨3600000, [address], .empty⟩

theorem onePool_apart : onePool.Apart := ⟨by simp [onePool], fun _ _ => rfl⟩

def honestIdentity : PublicKey := primitives.publicKey (keyOf 4)

/-- A Hello with the honest client's identity key and an ephemeral key of one's own. -/
def helloWith (ephemeral : UInt8) : HandshakeMessage :=
  .hello ⟨.current, .x3dh, some (primitives.publicKey (keyOf ephemeral)).toList, some honestIdentity.toList,
    none, none⟩

/-- The honest client's session is registered; a stranger repeats its identity key in a Hello with another ephemeral
key. -/
def takeover : List (Action (Vector UInt8 32)) :=
  [.hello (keyOf 8) (helloWith 5), .reclaim, .allocate 0, .register 0, .hello (keyOf 9) (helloWith 6),
    .reclaim, .allocate 1]

end Sample

open Sample Symbolic in
/-- The stranger's session takes over the downlink without having accepted a message. -/
theorem stranger_takes_downlink :
    ((Transition.run (step responderKeys) (State.start onePool : State primitives) takeover).bind
      fun state => (step responderKeys state (.register 1)).map fun next =>
        (state.senders address, next.senders address, next.sessions.map (·.accepted),
          (state.pool.allocated.lookup address).map (·.clientId))) =
      some (some 0, some 1, [0, 0], some (tunClientId honestIdentity)) := by
  decide +kernel

open Sample Symbolic in
theorem takeover_repeats_identity : ∃ (state : State primitives) (connection : Connection primitives),
    Transition.run (step responderKeys) (State.start onePool) takeover = some state ∧
      state.sessions[1]? = some connection ∧ (connection.session.clientIdentity = honestIdentity ∨
        connection.leasedAt + state.pool.leaseDuration ≤ state.now) := by
  obtain ⟨state, reached, before, ⟨entry, listed, owner⟩, next, taken, after⟩ :
      ∃ state, Transition.run (step responderKeys) (State.start onePool : State primitives) takeover = some state ∧
        state.senders address = some 0 ∧ (∃ entry, state.pool.allocated.lookup address = some entry ∧
          entry.clientId = tunClientId honestIdentity) ∧
      ∃ next, step responderKeys state (.register 1) = some next ∧ next.senders address = some 1 := by
    decide +kernel
  obtain ⟨connection, found, identity⟩ := replaced_only_under_lease_identity onePool_apart reached taken
    ⟨entry, listed, owner⟩ (by simp [before]) after
  exact ⟨state, connection, reached, found, identity⟩

end Rvpn.Tun
