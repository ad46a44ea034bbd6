import Rvpn.Lib.Transition

/-! The timers that end an idle connection, in nanoseconds; whatever else can end it is left out. -/

namespace Rvpn.Server

def second : Nat := 1000000000

namespace SessionTimer

def idleTimeout : Nat := 90 * second
def pingPeriod : Nat := 30 * second
def pingLimit : Nat := 75 * second

inductive Ending where
  | receiverTimeout
  | pingTask
  deriving DecidableEq

/-- `ws_receiver` waits for a message until some time, or deals with one. -/
inductive Receiver where
  | waiting (deadline : Nat)
  | dispatching
  deriving DecidableEq

structure State where
  now : Nat
  /-- When the last `Binary` message arrived, or the session started. -/
  lastArrival : Nat
  /-- The messages that have arrived, and whether each is `Binary`. -/
  inbox : List Bool
  lastActivity : Nat
  receiver : Receiver
  nextPing : Nat
  pinging : Bool
  ended : Option Ending
  deriving DecidableEq

def State.start : State := ⟨0, 0, [], 0, .waiting idleTimeout, 0, false, none⟩

inductive Action where
  | elapse (duration : Nat)
  | arrive (binary : Bool)
  | receive
  | dispatched
  | timeout
  | tick
  | pinged
  deriving DecidableEq

def State.await (state : State) : State :=
  let remaining := idleTimeout - (state.now - state.lastActivity)
  if remaining = 0 then { state with ended := some .receiverTimeout }
  else { state with receiver := .waiting (state.now + remaining) }

def step (state : State) (action : Action) : Option State :=
  if state.ended.isSome then none
  else
    match action with
    | .elapse duration => some { state with now := state.now + duration }
    | .arrive binary =>
      some { state with
        inbox := state.inbox ++ [binary]
        lastArrival := if binary then state.now else state.lastArrival }
    | .receive =>
      match state.receiver, state.inbox with
      | .waiting _, true :: rest =>
        some { state with inbox := rest, lastActivity := state.now, receiver := .dispatching }
      -- a ping, a pong or a text is no activity
      | .waiting _, false :: rest => some { state with inbox := rest }.await
      | _, _ => none
    | .dispatched => if state.receiver = .dispatching then some state.await else none
    | .timeout =>
      match state.receiver, state.inbox with
      | .waiting deadline, [] =>
        if deadline ≤ state.now then some { state with ended := some .receiverTimeout } else none
      | _, _ => none
    | .tick =>
      if state.pinging = false ∧ state.nextPing ≤ state.now then
        if state.now - state.lastActivity > pingLimit then some { state with ended := some .pingTask }
        else some { state with pinging := true, nextPing := state.nextPing + pingPeriod }
      else none
    | .pinged => if state.pinging then some { state with pinging := false } else none

/-- `Binary` messages come less than 90 seconds apart, the ping task looks at no more than 75 of them, and the
receiver is back at the socket within 90 seconds of the last one it took. -/
def Careful (state : State) : Action → Prop
  | .elapse duration => state.now + duration < state.lastArrival + idleTimeout
  | .tick => state.now ≤ state.lastActivity + pingLimit
  | .receive | .dispatched => state.now < state.lastActivity + idleTimeout
  | _ => True

instance : ∀ (state : State) (action : Action), Decidable (Careful state action)
  | _, .elapse _ | _, .receive | _, .dispatched => inferInstanceAs (Decidable (_ < _))
  | _, .tick => inferInstanceAs (Decidable (_ ≤ _))
  | _, .arrive _ | _, .timeout | _, .pinged => inferInstanceAs (Decidable True)

/-- The receiver's deadline is 90 seconds after the last activity, and what has arrived since is in the inbox. -/
structure Live (state : State) : Prop where
  running : state.ended = none
  recent : state.now < state.lastArrival + idleTimeout
  past : state.lastActivity ≤ state.now
  arrived : state.lastArrival ≤ state.now
  deadline : ∀ deadline, state.receiver = .waiting deadline → deadline = state.lastActivity + idleTimeout
  taken : true ∉ state.inbox → state.lastArrival ≤ state.lastActivity

theorem Live.await (live : Live state) (soon : state.now < state.lastActivity + idleTimeout) : Live state.await := by
  have past := live.past
  have left : idleTimeout - (state.now - state.lastActivity) ≠ 0 := by omega
  unfold State.await
  rw [if_neg left]
  refine ⟨live.running, live.recent, past, live.arrived, fun deadline same => ?_, live.taken⟩
  cases same
  show _ = state.lastActivity + idleTimeout
  omega

theorem Live.step (live : Live state) (careful : Careful state action) (taken : step state action = some next) :
    Live next := by
  have ⟨running, recent, past, arrived, deadline, inTime⟩ := live
  unfold SessionTimer.step at taken
  rw [if_neg (by simp [running])] at taken
  cases action with
  | elapse duration =>
    cases taken
    exact ⟨running, careful, Nat.le_add_right_of_le past, Nat.le_add_right_of_le arrived, deadline, inTime⟩
  | arrive binary =>
    cases taken
    cases binary with
    | true =>
      have later : 0 < idleTimeout := by decide
      exact ⟨running, Nat.lt_add_of_pos_right later, past, Nat.le_refl _, deadline, fun absent => by simp at absent⟩
    | false => exact ⟨running, recent, past, arrived, deadline, fun absent => inTime (by simpa using absent)⟩
  | receive =>
    dsimp only at taken
    split at taken
    · cases taken
      exact ⟨running, recent, Nat.le_refl _, arrived, nofun, fun _ => arrived⟩
    · rename_i waiting inbox
      cases taken
      refine Live.await ⟨running, recent, past, arrived, deadline, fun absent => inTime ?_⟩ careful
      simpa [inbox] using absent
    · cases taken
  | dispatched =>
    obtain ⟨-, rfl⟩ := Transition.of_guard taken
    exact live.await careful
  | timeout =>
    dsimp only at taken
    split at taken
    · rename_i limit waiting inbox
      -- all that has arrived was taken, so the deadline is still ahead
      obtain ⟨due, -⟩ := Option.ite_none_right_eq_some.mp taken
      have since := deadline limit waiting
      have last := inTime (by simp [inbox])
      omega
    · cases taken
  | tick =>
    obtain ⟨-, taken⟩ := Option.ite_none_right_eq_some.mp taken
    have within : ¬ state.now - state.lastActivity > pingLimit := by
      have bound : state.now ≤ state.lastActivity + pingLimit := careful
      omega
    rw [if_neg within] at taken
    cases taken
    exact ⟨running, recent, past, arrived, deadline, inTime⟩
  | pinged =>
    obtain ⟨-, rfl⟩ := Transition.of_guard taken
    exact ⟨running, recent, past, arrived, deadline, inTime⟩

theorem session_outlives_gaps {actions : List Action} {final : State}
    (careful : Transition.Meets step Careful .start actions) (reached : Transition.run step .start actions = some final) :
    final.ended = none := by
  have initially : Live .start :=
    ⟨rfl, by decide, Nat.le_refl _, Nat.le_refl _, fun deadline same => by cases same; rfl, fun _ => Nat.le_refl _⟩
  exact (Transition.run_preserves_of_meets (fun _ _ _ live met taken => live.step met taken) initially careful
    reached).running

/-- A message every 60 seconds, and the pings in between. -/
theorem session_outlives_minute_gaps :
    ∃ final, Transition.run step .start
        [.tick, .pinged, .elapse (60 * second), .tick, .pinged, .arrive true, .receive, .dispatched, .tick,
          .elapse (60 * second), .pinged, .tick, .arrive true, .receive] = some final ∧ final.ended = none := by
  obtain ⟨final, reached⟩ : ∃ final, Transition.run step .start
      [.tick, .pinged, .elapse (60 * second), .tick, .pinged, .arrive true, .receive, .dispatched, .tick,
        .elapse (60 * second), .pinged, .tick, .arrive true, .receive] = some final := ⟨_, rfl⟩
  exact ⟨final, reached, session_outlives_gaps (by decide) reached⟩

/-- Messages after 10 and 95 seconds: the ping task ends the session after 90. -/
theorem ping_ends_session :
    (Transition.run step .start
      [.tick, .pinged, .elapse (10 * second), .arrive true, .receive, .dispatched, .elapse (20 * second), .tick, .pinged,
        .elapse (30 * second), .tick, .pinged, .elapse (30 * second), .tick]).map
      (fun final => (final.now, final.lastArrival, final.ended)) =
      some (90 * second, 10 * second, some .pingTask) := by
  decide

end SessionTimer

namespace RelayTimer

/-- The clock of `relay_tcp`'s first task. -/
structure State where
  now : Nat
  lastTransfer : Nat
  lastActivity : Nat
  nextCheck : Nat
  /-- A message of the client is being decrypted and written to the target. -/
  forwarding : Bool
  ended : Bool
  deriving DecidableEq

def State.start : State := ⟨0, 0, 0, 0, false, false⟩

inductive Action where
  | elapse (duration : Nat)
  | fromClient
  | forwarded
  | toClient
  | check
  deriving DecidableEq

/-- The idle check is delayed while a message is forwarded, and the next one is counted from it. -/
def step (idleTimeout : Nat) (state : State) (action : Action) : Option State :=
  if state.ended then none
  else
    match action with
    | .elapse duration => some { state with now := state.now + duration }
    | .fromClient =>
      if state.forwarding then none
      else some { state with lastActivity := state.now, lastTransfer := state.now, forwarding := true }
    | .forwarded => if state.forwarding then some { state with forwarding := false } else none
    | .toClient => some { state with lastTransfer := state.now }
    | .check =>
      if state.forwarding = false ∧ state.nextCheck ≤ state.now then
        if state.now - state.lastActivity > idleTimeout then some { state with ended := true }
        else some { state with nextCheck := state.now + min idleTimeout (60 * second) }
      else none

/-- Payload of the client is transferred in every interval of the timeout's length. -/
def ClientActive (idleTimeout : Nat) (state : State) : Action → Prop
  | .elapse duration => state.now + duration ≤ state.lastActivity + idleTimeout
  | _ => True

instance : ∀ (idleTimeout : Nat) (state : State) (action : Action), Decidable (ClientActive idleTimeout state action)
  | _, _, .elapse _ => inferInstanceAs (Decidable (_ ≤ _))
  | _, _, .fromClient | _, _, .forwarded | _, _, .toClient | _, _, .check => inferInstanceAs (Decidable True)

/-- Payload is transferred in one direction at least in every interval of the timeout's length. -/
def Active (idleTimeout : Nat) (state : State) : Action → Prop
  | .elapse duration => state.now + duration ≤ state.lastTransfer + idleTimeout
  | _ => True

instance : ∀ (idleTimeout : Nat) (state : State) (action : Action), Decidable (Active idleTimeout state action)
  | _, _, .elapse _ => inferInstanceAs (Decidable (_ ≤ _))
  | _, _, .fromClient | _, _, .forwarded | _, _, .toClient | _, _, .check => inferInstanceAs (Decidable True)

theorem recent_step (recent : state.ended = false ∧ state.now ≤ state.lastActivity + idleTimeout)
    (active : ClientActive idleTimeout state action) (taken : step idleTimeout state action = some next) :
    next.ended = false ∧ next.now ≤ next.lastActivity + idleTimeout := by
  obtain ⟨running, recent⟩ := recent
  unfold step at taken
  rw [if_neg (by simp [running])] at taken
  cases action with
  | elapse duration =>
    cases taken
    exact ⟨running, active⟩
  | fromClient =>
    obtain ⟨-, taken⟩ := Option.ite_none_left_eq_some.mp taken
    cases taken
    exact ⟨running, Nat.le_add_right _ _⟩
  | forwarded =>
    obtain ⟨-, rfl⟩ := Transition.of_guard taken
    exact ⟨running, recent⟩
  | toClient =>
    cases taken
    exact ⟨running, recent⟩
  | check =>
    obtain ⟨-, taken⟩ := Option.ite_none_right_eq_some.mp taken
    have within : ¬ state.now - state.lastActivity > idleTimeout := by omega
    rw [if_neg within] at taken
    cases taken
    exact ⟨running, recent⟩

theorem relay_outlives_active_client {idleTimeout : Nat} {actions : List Action} {final : State}
    (active : Transition.Meets (step idleTimeout) (ClientActive idleTimeout) .start actions)
    (reached : Transition.run (step idleTimeout) .start actions = some final) : final.ended = false :=
  (Transition.run_preserves_of_meets (fun _ _ _ recent met taken => recent_step recent met taken)
    ⟨rfl, Nat.zero_le _⟩ active reached).1

/-- The five minutes of `LEGACY_TCP_IDLE_TIMEOUT`. -/
def legacyTcpIdleTimeout : Nat := 300 * second

theorem relay_outlives_upload :
    ∃ final, Transition.run (step legacyTcpIdleTimeout) .start
        [.check, .elapse (290 * second), .fromClient, .forwarded, .check, .elapse (200 * second), .check] = some final ∧
      final.ended = false := by
  obtain ⟨final, reached⟩ : ∃ final, Transition.run (step legacyTcpIdleTimeout) .start
      [.check, .elapse (290 * second), .fromClient, .forwarded, .check, .elapse (200 * second), .check] = some final :=
    ⟨_, rfl⟩
  exact ⟨final, reached, relay_outlives_active_client (by decide) reached⟩

/-- Data of the target after 200 seconds and no more from the client: a download that goes on is ended. -/
theorem download_ended :
    let actions : List Action := [.check, .elapse (200 * second), .toClient, .check, .elapse (101 * second), .check]
    Transition.Meets (step legacyTcpIdleTimeout) (Active legacyTcpIdleTimeout) .start actions ∧
      (Transition.run (step legacyTcpIdleTimeout) .start actions).map State.ended = some true := by
  decide

end RelayTimer

end Rvpn.Server
