import Rvpn.Mobile.Uplink

/-! `start`, `stop` and the reconnect loop of a phone's session, with what iOS and Android do differently. -/

namespace Rvpn.Mobile

structure ReconnectSettings where
  maxAttempts : Nat := 0
  initialDelay : Nat := 1000
  maxDelay : Nat := 5000
  deriving DecidableEq

/-- Arithmetic on `u64` that stops at the largest value. -/
def saturate (n : Nat) : Nat := min n (2 ^ 64 - 1)

def baseDelay (settings : ReconnectSettings) (attempts : Nat) (hadSession : Bool) : Nat :=
  if hadSession then 0
  else if 0 < attempts then min (saturate (settings.initialDelay * saturate (2 ^ (attempts - 1)))) settings.maxDelay
  else 0

def flapMin (settings : ReconnectSettings) (recent : Nat) : Nat :=
  if 3 ≤ recent then min (saturate (saturate (1000 * (recent - 2)) * (recent - 2))) (max settings.maxDelay 1000) else 0

def Platform.delay (settings : ReconnectSettings) (attempts : Nat) (hadSession : Bool) (recent : Nat) :
    Platform → Nat
  | .ios => max (baseDelay settings attempts hadSession) (flapMin settings recent)
  | .android => baseDelay settings attempts hadSession

/-- A spawned loop: before its two checks, asleep, in `connect`, after it, past a `break` with the rest of
the task still to run, over. -/
inductive LoopPhase where
  | top | admitted | backoff | connecting | ended | leaving | finished
  deriving DecidableEq

structure SessionLoop where
  phase : LoopPhase := .top
  attempts : Nat := 0
  hadSession : Bool := false
  deriving DecidableEq

namespace SessionLoop

def running (loop : SessionLoop) : Bool := loop.phase ≠ .finished

/-- A `break`: on Android the task goes on to clear `is_started`, on iOS it is at its end. -/
def broken (loop : SessionLoop) : Platform → SessionLoop
  | .ios => { loop with phase := .finished }
  | .android => { loop with phase := .leaving }

def exhausted (loop : SessionLoop) (settings : ReconnectSettings) : Bool :=
  0 < settings.maxAttempts && settings.maxAttempts ≤ loop.attempts

end SessionLoop

structure ReconnectState where
  isStarted : Bool := false
  enabled : Bool := false
  settings : ReconnectSettings := {}
  /-- On a clock that is at zero a minute before the session is made. -/
  lastRequest : Nat := 0
  /-- How many shutdown signals `stop` and `request_reconnect` have sent. -/
  signals : Nat := 0
  loops : List SessionLoop := []
  /-- Calls of `start` between the exchange and the spawn, and calls of `stop` before their end. -/
  starting : Nat := 0
  stopping : Nat := 0
  deriving DecidableEq

inductive ReconnectAction where
  | start | spawn
  | stop | stopped
  | setReconnectEnabled (enabled : Bool)
  | configure (settings : ReconnectSettings)
  | requestReconnect (now : Nat)
  | check (index : Nat) | plan (index recent : Nat) | wake (index : Nat) | rested (index : Nat)
  | connected (index : Nat) (ok : Bool) | settle (index : Nat) | exit (index : Nat)
  deriving DecidableEq

namespace ReconnectState

def loopIn (state : ReconnectState) (index : Nat) (phase : LoopPhase) : Option SessionLoop :=
  (state.loops[index]?).filter fun loop => loop.phase = phase

def setLoop (state : ReconnectState) (index : Nat) (loop : SessionLoop) : ReconnectState :=
  { state with loops := state.loops.set index loop }

def step (platform : Platform) (state : ReconnectState) : ReconnectAction → Option ReconnectState
  | .start =>
    if state.isStarted then some state
    else some { state with isStarted := true, starting := state.starting + 1 }
  | .spawn =>
    if 0 < state.starting then some { state with starting := state.starting - 1, loops := state.loops ++ [{}] }
    else none
  | .stop =>
    some { state with
      enabled := match platform with
        | .ios => state.enabled
        | .android => false
      signals := state.signals + 1
      stopping := state.stopping + 1 }
  | .stopped =>
    if 0 < state.stopping then
      some { state with
        isStarted := match platform with
          | .ios => false
          | .android => state.isStarted
        stopping := state.stopping - 1 }
    else none
  | .setReconnectEnabled enabled => some { state with enabled }
  | .configure settings => some { state with settings }
  | .requestReconnect now =>
    if now - state.lastRequest < 5000 then some state
    else some { state with lastRequest := now, signals := state.signals + 1 }
  | .check index =>
    (state.loopIn index .top).map fun loop =>
      state.setLoop index (if state.enabled then { loop with phase := .admitted } else loop.broken platform)
  | .plan index recent =>
    (state.loopIn index .admitted).map fun loop =>
      let delay := platform.delay state.settings loop.attempts loop.hadSession recent
      state.setLoop index (
        if loop.exhausted state.settings then loop.broken platform
        else { loop with phase := if 0 < delay then .backoff else .connecting, hadSession := false })
  | .wake index =>
    -- The `return` out of the backoff leaves `is_started` as it is on both platforms.
    (state.loopIn index .backoff).map fun loop =>
      state.setLoop index (if state.enabled then loop else { loop with phase := .finished })
  | .rested index => (state.loopIn index .backoff).map fun loop => state.setLoop index { loop with phase := .connecting }
  | .connected index ok =>
    (state.loopIn index .connecting).map fun loop =>
      state.setLoop index { loop with
        phase := .ended
        attempts := if ok then 0 else loop.attempts + 1
        hadSession := ok || loop.hadSession }
  | .settle index =>
    (state.loopIn index .ended).map fun loop =>
      state.setLoop index (if state.enabled then { loop with phase := .top } else loop.broken platform)
  | .exit index =>
    (state.loopIn index .leaving).map fun loop =>
      { state.setLoop index { loop with phase := .finished } with isStarted := false }

def running (state : ReconnectState) : Nat := state.loops.countP SessionLoop.running

def ends (state : ReconnectState) : ReconnectAction → Bool
  | .check _ | .wake _ | .settle _ => !state.enabled
  | .plan index _ => (state.loops[index]?).any fun loop => loop.exhausted state.settings
  | _ => false

/-- On iOS a loop ends only while a call of `stop` is in progress, and `stop` ends only when no loop runs or
is being spawned. On Android reconnection is not disabled during a loop's backoff. -/
def orderlyStop (platform : Platform) (state : ReconnectState) (action : ReconnectAction) : Bool :=
  match platform, action with
  | .ios, .stopped => state.running + state.starting = 0
  | .ios, action => !state.ends action || 0 < state.stopping
  | .android, .wake _ => state.enabled
  | .android, _ => true

/-- The flag stands for the one loop there is, or on iOS for a `stop` that is about to clear it. -/
structure Single (platform : Platform) (state : ReconnectState) : Prop where
  one : state.running + state.starting ≤ 1
  started : 0 < state.running + state.starting → state.isStarted = true
  accounted : state.isStarted = true →
    state.running + state.starting = 1 ∨ platform = .ios ∧ 0 < state.stopping

variable {platform : Platform} {state next : ReconnectState} {index : Nat} {loop later : SessionLoop}
  {phase : LoopPhase}

theorem loopIn_eq_some (found : state.loopIn index phase = some loop) :
    state.loops[index]? = some loop ∧ loop.phase = phase := by
  obtain ⟨present, same⟩ := Option.filter_eq_some_iff.mp found
  exact ⟨present, by simpa using same⟩

theorem running_setLoop (present : state.loops[index]? = some loop) (runs : loop.running = true) :
    (state.setLoop index later).running + 1 = state.running + if later.running then 1 else 0 := by
  obtain ⟨inside, same⟩ := List.getElem?_eq_some_iff.mp present
  have counted : 0 < state.loops.countP SessionLoop.running :=
    List.countP_pos_iff.mpr ⟨loop, List.mem_of_getElem? present, runs⟩
  unfold running setLoop
  rw [List.countP_set inside, same, if_pos runs]
  omega

namespace Single

theorem initial (platform : Platform) : Single platform {} :=
  ⟨Nat.zero_le 1, fun positive => absurd positive (Nat.lt_irrefl 0), nofun⟩

theorem move (single : Single platform state) (found : state.loopIn index phase = some loop)
    (live : phase ≠ .finished) (kept : later.running = true) : Single platform (state.setLoop index later) := by
  obtain ⟨present, same⟩ := loopIn_eq_some found
  have runs : loop.running = true := by simpa [SessionLoop.running, same] using live
  have count : (state.setLoop index later).running = state.running := by
    have changed : (state.setLoop index later).running + 1 = state.running + if later.running then 1 else 0 :=
      running_setLoop present runs
    rwa [if_pos kept, Nat.add_right_cancel_iff] at changed
  refine ⟨?_, ?_, ?_⟩
  · rw [count]
    exact single.one
  · rw [count]
    exact single.started
  · rw [count]
    exact single.accounted

theorem none_left (single : Single platform state) (found : state.loopIn index phase = some loop)
    (live : phase ≠ .finished) (ended : later.running = false) :
    (state.setLoop index later).running + state.starting = 0 := by
  obtain ⟨present, same⟩ := loopIn_eq_some found
  have runs : loop.running = true := by simpa [SessionLoop.running, same] using live
  have changed : (state.setLoop index later).running + 1 = state.running + if later.running then 1 else 0 :=
    running_setLoop present runs
  have one := single.one
  rw [ended, if_neg Bool.false_ne_true] at changed
  omega

/-- A `stop` is about to clear the flag. -/
theorem finished (single : Single .ios state) (found : state.loopIn index phase = some loop) (live : phase ≠ .finished)
    (ended : later.running = false) (stopping : 0 < state.stopping) : Single .ios (state.setLoop index later) := by
  have zero := single.none_left found live ended
  refine ⟨?_, ?_, fun _ => .inr ⟨rfl, stopping⟩⟩
  · exact Nat.le_of_eq zero |>.trans (Nat.zero_le 1)
  · exact fun positive => absurd zero (Nat.ne_of_gt positive)

theorem broken (single : Single platform state) (found : state.loopIn index phase = some loop)
    (live : phase ≠ .finished) (stopping : platform = .ios → 0 < state.stopping) :
    Single platform (state.setLoop index (loop.broken platform)) := by
  cases platform with
  | ios => exact single.finished found live rfl (stopping rfl)
  | android => exact single.move found live rfl

theorem step (single : Single platform state) (met : orderlyStop platform state action = true)
    (taken : ReconnectState.step platform state action = some next) : Single platform next := by
  have stopping (ends : state.ends action = true) (other : action ≠ .stopped) (ios : platform = .ios) :
      0 < state.stopping := by
    subst ios
    simpa [orderlyStop, ends] using met
  cases action with
  | start =>
    simp only [ReconnectState.step] at taken
    split at taken
    · cases taken
      exact single
    · rename_i fresh
      have zero : state.running + state.starting = 0 := by
        by_contra nonzero
        exact fresh (single.started (Nat.pos_of_ne_zero nonzero))
      cases taken
      refine ⟨?_, fun _ => rfl, fun _ => .inl ?_⟩
      · show state.running + (state.starting + 1) ≤ 1
        omega
      · show state.running + (state.starting + 1) = 1
        omega
  | spawn =>
    obtain ⟨called, rfl⟩ := Transition.of_guard taken
    have moved : (state.loops ++ [({} : SessionLoop)]).countP SessionLoop.running + (state.starting - 1) =
        state.running + state.starting := by
      rw [List.countP_append, running]
      show _ + 1 + _ = _
      omega
    refine ⟨?_, ?_, ?_⟩
    · exact moved ▸ single.one
    · exact moved ▸ single.started
    · exact moved ▸ single.accounted
  | stop =>
    cases taken
    refine ⟨single.one, single.started, fun started => ?_⟩
    exact (single.accounted started).imp_right fun ios => ⟨ios.1, Nat.succ_pos _⟩
  | stopped =>
    obtain ⟨called, rfl⟩ := Transition.of_guard taken
    cases platform with
    | ios =>
      have zero : state.running + state.starting = 0 := by simpa [orderlyStop] using met
      exact ⟨single.one, fun positive => absurd zero (Nat.ne_of_gt positive), nofun⟩
    | android =>
      refine ⟨single.one, single.started, fun started => ?_⟩
      exact (single.accounted started).imp_right fun ios => nomatch ios.1
  | setReconnectEnabled | configure =>
    cases taken
    exact { single with }
  | requestReconnect now =>
    simp only [ReconnectState.step] at taken
    split at taken
    · cases taken
      exact single
    · cases taken
      exact { single with }
  | check index | settle index =>
    obtain ⟨loop, found, rfl⟩ := Option.map_eq_some_iff.mp taken
    split
    · exact single.move found nofun rfl
    · rename_i disabled
      exact single.broken found nofun (stopping (by simpa [ends] using disabled) nofun)
  | plan index recent =>
    obtain ⟨loop, found, rfl⟩ := Option.map_eq_some_iff.mp taken
    dsimp only
    split
    · rename_i exhausted
      refine single.broken found nofun (stopping ?_ nofun)
      simpa [ends, (loopIn_eq_some found).1] using exhausted
    · refine single.move found nofun ?_
      unfold SessionLoop.running
      split <;> rfl
  | wake index =>
    obtain ⟨loop, found, rfl⟩ := Option.map_eq_some_iff.mp taken
    split
    · refine single.move found nofun ?_
      simp [SessionLoop.running, (loopIn_eq_some found).2]
    · rename_i disabled
      cases platform with
      | ios => exact single.finished found nofun rfl (stopping (by simpa [ends] using disabled) nofun rfl)
      | android => exact absurd met disabled
  | rested | connected =>
    obtain ⟨loop, found, rfl⟩ := Option.map_eq_some_iff.mp taken
    exact single.move found nofun rfl
  | exit index =>
    obtain ⟨loop, found, rfl⟩ := Option.map_eq_some_iff.mp taken
    have zero : (state.setLoop index { loop with phase := .finished }).running + state.starting = 0 :=
      single.none_left found nofun rfl
    refine ⟨?_, ?_, nofun⟩
    · exact Nat.le_of_eq zero |>.trans (Nat.zero_le 1)
    · exact fun positive => absurd zero (Nat.ne_of_gt positive)

end Single

/-- If iOS loops end only while a `stop` is in progress that outlasts them, and Android's never in their backoff: at
most one loop runs, and between calls `is_started` tells whether one does. -/
theorem single_reconnect_loop (platform : Platform) (actions : List ReconnectAction) (final : ReconnectState)
    (met : Transition.Meets (step platform) (fun state action => orderlyStop platform state action = true) {} actions)
    (reached : Transition.run (step platform) {} actions = some final) :
    final.running ≤ 1 ∧
    (final.starting = 0 → final.stopping = 0 → (final.isStarted = true ↔ final.running = 1)) := by
  have single : Single platform final := Transition.run_preserves_of_meets
    (fun state action next holds met taken => holds.step met taken) (Single.initial platform) met reached
  have one := single.one
  refine ⟨by omega, fun unstarted unstopped => ⟨fun started => ?_, fun runs => single.started (by omega)⟩⟩
  rcases single.accounted started with counted | ⟨-, stopping⟩
  · omega
  · omega

end ReconnectState

namespace ReconnectLoopSample

/-- A first loop is inside `connect`. -/
def connecting : List ReconnectAction := [.setReconnectEnabled true, .start, .spawn, .check 0, .plan 0 0]

/-- The loop ends before `stop` does, and the session is started again. -/
def stoppedInTurn : List ReconnectAction :=
  connecting ++ [.setReconnectEnabled false, .stop, .connected 0 true, .settle 0, .stopped,
    .setReconnectEnabled true, .start, .spawn]

/-- `stop` returns while the loop is inside `connect`. -/
def restarted : List ReconnectAction :=
  connecting ++ [.setReconnectEnabled false, .stop, .stopped, .setReconnectEnabled true, .start, .spawn]

def gaveUp : List ReconnectAction :=
  .configure { maxAttempts := 1 } :: connecting ++ [.connected 0 false, .settle 0, .check 0, .plan 0 0]

def stoppedAsleep : List ReconnectAction :=
  connecting ++ [.connected 0 false, .settle 0, .check 0, .plan 0 0, .stop, .stopped, .wake 0]

end ReconnectLoopSample

namespace ReconnectState

/-- How many loops run, `is_started`, and the calls in progress. -/
def summary (state : ReconnectState) : Nat × Bool × Nat := (state.running, state.isStarted, state.starting + state.stopping)

open ReconnectLoopSample in
theorem stopped_in_turn_single :
    ∃ final, Transition.run (step .ios) {} stoppedInTurn = some final ∧ final.loops.length = 2 ∧ final.running ≤ 1 := by
  refine Transition.exists_of_evaluated (p := fun final => final.loops.length = 2) (by decide +kernel) ?_
  exact fun final reached count => ⟨count, (single_reconnect_loop .ios stoppedInTurn final (by decide +kernel) reached).1⟩

open ReconnectLoopSample in
theorem reconnect_loops_uncontrolled :
    (Transition.run (step .ios) {} restarted).map summary = some (2, true, 0) ∧
    (Transition.run (step .ios) {} gaveUp).map summary = some (0, true, 0) ∧
    (Transition.run (step .android) {} stoppedAsleep).map summary = some (0, true, 0) := by
  decide +kernel

end ReconnectState

end Rvpn.Mobile
