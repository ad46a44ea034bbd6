import Rvpn.Mobile.ReconnectLoop

/-! One iOS reconnect loop on a clock that counts nanoseconds, and what its `reconnect_history` lets through. -/

namespace Rvpn.Mobile

/-- Thirty seconds. -/
def flapWindow : Nat := 30 * 10 ^ 9

/-- A subtraction of unsigned integers; `none` where it would overflow. -/
def checkedSub (a b : Nat) : Option Nat := if b ≤ a then some (a - b) else none

/-- The delay of a round; `none` if an operation that does not saturate leaves its type. -/
def reconnectDelay (settings : ReconnectSettings) (attempts : Nat) (hadSession : Bool) (recent : Nat) : Option Nat :=
  let base := if hadSession then some 0
    else if 0 < attempts then (checkedSub attempts 1).map fun exponent =>
      min (saturate (settings.initialDelay * saturate (2 ^ exponent))) settings.maxDelay
    else some 0
  let flapMin := if 3 ≤ recent then (checkedSub recent 2).map fun n =>
      min (saturate (saturate (1000 * n) * n)) (max settings.maxDelay 1000)
    else some 0
  base.bind fun base => flapMin.map (max base)

/-- `recorded` and `delays` are histories of this loop; `clock` is a time before which it does not go on. -/
structure FlapLoop where
  history : List Nat
  clock : Nat
  attempts : Nat := 0
  hadSession : Bool := false
  recorded : List Nat := []
  delays : List (Option Nat) := []

/-- How long it takes until the loop looks at its history, how long the backoff exceeds its delay and `connect`
takes, and what `connect` returns. -/
structure Round where
  wait : Nat
  elapsed : Nat
  ok : Bool

namespace FlapLoop

def round (settings : ReconnectSettings) (state : FlapLoop) (round : Round) : FlapLoop :=
  if 0 < settings.maxAttempts ∧ settings.maxAttempts ≤ state.attempts then state
  else
    let now := state.clock + round.wait
    let history := state.history.dropWhile fun front => flapWindow < now - front
    let delay := reconnectDelay settings state.attempts state.hadSession history.length
    { history := history ++ [now]
      clock := now + delay.getD 0 * 10 ^ 6 + round.elapsed
      attempts := if round.ok then 0 else state.attempts + 1
      hadSession := round.ok
      recorded := state.recorded ++ [now]
      delays := state.delays ++ [delay] }

theorem reconnectDelay_eq (settings : ReconnectSettings) (attempts : Nat) (hadSession : Bool) (recent : Nat) :
    reconnectDelay settings attempts hadSession recent =
      some (Platform.delay settings attempts hadSession recent .ios) := by
  have back (positive : 0 < attempts) : checkedSub attempts 1 = some (attempts - 1) := if_pos positive
  have flap (many : 3 ≤ recent) : checkedSub recent 2 = some (recent - 2) := if_pos (by omega)
  simp only [reconnectDelay, Platform.delay, baseDelay, flapMin]
  split_ifs <;> simp_all only [forall_const] <;> rfl

theorem delay_le (settings : ReconnectSettings) (attempts : Nat) (hadSession : Bool) (recent : Nat) :
    Platform.delay settings attempts hadSession recent .ios ≤ max settings.maxDelay 1000 := by
  simp only [Platform.delay, baseDelay, flapMin]
  split_ifs <;> omega

theorem le_delay (settings : ReconnectSettings) (attempts : Nat) (hadSession : Bool) (many : 3 ≤ recent) :
    1000 ≤ Platform.delay settings attempts hadSession recent .ios := by
  have square : 1000 ≤ saturate (saturate (1000 * (recent - 2)) * (recent - 2)) := by
    have one : 1 ≤ recent - 2 := by omega
    have first : 1000 ≤ saturate (1000 * (recent - 2)) := le_min (by omega) (by decide)
    exact le_min (Nat.le_trans first (Nat.le_mul_of_pos_right _ one)) (by decide)
  refine Nat.le_trans ?_ (Nat.le_max_right _ _)
  rw [flapMin, if_pos many]
  exact le_min square (Nat.le_max_right _ _)

/-- Whether a time lies in the closed interval of thirty seconds from `start`. -/
def within (start time : Nat) : Bool := start ≤ time ∧ time ≤ start + flapWindow

/-- From the fourth entry in an interval on, each holds the loop back for a second. -/
structure Throttled (start : Nat) (state : FlapLoop) : Prop where
  spaced : state.recorded.countP (within start) ≤ 3 ∨
    start + 10 ^ 9 * (state.recorded.countP (within start) - 3) ≤ state.clock
  few : state.recorded.countP (within start) ≤ 34
  kept : state.clock ≤ start + flapWindow → state.recorded.countP (within start) ≤ state.history.countP (within start)

theorem countP_dropWhile {times : List Nat} {p old : Nat → Bool} (apart : ∀ time, old time = true → p time ≠ true) :
    (times.dropWhile old).countP p = times.countP p := by
  induction times with
  | nil => rfl
  | cons time rest ih =>
    by_cases dropped : old time = true
    · rw [List.dropWhile_cons_of_pos dropped, ih, List.countP_cons_of_neg (apart time dropped)]
    · rw [List.dropWhile_cons_of_neg dropped]

theorem Throttled.round (throttled : Throttled start state) (settings : ReconnectSettings) (round : Round) :
    Throttled start (state.round settings round) := by
  obtain ⟨spaced, few, kept⟩ := throttled
  unfold FlapLoop.round
  split
  · exact ⟨spaced, few, kept⟩
  · dsimp only
    rw [reconnectDelay_eq, Option.getD_some]
    generalize later : state.clock + round.wait = now
    -- what is pruned lies before every interval that is still open
    have unpruned : now ≤ start + flapWindow → (state.history.dropWhile fun front => flapWindow < now - front).countP
        (within start) = state.history.countP (within start) := by
      refine fun before => countP_dropWhile fun time old => ?_
      simp only [within, ne_eq, decide_eq_true_eq] at old ⊢
      omega
    generalize state.history.dropWhile (fun front => flapWindow < now - front) = history at unpruned ⊢
    have delayed (many : 3 ≤ history.length) := le_delay settings state.attempts state.hadSession many
    generalize Platform.delay settings state.attempts state.hadSession history.length .ios = delay at delayed ⊢
    have counted := List.countP_le_length (p := within start) (l := history)
    have total (times : List Nat) : (times ++ [now]).countP (within start) =
        times.countP (within start) + if within start now then 1 else 0 := by
      rw [List.countP_append, List.countP_singleton]
    by_cases inside : within start now = true
    · have ⟨after, before⟩ := of_decide_eq_true inside
      have pruned := unpruned before
      have recent := kept (by omega)
      unfold flapWindow at before
      refine ⟨?_, ?_, fun _ => ?_⟩ <;> simp only [total, inside, if_true] <;> omega
    · refine ⟨?_, ?_, fun still => ?_⟩ <;> simp only [total, inside, Bool.false_eq_true, if_false]
      · exact spaced.imp_right fun spaced => by omega
      · exact few
      · have before : now ≤ start + flapWindow := by
          change now + _ + _ ≤ _ at still
          omega
        exact (unpruned before).symm ▸ kept (by omega)

/-- Whatever `connect` returns and however long it takes, the loop makes at most 34 entries in thirty seconds, and no
delay it computes overflows or exceeds `reconnect_max_delay_ms` or a second. The history may hold entries of others. -/
theorem reconnects_throttled (settings : ReconnectSettings) (history : List Nat) (clock : Nat) (rounds : List Round) :
    let final := rounds.foldl (round settings) { history, clock }
    (∀ start, final.recorded.countP (within start) ≤ 34) ∧
      ∀ delay ∈ final.delays, ∃ ms, delay = some ms ∧ ms ≤ max settings.maxDelay 1000 := by
  intro final
  have kept := List.foldlRecOn (motive := fun state : FlapLoop => (∀ start, Throttled start state) ∧
      ∀ delay ∈ state.delays, ∃ ms, delay = some ms ∧ ms ≤ max settings.maxDelay 1000) rounds (round settings)
    (b := { history, clock }) ⟨fun _ => ⟨.inl (Nat.zero_le _), Nat.zero_le _, fun _ => Nat.zero_le _⟩, nofun⟩ ?_
  · exact ⟨fun start => (kept.1 start).few, kept.2⟩
  · refine fun state holds next _ => ⟨fun start => (holds.1 start).round settings next, ?_⟩
    unfold FlapLoop.round
    split
    · exact holds.2
    · refine List.forall_mem_append.mpr ⟨holds.2, List.forall_mem_singleton.mpr ?_⟩
      exact ⟨_, reconnectDelay_eq .., delay_le ..⟩

end FlapLoop

end Rvpn.Mobile
