import Rvpn.Lib.Transition
import Rvpn.Tun.IpPool

/-! The two mutexes of `IpPool` and the order in which each function takes them. -/

namespace Rvpn.Tun.PoolLocks

open Server (Instant IpAddr)

inductive Mutex where
  | available | allocated
  deriving DecidableEq, Repr

/-- The calls that lock: three functions of the pool, and the ownership check of
`unregister_client`. -/
inductive Task where
  | allocate (now : Instant) (clientId : String)
  | release (ip : IpAddr)
  | reclaimExpired (now : Instant) (isActive : IpAddr → Bool)
  | unregisterClient (ip : IpAddr)

/-- Where a thread stands: before its first lock, with it, with both; `release` has dropped
`allocated` when it goes for `available`. -/
inductive Position where
  | idle
  | entering (task : Task)
  | inside (task : Task)
  | between (ip : IpAddr)
  | pushing (ip : IpAddr)
  | both (task : Task)

structure State where
  pool : IpPool
  holder : Mutex → Option Nat
  threads : Nat → Position

inductive Action where
  | call (thread : Nat) (task : Task)
  | advance (thread : Nat)

def Action.actor : Action → Nat
  | .call thread _ | .advance thread => thread

def Task.first : Task → Mutex
  | .allocate _ _ => .available
  | .release _ | .reclaimExpired _ _ | .unregisterClient _ => .allocated

namespace State

def start (pool : IpPool) : State := ⟨pool, fun _ => none, fun _ => .idle⟩

/-- `reclaim_expired` has found leases to take back. -/
def reclaims (pool : IpPool) (now : Instant) (isActive : IpAddr → Bool) : Bool :=
  pool.allocated.entries.any fun entry => IpPool.reclaimable now isActive entry.1 entry.2

def move (state : State) (thread : Nat) (position : Position) : State :=
  { state with threads := Function.update state.threads thread position }

/-- `lock`, which blocks while another thread has the mutex. -/
def lock (state : State) (thread : Nat) (mutex : Mutex) (position : Position) : Option State :=
  if state.holder mutex = none then
    some ({ state with holder := Function.update state.holder mutex (some thread) }.move thread position)
  else none

def unlock (state : State) (mutex : Mutex) : State :=
  { state with holder := Function.update state.holder mutex none }

def setPool (state : State) (pool : IpPool) : State := { state with pool }

def unlockBoth (state : State) : State := { state with holder := fun _ => none }

def advance (state : State) (thread : Nat) : Option State :=
  match state.threads thread with
  | .idle => none
  | .entering task => state.lock thread task.first (.inside task)
  | .inside (.allocate now clientId) => state.lock thread .allocated (.both (.allocate now clientId))
  | .inside (.release ip) =>
    match state.pool.allocated.lookup ip with
    | some _ =>
      some (((state.setPool { state.pool with allocated := state.pool.allocated.erase ip }).unlock .allocated).move
        thread (.between ip))
    | none => some ((state.unlock .allocated).move thread .idle)
  | .inside (.reclaimExpired now isActive) =>
    if reclaims state.pool now isActive then
      state.lock thread .available (.both (.reclaimExpired now isActive))
    else
      some (((state.setPool (state.pool.reclaimExpired now isActive).2).unlock .allocated).move thread .idle)
  | .inside (.unregisterClient _) => some ((state.unlock .allocated).move thread .idle)
  | .between ip => state.lock thread .available (.pushing ip)
  | .pushing ip =>
    some (((state.setPool { state.pool with available := ip :: state.pool.available }).unlock .available).move
      thread .idle)
  | .both (.allocate now clientId) =>
    some (((state.setPool (state.pool.allocate now clientId).2).unlockBoth).move thread .idle)
  | .both (.reclaimExpired now isActive) =>
    some (((state.setPool (state.pool.reclaimExpired now isActive).2).unlockBoth).move thread .idle)
  | .both (.release _) | .both (.unregisterClient _) => none

end State

def step (state : State) : Action → Option State
  | .call thread task =>
    match state.threads thread with
    | .idle => some (state.move thread (.entering task))
    | _ => none
  | .advance thread => state.advance thread

def waitsFor (state : State) (thread : Nat) : Option Mutex :=
  match state.threads thread with
  | .entering task => some task.first
  | .inside (.allocate _ _) => some .allocated
  | .inside (.reclaimExpired now isActive) =>
    if State.reclaims state.pool now isActive then some .available else none
  | .between _ => some .available
  | .idle | .inside (.release _) | .inside (.unregisterClient _) | .pushing _ | .both _ => none

def Deadlocked (state : State) : Prop :=
  ∃ first second, state.holder .available = some first ∧ waitsFor state first = some .allocated ∧
    state.holder .allocated = some second ∧ waitsFor state second = some .available

/-- The thread is in `allocate`, between its two locks. -/
def allocating : Position → Bool
  | .inside (.allocate _ _) => true
  | _ => false

/-- The thread is in `reclaim_expired`, with expired leases to give back. -/
def reclaiming (pool : IpPool) : Position → Bool
  | .inside (.reclaimExpired now isActive) => State.reclaims pool now isActive
  | _ => false

/-- An `allocate` takes its first lock while a `reclaim_expired` with leases to give back is
between its locks, or the other way round. -/
def overlaps (state : State) : Action → Bool
  | .call _ _ => false
  | .advance thread =>
    match state.threads thread with
    | .entering (.allocate _ _) =>
      (state.holder .allocated).any fun other => reclaiming state.pool (state.threads other)
    | .entering (.reclaimExpired now isActive) =>
      State.reclaims state.pool now isActive &&
        (state.holder .available).any fun other => allocating (state.threads other)
    | _ => false

def holds : Position → Mutex → Bool
  | .inside task, mutex => mutex = task.first
  | .pushing _, mutex => mutex = .available
  | .both _, _ => true
  | .idle, _ | .entering _, _ | .between _, _ => false

section

variable (mutex : Mutex) (task : Task) (ip : IpAddr)

@[simp] theorem holds_idle : holds .idle mutex = false := rfl
@[simp] theorem holds_entering : holds (.entering task) mutex = false := rfl
@[simp] theorem holds_inside : holds (.inside task) mutex = decide (mutex = task.first) := rfl
@[simp] theorem holds_between : holds (.between ip) mutex = false := rfl
@[simp] theorem holds_pushing : holds (.pushing ip) mutex = decide (mutex = .available) := rfl
@[simp] theorem holds_both : holds (.both task) mutex = true := rfl

end

def Sound (state : State) : Prop :=
  ∀ thread mutex, holds (state.threads thread) mutex = true ↔ state.holder mutex = some thread

variable {state next final : State} {action : Action} {thread other : Nat} {position : Position}

/-- What a step does: one thread moves, gives up and takes mutexes accordingly, and touches the
leases only with `allocated` in its hands; it comes inside a function only from its entry. -/
structure Moves (state next : State) (thread : Nat) (position : Position) : Prop where
  threads : next.threads = Function.update state.threads thread position
  holder : ∀ mutex, next.holder mutex =
    if holds position mutex then some thread
    else if holds (state.threads thread) mutex then none else state.holder mutex
  free : ∀ mutex, holds position mutex = true →
    holds (state.threads thread) mutex = true ∨ state.holder mutex = none
  leases : holds (state.threads thread) .allocated = false → next.pool.allocated = state.pool.allocated
  entered : ∀ task, position = .inside task → state.threads thread = .entering task ∧ next.pool = state.pool

theorem Moves.lock (sound : Sound state)
    (gains : ∀ other, holds position other = (holds (state.threads thread) other || decide (other = mutex)))
    (entered : ∀ task, position = .inside task → state.threads thread = .entering task)
    (taken : state.lock thread mutex position = some next) : Moves state next thread position := by
  unfold State.lock at taken
  split at taken <;> [rename_i open_; cases taken]
  cases taken
  refine ⟨rfl, ?_, ?_, fun _ => rfl, fun task same => ⟨entered task same, rfl⟩⟩
  · intro other
    show Function.update state.holder mutex (some thread) other = _
    by_cases here : other = mutex
    · subst here
      simp [gains]
    · by_cases held : holds (state.threads thread) other = true
      · simp [gains, here, (sound thread other).mp held]
      · simp [gains, held, here]
  · intro other held
    by_cases here : other = mutex
    · exact .inr (here ▸ open_)
    · exact .inl (by simpa [gains, here] using held)

theorem Moves.unlock (held : ∀ other, holds (state.threads thread) other = decide (other = mutex))
    (left : ∀ other, holds position other = false)
    (leases : mutex = .available → pool.allocated = state.pool.allocated) :
    Moves state (((state.setPool pool).unlock mutex).move thread position) thread position := by
  refine ⟨rfl, ?_, fun other taken => by simp [left] at taken, ?_, ?_⟩
  · intro other
    show Function.update state.holder mutex none other = _
    by_cases here : other = mutex
    · subst here
      simp [left, held]
    · simp [left, held, here]
  · intro without
    rw [held] at without
    cases mutex with
    | available => exact leases rfl
    | allocated => simp at without
  · rintro task rfl
    simpa using left task.first

theorem Moves.unlockBoth (held : ∀ other, holds (state.threads thread) other = true) :
    Moves state (((state.setPool pool).unlockBoth).move thread .idle) thread .idle := by
  refine ⟨rfl, ?_, fun other taken => by simp at taken, ?_, fun task same => by cases same⟩
  · intro other
    simp [held, State.unlockBoth, State.move]
  · intro without
    simp [held] at without

theorem moves_of_advance (sound : Sound state) (taken : state.advance thread = some next) :
    ∃ position, Moves state next thread position := by
  unfold State.advance at taken
  split at taken
  · cases taken
  · rename_i task here
    refine ⟨.inside task, Moves.lock sound (by simp [here]) (fun other same => ?_) taken⟩
    cases same
    exact here
  · rename_i now clientId here
    refine ⟨.both _, Moves.lock sound (fun other => ?_) (fun other same => by cases same) taken⟩
    cases other <;> simp [here, Task.first]
  · rename_i ip here
    split at taken
    · cases taken
      exact ⟨.between ip, Moves.unlock (fun other => by rw [here]; rfl) (by simp) (by simp)⟩
    · cases taken
      exact ⟨.idle, Moves.unlock (fun other => by rw [here]; rfl) (by simp) (by simp)⟩
  · rename_i now isActive here
    split at taken
    · refine ⟨.both _, Moves.lock sound (fun other => ?_) (fun other same => by cases same) taken⟩
      cases other <;> simp [here, Task.first]
    · cases taken
      exact ⟨.idle, Moves.unlock (fun other => by rw [here]; rfl) (by simp) (by simp)⟩
  · rename_i ip here
    cases taken
    exact ⟨.idle, Moves.unlock (fun other => by rw [here]; rfl) (by simp) (by simp)⟩
  · rename_i ip here
    exact ⟨.pushing ip, Moves.lock sound (by simp [here]) (fun other same => by cases same) taken⟩
  · rename_i ip here
    cases taken
    exact ⟨.idle, Moves.unlock (by simp [here]) (by simp) (fun _ => rfl)⟩
  · rename_i now clientId here
    cases taken
    exact ⟨.idle, Moves.unlockBoth (by simp [here])⟩
  · rename_i now isActive here
    cases taken
    exact ⟨.idle, Moves.unlockBoth (by simp [here])⟩
  all_goals cases taken

theorem moves_of_step (sound : Sound state) (taken : step state action = some next) :
    ∃ position, Moves state next action.actor position := by
  cases action with
  | call thread task =>
    simp only [step] at taken
    split at taken <;> [rename_i idle; cases taken]
    cases taken
    refine ⟨.entering task, rfl, ?_, fun mutex held => by simp at held, fun _ => rfl,
      fun task same => by cases same⟩
    simp [idle, State.move, Action.actor]
  | advance thread => exact moves_of_advance sound taken

theorem Sound.moves (sound : Sound state) (moves : Moves state next thread position) : Sound next := by
  intro other mutex
  rw [moves.threads, moves.holder]
  by_cases here : other = thread
  · subst here
    by_cases held : holds position mutex = true
    · simp [held]
    · by_cases before : holds (state.threads other) mutex = true
      · simp [before]
      · simp [held, ← sound other mutex]
  · rw [Function.update_of_ne here, sound other mutex]
    by_cases held : holds position mutex = true
    · simp only [held, if_true, Option.some.injEq, Ne.symm here, iff_false]
      intro owned
      rcases moves.free mutex held with before | unowned
      · exact here (Option.some.inj (owned.symm.trans ((sound thread mutex).mp before)))
      · simp [unowned] at owned
    · by_cases before : holds (state.threads thread) mutex = true
      · simp [held, (sound thread mutex).mp before, Ne.symm here]
      · simp [held, before]

theorem allocating_eq_true_iff : allocating position = true ↔
    ∃ now clientId, position = .inside (.allocate now clientId) := by
  constructor
  · intro allocates
    unfold allocating at allocates
    split at allocates
    · exact ⟨_, _, rfl⟩
    · cases allocates
  · rintro ⟨now, clientId, rfl⟩
    rfl

theorem reclaiming_eq_true_iff : reclaiming pool position = true ↔
    ∃ now isActive, position = .inside (.reclaimExpired now isActive) ∧
      State.reclaims pool now isActive = true := by
  constructor
  · intro reclaims
    unfold reclaiming at reclaims
    split at reclaims
    · exact ⟨_, _, rfl, reclaims⟩
    · cases reclaims
  · rintro ⟨now, isActive, rfl, reclaims⟩
    exact reclaims

/-- The deadlock is one `allocate` and one `reclaim_expired`, each between its locks. -/
theorem deadlocked_iff (sound : Sound state) : Deadlocked state ↔
    ∃ first second, allocating (state.threads first) = true ∧
      reclaiming state.pool (state.threads second) = true := by
  constructor
  · rintro ⟨first, second, hasAvailable, wantsAllocated, hasAllocated, wantsAvailable⟩
    refine ⟨first, second, ?_, ?_⟩
    · rw [← sound first .available] at hasAvailable
      unfold waitsFor at wantsAllocated
      split at wantsAllocated
      case h_2 here => rw [here]; rfl
      case h_3 here => split at wantsAllocated <;> cases wantsAllocated
      all_goals simp_all
    · rw [← sound second .allocated] at hasAllocated
      unfold waitsFor at wantsAvailable
      split at wantsAvailable
      case h_3 now isActive here =>
        rw [here]
        by_cases reclaims : State.reclaims state.pool now isActive = true
        · exact reclaims
        · simp [reclaims] at wantsAvailable
      all_goals simp_all
  · rintro ⟨first, second, allocates, reclaims⟩
    obtain ⟨now, clientId, here⟩ := allocating_eq_true_iff.mp allocates
    obtain ⟨time, isActive, there, found⟩ := reclaiming_eq_true_iff.mp reclaims
    refine ⟨first, second, (sound first .available).mp (by simp [here, Task.first]), by simp [waitsFor, here],
      (sound second .allocated).mp (by simp [there, Task.first]), by simp [waitsFor, there, found]⟩

theorem reclaiming_congr (same : changed.allocated = pool.allocated) :
    reclaiming changed position = reclaiming pool position := by
  unfold reclaiming State.reclaims
  rw [same]

theorem holder_of_allocating (sound : Sound state) (allocates : allocating (state.threads thread) = true) :
    state.holder .available = some thread := by
  obtain ⟨now, clientId, here⟩ := allocating_eq_true_iff.mp allocates
  exact (sound thread .available).mp (by simp [here, Task.first])

theorem holder_of_reclaiming (sound : Sound state) (reclaims : reclaiming state.pool (state.threads thread) = true) :
    state.holder .allocated = some thread := by
  obtain ⟨now, isActive, here, -⟩ := reclaiming_eq_true_iff.mp reclaims
  exact (sound thread .allocated).mp (by simp [here, Task.first])

/-- A step that comes inside a function is an `advance` from its entry. -/
theorem advance_of_entering (taken : step state action = some next)
    (entering : state.threads action.actor = .entering task) : ∃ thread, action = .advance thread := by
  cases action with
  | call thread other =>
    rw [Action.actor] at entering
    simp [step, entering] at taken
  | advance thread => exact ⟨thread, rfl⟩

/-- A deadlock comes about by an overlap of `allocate` and `reclaim_expired` -/
theorem overlaps_of_deadlocked (sound : Sound state) (clear : ¬ Deadlocked state)
    (taken : step state action = some next) (stuck : Deadlocked next) : overlaps state action = true := by
  obtain ⟨position, moves⟩ := moves_of_step sound taken
  rw [deadlocked_iff sound] at clear
  obtain ⟨first, second, allocates, reclaims⟩ := (deadlocked_iff (sound.moves moves)).mp stuck
  rw [moves.threads] at allocates reclaims
  by_cases isFirst : first = action.actor
  · subst isFirst
    rw [Function.update_self] at allocates
    obtain ⟨now, clientId, rfl⟩ := allocating_eq_true_iff.mp allocates
    obtain ⟨entering, samePool⟩ := moves.entered _ rfl
    have different : second ≠ action.actor := by
      rintro rfl
      simp [reclaiming] at reclaims
    rw [Function.update_of_ne different, samePool] at reclaims
    obtain ⟨thread, rfl⟩ := advance_of_entering taken entering
    rw [Action.actor] at entering
    simp [overlaps, entering, holder_of_reclaiming sound reclaims, reclaims]
  · rw [Function.update_of_ne isFirst] at allocates
    by_cases isSecond : second = action.actor
    · subst isSecond
      rw [Function.update_self] at reclaims
      obtain ⟨now, isActive, rfl, found⟩ := reclaiming_eq_true_iff.mp reclaims
      obtain ⟨entering, samePool⟩ := moves.entered _ rfl
      rw [samePool] at found
      obtain ⟨thread, rfl⟩ := advance_of_entering taken entering
      rw [Action.actor] at entering
      simp [overlaps, entering, found, holder_of_allocating sound allocates, allocates]
    · -- both threads stand where they stood, and nobody else can have changed the leases
      rw [Function.update_of_ne isSecond] at reclaims
      obtain ⟨now, isActive, there, -⟩ := reclaiming_eq_true_iff.mp reclaims
      have owner : state.holder .allocated = some second :=
        (sound second .allocated).mp (by simp [there, Task.first])
      have unheld : holds (state.threads action.actor) .allocated = false := by
        by_contra held
        have other := (sound action.actor .allocated).mp (by simpa using held)
        exact isSecond (Option.some.inj (owner.symm.trans other))
      rw [reclaiming_congr (moves.leases unheld)] at reclaims
      exact absurd ⟨first, second, allocates, reclaims⟩ clear

theorem threads_of_entering (taken : step state (.advance thread) = some next)
    (entering : state.threads thread = .entering task) :
    next.threads = Function.update state.threads thread (.inside task) ∧ next.pool = state.pool := by
  simp only [step, State.advance, entering, State.lock] at taken
  split at taken <;> [skip; cases taken]
  cases taken
  exact ⟨rfl, rfl⟩

theorem deadlocked_of_overlaps (sound : Sound state) (taken : step state action = some next)
    (overlap : overlaps state action = true) : Deadlocked next := by
  obtain ⟨position, moves⟩ := moves_of_step sound taken
  rw [deadlocked_iff (sound.moves moves)]
  cases action with
  | call thread task => cases overlap
  | advance thread =>
    simp only [overlaps] at overlap
    split at overlap
    · rename_i now clientId entering
      obtain ⟨threads, pool⟩ := threads_of_entering taken entering
      obtain ⟨other, -, reclaims⟩ := (Option.any_eq_true _ _).mp overlap
      have different : other ≠ thread := by
        rintro rfl
        simp [entering, reclaiming] at reclaims
      refine ⟨thread, other, by simp [threads, allocating], ?_⟩
      rwa [threads, pool, Function.update_of_ne different]
    · rename_i now isActive entering
      obtain ⟨threads, pool⟩ := threads_of_entering taken entering
      obtain ⟨found, overlap⟩ := Bool.and_eq_true_iff.mp overlap
      obtain ⟨other, -, allocates⟩ := (Option.any_eq_true _ _).mp overlap
      have different : other ≠ thread := by
        rintro rfl
        simp [entering, allocating] at allocates
      refine ⟨other, thread, ?_, by simp [threads, pool, reclaiming, found]⟩
      rwa [threads, Function.update_of_ne different]
    · cases overlap

theorem deadlocked_iff_overlaps (sound : Sound state) (clear : ¬ Deadlocked state)
    (taken : step state action = some next) : ¬ Deadlocked next ↔ overlaps state action = false := by
  constructor
  · intro clear'
    by_contra overlap
    exact clear' (deadlocked_of_overlaps sound taken (by simpa using overlap))
  · intro calm stuck
    simp [overlaps_of_deadlocked sound clear taken stuck] at calm

/-- No state of a run has two threads with a mutex each that wait for the other's, exactly if in
no step of it an `allocate` and a `reclaim_expired` with leases to give back come to be between
their locks at once. -/
theorem deadlock_free_iff (pool : IpPool) {actions : List Action}
    (reached : Transition.run step (.start pool) actions = some final) :
    (∀ n middle, Transition.run step (.start pool) (actions.take n) = some middle → ¬ Deadlocked middle) ↔
      Transition.Meets step (fun state action => overlaps state action = false) (.start pool) actions := by
  have preserved : ∀ state action next, Sound state → step state action = some next → Sound next := by
    intro state action next sound taken
    obtain ⟨position, moves⟩ := moves_of_step sound taken
    exact sound.moves moves
  refine Transition.always_iff_meets preserved ?_ ?_ ?_ reached
  · intro state action next sound clear taken
    exact deadlocked_iff_overlaps sound clear taken
  · intro thread mutex
    simp [State.start]
  · rintro ⟨first, second, held, -⟩
    cases held

namespace Expired

def address : IpAddr := .v4 #v[10, 200, 0, 5]

def pool : IpPool where
  leaseDuration := 5
  available := [.v4 #v[10, 200, 0, 4]]
  allocated := Table.empty.insert address ⟨"ik:00", 0, 5⟩

/-- Two clients connect at once: one is in `reclaim_expired`, the other one already in
`allocate`. -/
def actions : List Action :=
  [.call 0 (.allocate 7 "ik:01"), .call 1 (.reclaimExpired 7 fun _ => false), .advance 0, .advance 1]

def calmActions : List Action :=
  [.call 1 (.reclaimExpired 7 fun _ => false), .advance 1, .advance 1, .advance 1,
    .call 0 (.allocate 7 "ik:01"), .advance 0, .advance 0, .advance 0]

def calmFinal : State := (Transition.run step (.start pool) calmActions).getD (.start pool)

end Expired

/-- One thread has `available` and waits for `allocated`, the other one the reverse. -/
theorem allocate_reclaim_deadlock :
    ∃ state, Transition.run step (.start Expired.pool) Expired.actions = some state ∧ Deadlocked state := by
  refine ⟨_, rfl, 0, 1, ?_⟩
  decide

theorem sequential_calls_deadlock_free :
    Transition.run step (.start Expired.pool) Expired.calmActions = some Expired.calmFinal ∧
      ∀ n middle, Transition.run step (.start Expired.pool) (Expired.calmActions.take n) = some middle →
        ¬ Deadlocked middle := by
  have reached : Transition.run step (.start Expired.pool) Expired.calmActions = some Expired.calmFinal := rfl
  exact ⟨reached, (deadlock_free_iff Expired.pool reached).mpr (by decide)⟩

end Rvpn.Tun.PoolLocks
