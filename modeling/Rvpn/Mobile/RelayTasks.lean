import Rvpn.Crypto.Primitives
import Rvpn.Lib.Slots
import Rvpn.Lib.Transition

/-! The tasks of a phone's connections over the session's channels, which outlive them. -/

namespace Rvpn.Mobile

inductive TaskKind where
  | tx | rx | keepalive
  deriving DecidableEq

/-- A task subscribes to the signals in its own body; from then on it is at its `select!`, between two of
them, or over. -/
inductive RelayTaskPhase where
  | spawned | selecting | busy | done
  deriving DecidableEq

structure RelayTask where
  connection : Nat
  kind : TaskKind
  phase : RelayTaskPhase
  /-- Signals not yet received, each with the connection that sent it; `stop` and `request_reconnect` send
  theirs from outside. -/
  inbox : List (Option Nat)
  deriving DecidableEq

/-- `run_packet_relay`: at its `select!`, past the signal it sends, at its end. -/
inductive RelayPhase where
  | running | signalled | returned
  deriving DecidableEq

structure RelayTasks where
  relays : List RelayPhase := []
  tasks : List RelayTask := []
  channel : List Bytes := []
  /-- History: a signal's sender and the connection of the task that received it. -/
  heard : List (Option Nat × Nat) := []
  /-- History: for each packet taken, the task's connection and where its relay was. -/
  consumed : List (Nat × RelayPhase) := []
  deriving DecidableEq

inductive RelayAction where
  | enqueue (packet : Bytes)
  | begin
  | subscribe (index : Nat)
  /-- A branch of the `select!` other than the signal's, and the way back. -/
  | work (index : Nat) | resume (index : Nat)
  | receive (index : Nat)
  | hear (index : Nat)
  | fail (index : Nat) | quit (index : Nat)
  | signal (k : Nat) | finish (k : Nat)
  | request
  deriving DecidableEq

namespace RelayTask

/-- A signal reaches the tasks that have subscribed. A second one replaces the first, but the receiver is told as much
and the task ends all the same. -/
def deliver (origin : Option Nat) (task : RelayTask) : RelayTask :=
  if task.phase = .selecting ∨ task.phase = .busy then { task with inbox := task.inbox ++ [origin] } else task

@[simp] theorem deliver_connection (origin : Option Nat) (task : RelayTask) :
    (task.deliver origin).connection = task.connection := by
  unfold deliver
  split <;> rfl

theorem deliver_received (task : RelayTask) (awake : task.phase ≠ .spawned) (origin : Option Nat) :
    (task.deliver origin).phase = .done ∨ (task.deliver origin).inbox ≠ [] := by
  unfold deliver
  split
  · exact .inr (by simp)
  · rename_i deaf
    refine .inl ?_
    cases phase : task.phase with
    | spawned => exact absurd phase awake
    | selecting => exact absurd (.inl phase) deaf
    | busy => exact absurd (.inr phase) deaf
    | done => rfl

end RelayTask

namespace RelayTasks

def spawned (k : Nat) : List RelayTask :=
  [TaskKind.tx, .rx, .keepalive].map fun kind => ⟨k, kind, .spawned, []⟩

def taskIn (state : RelayTasks) (index : Nat) (phase : RelayTaskPhase) : Option RelayTask :=
  (state.tasks[index]?).filter fun task => task.phase = phase

def setTask (state : RelayTasks) (index : Nat) (task : RelayTask) : RelayTasks :=
  { state with tasks := state.tasks.set index task }

/-- `shutdown_tx.send(())`. -/
def broadcast (state : RelayTasks) (origin : Option Nat) : RelayTasks :=
  { state with tasks := state.tasks.map (RelayTask.deliver origin) }

def step (state : RelayTasks) : RelayAction → Option RelayTasks
  | .enqueue packet => some { state with channel := state.channel ++ [packet] }
  | .begin =>
    if state.relays.all (· = .returned) then
      some { state with
        relays := state.relays ++ [.running], tasks := state.tasks ++ spawned state.relays.length }
    else none
  | .subscribe index =>
    (state.taskIn index .spawned).map fun task => state.setTask index { task with phase := .selecting }
  | .work index => (state.taskIn index .selecting).map fun task => state.setTask index { task with phase := .busy }
  | .resume index => (state.taskIn index .busy).map fun task => state.setTask index { task with phase := .selecting }
  | .receive index =>
    (state.taskIn index .selecting).bind fun task =>
      (state.relays[task.connection]?).bind fun relay =>
        if task.kind = .tx ∧ state.channel ≠ [] then
          some { state with
            channel := state.channel.tail, consumed := state.consumed ++ [(task.connection, relay)] }
        else none
  | .hear index =>
    (state.taskIn index .selecting).bind fun task =>
      if task.inbox ≠ [] then
        some { state.setTask index { task with phase := .done } with
          heard := state.heard ++ task.inbox.map fun origin => (origin, task.connection) }
      else none
  | .fail index =>
    (state.taskIn index .busy).map fun task =>
      (state.setTask index { task with phase := .done }).broadcast (some task.connection)
  | .quit index => (state.taskIn index .busy).map fun task => state.setTask index { task with phase := .done }
  | .signal k =>
    if state.relays[k]? = some .running ∧ state.tasks.any fun task => task.connection = k && task.phase = .done then
      some { state.broadcast (some k) with relays := state.relays.set k .signalled }
    else none
  | .finish k =>
    if state.relays[k]? = some .signalled then some { state with relays := state.relays.set k .returned } else none
  | .request => some (state.broadcast none)

/-- A relay sends its signal when all its tasks have subscribed, and a task that has a signal neither
takes a packet nor sends a signal. -/
def prompt (state : RelayTasks) : RelayAction → Bool
  | .receive index | .fail index => (state.tasks[index]?).all fun task => task.inbox.isEmpty
  | .signal k => state.tasks.all fun task => task.connection ≠ k || task.phase ≠ .spawned
  | _ => true

structure Attended (relays : List RelayPhase) (task : RelayTask) : Prop where
  within : task.connection < relays.length
  signalled : relays[task.connection]? ≠ some .running → task.phase = .done ∨ task.inbox ≠ []
  inbox : ∀ sender, some sender ∈ task.inbox → task.connection ≤ sender

structure Isolated (state : RelayTasks) : Prop where
  earlier : ∀ k, k + 1 < state.relays.length → state.relays[k]? = some .returned
  tasks : ∀ task ∈ state.tasks, Attended state.relays task
  heard : ∀ sender receiver, (some sender, receiver) ∈ state.heard → receiver ≤ sender
  consumed : ∀ k relay, (k, relay) ∈ state.consumed → relay = .running

variable {state next : RelayTasks} {index : Nat} {task : RelayTask} {phase : RelayTaskPhase}

theorem taskIn_eq_some (found : state.taskIn index phase = some task) :
    state.tasks[index]? = some task ∧ task.phase = phase := by
  obtain ⟨present, same⟩ := Option.filter_eq_some_iff.mp found
  exact ⟨present, by simpa using same⟩

theorem Attended.deliver {relays : List RelayPhase} {origin : Option Nat} (attended : Attended relays task)
    (later : ∀ sender, origin = some sender → task.connection ≤ sender) :
    Attended relays (task.deliver origin) := by
  unfold RelayTask.deliver
  split
  · refine ⟨attended.within, fun _ => .inr (by simp), ?_⟩
    intro sender listed
    rcases List.mem_append.mp listed with old | new
    · exact attended.inbox sender old
    · exact later sender (List.mem_singleton.mp new).symm
  · exact attended

namespace Isolated

section

variable (isolated : Isolated state)
include isolated

theorem setTask (index : Nat) (kept : Attended state.relays task) :
    Isolated (state.setTask index task) := by
  refine { isolated with tasks := ?_ }
  intro other listed
  rcases List.mem_or_eq_of_mem_set listed with old | rfl
  · exact isolated.tasks other old
  · exact kept

theorem move (found : state.taskIn index phase = some task) (live : phase ≠ .done)
    (later : RelayTaskPhase) : Isolated (state.setTask index { task with phase := later }) := by
  obtain ⟨present, same⟩ := taskIn_eq_some found
  have attended := isolated.tasks task (List.mem_of_getElem? present)
  refine isolated.setTask index { attended with signalled := fun past => .inr ?_ }
  exact (attended.signalled past).resolve_left (by rwa [same])

theorem broadcast (later : ∀ sender, origin = some sender → state.relays.length ≤ sender + 1) :
    Isolated (state.broadcast origin) := by
  refine { isolated with tasks := ?_ }
  intro other listed
  obtain ⟨task, old, rfl⟩ := List.mem_map.mp listed
  have attended := isolated.tasks task old
  refine attended.deliver fun sender same => ?_
  have last := later sender same
  have within := attended.within
  omega

theorem last_of_running (running : state.relays[k]? = some .running) :
    state.relays.length ≤ k + 1 := by
  by_contra more
  have returned := isolated.earlier k (by omega)
  rw [running] at returned
  cases returned

/-- A task without a signal has its relay at the `select!`. -/
theorem running_of_empty (listed : task ∈ state.tasks) (empty : task.inbox = [])
    (live : task.phase ≠ .done) : state.relays[task.connection]? = some .running := by
  by_contra past
  rcases (isolated.tasks task listed).signalled past with finished | pending
  · exact live finished
  · exact pending empty

theorem begin (ready : ∀ relay ∈ state.relays, relay = .returned) :
    Isolated { state with
      relays := state.relays ++ [.running], tasks := state.tasks ++ spawned state.relays.length } := by
  refine { isolated with earlier := ?_, tasks := ?_ }
  · intro k more
    rw [List.length_append, List.length_singleton] at more
    rw [List.getElem?_append_left (by omega), List.getElem?_eq_getElem (by omega)]
    exact congrArg some (ready _ (List.getElem_mem _))
  · intro task listed
    rcases List.mem_append.mp listed with old | new
    · have attended := isolated.tasks task old
      refine ⟨?_, ?_, attended.inbox⟩
      · rw [List.length_append]
        exact Nat.lt_add_right _ attended.within
      · rw [List.getElem?_append_left attended.within]
        exact attended.signalled
    · obtain ⟨kind, -, rfl⟩ := List.mem_map.mp new
      refine ⟨by simp, ?_, nofun⟩
      intro past
      exact absurd (by simp) past

theorem signal (running : state.relays[k]? = some .running)
    (subscribed : ∀ task ∈ state.tasks, task.connection = k → task.phase ≠ .spawned) :
    Isolated { state.broadcast (some k) with relays := state.relays.set k .signalled } := by
  have last := isolated.last_of_running running
  have sent : Isolated (state.broadcast (some k)) := isolated.broadcast (by rintro sender ⟨⟩; exact last)
  refine { sent with earlier := ?_, tasks := ?_ }
  · intro other more
    rw [List.length_set] at more
    rw [List.getElem?_set_ne (by omega)]
    exact isolated.earlier other more
  · intro other listed
    have attended := sent.tasks other listed
    obtain ⟨task, old, rfl⟩ := List.mem_map.mp listed
    refine ⟨by rw [List.length_set]; exact attended.within, ?_, attended.inbox⟩
    intro past
    by_cases same : k = task.connection
    · exact task.deliver_received (subscribed task old same.symm) (some k)
    · refine attended.signalled fun running => past ?_
      rw [RelayTask.deliver_connection] at running ⊢
      rwa [List.getElem?_set_ne same]

theorem finish (signalled : state.relays[k]? = some .signalled) :
    Isolated { state with relays := state.relays.set k .returned } := by
  refine { isolated with earlier := ?_, tasks := ?_ }
  · intro other more
    rw [List.length_set] at more
    by_cases same : k = other
    · subst same
      rw [List.getElem?_set_self (by omega)]
    · rw [List.getElem?_set_ne same]
      exact isolated.earlier other more
  · intro task listed
    have attended := isolated.tasks task listed
    refine ⟨by rw [List.length_set]; exact attended.within, fun past => attended.signalled ?_, attended.inbox⟩
    intro running
    by_cases same : k = task.connection
    · rw [← same, signalled] at running
      cases running
    · exact past (by rwa [List.getElem?_set_ne same])

theorem step (met : prompt state action = true)
    (taken : RelayTasks.step state action = some next) : Isolated next := by
  cases action with
  | enqueue packet =>
    cases taken
    exact { isolated with }
  | begin =>
    obtain ⟨ready, rfl⟩ := Transition.of_guard taken
    exact isolated.begin (by simpa using ready)
  | subscribe index | work index | resume index | quit index =>
    obtain ⟨task, found, rfl⟩ := Option.map_eq_some_iff.mp taken
    exact isolated.move found nofun _
  | receive index =>
    obtain ⟨task, found, rest⟩ := Option.bind_eq_some_iff.mp taken
    obtain ⟨relay, known, guarded⟩ := Option.bind_eq_some_iff.mp rest
    obtain ⟨-, same⟩ := Option.ite_none_right_eq_some.mp guarded
    obtain ⟨present, selecting⟩ := taskIn_eq_some found
    have empty : task.inbox = [] := by simpa [prompt, present] using met
    have running := isolated.running_of_empty (List.mem_of_getElem? present) empty (by rw [selecting]; nofun)
    cases same
    refine { isolated with consumed := ?_ }
    intro k phase listed
    rcases List.mem_append.mp listed with old | new
    · exact isolated.consumed k phase old
    · cases List.mem_singleton.mp new
      exact Option.some.inj (known.symm.trans running)
  | hear index =>
    obtain ⟨task, found, pending, rfl⟩ := Transition.guarded_eq_some_iff.mp taken
    have attended := isolated.tasks task (List.mem_of_getElem? (taskIn_eq_some found).1)
    refine { isolated.move found nofun .done with heard := ?_ }
    intro sender receiver listed
    rcases List.mem_append.mp listed with old | new
    · exact isolated.heard sender receiver old
    · obtain ⟨origin, received, same⟩ := List.mem_map.mp new
      obtain ⟨rfl, rfl⟩ := Prod.mk.inj same
      exact attended.inbox sender received
  | fail index =>
    obtain ⟨task, found, rfl⟩ := Option.map_eq_some_iff.mp taken
    obtain ⟨present, busy⟩ := taskIn_eq_some found
    have listed := List.mem_of_getElem? present
    have empty : task.inbox = [] := by simpa [prompt, present] using met
    have running := isolated.running_of_empty listed empty (by rw [busy]; nofun)
    refine (isolated.move found nofun .done).broadcast ?_
    rintro sender ⟨⟩
    exact isolated.last_of_running running
  | signal k =>
    obtain ⟨⟨running, -⟩, rfl⟩ := Transition.of_guard taken
    refine isolated.signal running ?_
    simpa [prompt, or_iff_not_imp_left] using met
  | finish k =>
    obtain ⟨signalled, rfl⟩ := Transition.of_guard taken
    exact isolated.finish signalled
  | request =>
    cases taken
    exact isolated.broadcast nofun

end

end Isolated

/-- If a relay sends its signal when all its tasks have subscribed, and a task with a signal to receive neither takes
a packet nor sends a signal: no task takes a packet once its connection's relay has returned, every task still running
then has a signal to receive, and no signal of a connection is received by a task of the next. -/
theorem relay_tasks_isolated (actions : List RelayAction) (final : RelayTasks)
    (met : Transition.Meets step (fun state action => prompt state action = true) {} actions)
    (reached : Transition.run step {} actions = some final) :
    (∀ k, (k, RelayPhase.returned) ∉ final.consumed) ∧
    (∀ k, final.relays[k]? = some .returned → ∀ task ∈ final.tasks, task.connection = k → task.phase ≠ .done →
      task.inbox ≠ []) ∧
    (∀ k, (some k, k + 1) ∉ final.heard) := by
  have initially : Isolated {} := ⟨nofun, nofun, nofun, nofun⟩
  have isolated : Isolated final := Transition.run_preserves_of_meets
    (fun state action next holds met taken => holds.step met taken) initially met reached
  refine ⟨?_, ?_, ?_⟩
  · intro k listed
    cases isolated.consumed k .returned listed
  · rintro k returned task listed rfl live
    refine ((isolated.tasks task listed).signalled ?_).resolve_left live
    rw [returned]
    nofun
  · intro k listed
    have earlier := isolated.heard k (k + 1) listed
    omega

end RelayTasks

namespace RelayTasksSample

/-- The server closes the first connection; its other tasks end before the second connection starts. -/
def orderlyEnd : List RelayAction :=
  [.begin, .subscribe 0, .subscribe 1, .subscribe 2, .enqueue [69], .receive 0, .work 0, .resume 0, .work 1,
    .fail 1, .signal 0, .finish 0, .hear 0, .begin, .subscribe 3, .subscribe 4, .subscribe 5, .enqueue [70],
    .receive 3]

/-- The keepalive of the first connection subscribes when the signals have been sent. -/
def lateKeepalive : List RelayAction :=
  [.begin, .subscribe 0, .subscribe 1, .work 1, .fail 1, .signal 0, .finish 0, .subscribe 2]

/-- The first `run_tx` takes a packet although it has a signal to receive, and the keepalive ends the second
connection with its own. -/
def zombieTasks : List RelayAction :=
  [.enqueue [69], .receive 0, .begin, .subscribe 4, .work 2, .fail 2, .hear 4]

end RelayTasksSample

namespace RelayTasks

open RelayTasksSample in
theorem orderly_end_isolated :
    ∃ final, Transition.run step {} orderlyEnd = some final ∧ final.relays = [.returned, .running] ∧
      final.consumed = [(0, .running), (1, .running)] ∧ (∀ k, (k, RelayPhase.returned) ∉ final.consumed) ∧
      ∀ k, (some k, k + 1) ∉ final.heard := by
  refine Transition.exists_of_evaluated (p := fun final => final.relays = [.returned, .running] ∧
    final.consumed = [(0, .running), (1, .running)]) (by decide +kernel) fun final reached facts => ?_
  have correct := relay_tasks_isolated orderlyEnd final (by decide +kernel) reached
  exact ⟨facts.1, facts.2, correct.1, correct.2.2⟩

open RelayTasksSample in
theorem zombie_tasks_interfere :
    (∃ final, Transition.run step {} lateKeepalive = some final ∧ final.relays = [.returned] ∧
      final.tasks[2]? = some ⟨0, .keepalive, .selecting, []⟩) ∧
    ∃ final, Transition.run step {} (lateKeepalive ++ zombieTasks) = some final ∧
      (0, RelayPhase.returned) ∈ final.consumed ∧ (some 0, 1) ∈ final.heard := by
  decide +kernel

end RelayTasks

end Rvpn.Mobile
