import Rvpn.Mux.Protocol
import Rvpn.Lib.Transition
import Rvpn.Lib.Table
import Rvpn.Lib.Slots

/-! The flow map of a session, whose client may use a flow id again. A flow is named by its place in the order of
spawning. -/

namespace Rvpn.Server

open Mux (FlowId maxFlowsPerSession)
open Transition

/-- A relay or a writer: in its loop, on its way to the map's lock after a failure, with only its
`CloseFlow` left to send, at its end. -/
inductive TaskPhase where
  | running | removing | closing | done
  deriving DecidableEq

structure FlowTask where
  phase : TaskPhase
  aborted : Bool
  deriving DecidableEq

namespace FlowTask

def spawned : FlowTask := ⟨.running, false⟩

def active (task : FlowTask) : Bool := !task.aborted && (task.phase = .running || task.phase = .removing)

def abort (task : FlowTask) : FlowTask := { task with aborted := true }

end FlowTask

structure FlowTasks where
  id : FlowId
  inserted : Bool
  writer : FlowTask
  relay : FlowTask
  deriving DecidableEq

/-- Where the receive loop is: between two frames, connecting to a target, waiting for the lock with
the spawned tasks at hand, past the insertion. -/
inductive Handler where
  | idle | connecting (f : FlowId) | storing (index : Nat) | stored (f : FlowId)
  deriving DecidableEq

/-- The `select!` of the session runs, has ended, and the flows have been cleaned up. -/
inductive SessionPhase where
  | serving | ended | tornDown
  deriving DecidableEq

structure FlowTable where
  flows : List FlowTasks
  table : Table FlowId Nat
  handler : Handler
  phase : SessionPhase
  /-- History: a task at its exit, and the flow whose entry it has taken out. -/
  removals : List (Nat × Nat)

inductive TableAction where
  | createFlow (f : FlowId) | createFailed | connected | insert | finish
  | closeFlow (f : FlowId)
  /-- A data frame, from the wire or from the buffer, finds the queue of its flow full. -/
  | overSend (f : FlowId)
  | relayExit (index : Nat) | relayRemove (index : Nat) | relayClose (index : Nat)
  | relayGone (index : Nat) | relayCancel (index : Nat)
  | writerFail (index : Nat) | writerRemove (index : Nat) | writerClose (index : Nat)
  | writerEnd (index : Nat) | writerGone (index : Nat) | writerCancel (index : Nat)
  | sessionEnd | teardown
  deriving DecidableEq

namespace FlowTable

def new : FlowTable := ⟨[], .empty, .idle, .serving, []⟩

def moveRelay (state : FlowTable) (index : Nat) (task : FlowTask) : FlowTable :=
  { state with flows := state.flows.modify index fun flow => { flow with relay := task } }

def moveWriter (state : FlowTable) (index : Nat) (task : FlowTask) : FlowTable :=
  { state with flows := state.flows.modify index fun flow => { flow with writer := task } }

def abortBoth (flow : FlowTasks) : FlowTasks := { flow with relay := flow.relay.abort, writer := flow.writer.abort }

/-- `remove_flow`. -/
def removeFlow (state : FlowTable) (f : FlowId) : FlowTable :=
  match state.table.lookup f with
  | some index => { state with flows := state.flows.modify index abortBoth, table := state.table.erase f }
  | none => state

/-- The relay of the flow, if it is in the given phase and the session lets it step on. -/
def relayIn (state : FlowTable) (index : Nat) (phase : TaskPhase) : Option FlowTasks :=
  (state.flows[index]?).filter fun flow => flow.relay.phase = phase

def writerIn (state : FlowTable) (index : Nat) (phase : TaskPhase) : Option FlowTasks :=
  (state.flows[index]?).filter fun flow => flow.writer.phase = phase

def step (state : FlowTable) : TableAction → Option FlowTable
  | .createFlow f =>
    if state.phase = .serving ∧ state.handler = .idle then
      if state.table.entries.length < maxFlowsPerSession then some { state with handler := .connecting f }
      else some state
    else none
  | .createFailed =>
    match state.handler with
    | .connecting _ => some { state with handler := .idle }
    | _ => none
  | .connected =>
    match state.handler with
    | .connecting f =>
      some { state with
        flows := state.flows ++ [⟨f, false, .spawned, .spawned⟩], handler := .storing state.flows.length }
    | _ => none
  | .insert =>
    match state.handler with
    | .storing index =>
      (state.flows[index]?).map fun flow =>
        { state with
          flows := state.flows.modify index fun flow => { flow with inserted := true }
          table := state.table.insert flow.id index
          handler := .stored flow.id }
    | _ => none
  | .finish =>
    match state.handler with
    | .stored _ => some { state with handler := .idle }
    | _ => none
  | .closeFlow f =>
    if state.phase = .serving ∧ state.handler = .idle then some (state.removeFlow f) else none
  | .overSend f =>
    if state.phase = .serving ∧ (state.handler = .idle ∨ state.handler = .stored f) then some (state.removeFlow f)
    else none
  | .relayExit index =>
    (state.relayIn index .running).map fun flow => state.moveRelay index { flow.relay with phase := .removing }
  | .relayRemove index =>
    (state.relayIn index .removing).map fun flow =>
      let next := state.moveRelay index { flow.relay with phase := .closing }
      match state.table.lookup flow.id with
      | some found =>
        { next with
          flows := next.flows.modify found fun flow => { flow with writer := flow.writer.abort }
          table := state.table.erase flow.id
          removals := state.removals ++ [(index, found)] }
      | none => next
  | .relayClose index =>
    (state.relayIn index .closing).map fun flow => state.moveRelay index { flow.relay with phase := .done }
  | .relayGone index =>
    -- The receiver of `tx` goes with the session's sender.
    if state.phase = .serving then none
    else (state.relayIn index .running).map fun flow => state.moveRelay index { flow.relay with phase := .done }
  | .relayCancel index =>
    (state.flows[index]?).bind fun flow =>
      if flow.relay.aborted then some (state.moveRelay index { flow.relay with phase := .done }) else none
  | .writerFail index =>
    -- Only an inserted flow has anything to write.
    (state.writerIn index .running).bind fun flow =>
      if flow.inserted then some (state.moveWriter index { flow.writer with phase := .removing }) else none
  | .writerRemove index =>
    (state.writerIn index .removing).map fun flow =>
      match state.table.lookup flow.id with
      | some found =>
        let next := state.moveWriter index { flow.writer with phase := .closing }
        { next with
          flows := next.flows.modify found fun flow => { flow with relay := flow.relay.abort }
          table := state.table.erase flow.id
          removals := state.removals ++ [(index, found)] }
      | none => state.moveWriter index { flow.writer with phase := .done }
  | .writerClose index =>
    (state.writerIn index .closing).map fun flow => state.moveWriter index { flow.writer with phase := .done }
  | .writerEnd index =>
    -- The queue's sender is in the map or still with the receive loop.
    (state.writerIn index .running).bind fun flow =>
      if state.table.lookup flow.id ≠ some index ∧ state.handler ≠ .storing index then
        some (state.moveWriter index { flow.writer with phase := .done })
      else none
  | .writerGone index =>
    if state.phase = .serving then none
    else (state.writerIn index .running).map fun flow => state.moveWriter index { flow.writer with phase := .done }
  | .writerCancel index =>
    (state.flows[index]?).bind fun flow =>
      if flow.writer.aborted then some (state.moveWriter index { flow.writer with phase := .done }) else none
  | .sessionEnd =>
    -- The receive loop is dropped wherever it waits, with the tasks it has not stored yet.
    if state.phase = .serving then some { state with phase := .ended, handler := .idle } else none
  | .teardown =>
    if state.phase = .ended then
      some { state with
        flows := state.flows.mapIdx fun index flow =>
          if index ∈ state.table.entries.map Prod.snd then abortBoth flow else flow
        table := .empty
        phase := .tornDown }
    else none

def bothDone (flow : FlowTasks) : Bool := flow.relay.phase = .done && flow.writer.phase = .done

/-- A client uses an id again only when the tasks of its earlier flow are over, a relay that fails
finds its flow stored, and the session does not end while a flow is being stored. -/
def orderly (state : FlowTable) : TableAction → Bool
  | .createFlow f => state.flows.all fun flow => flow.id ≠ f || bothDone flow
  | .relayRemove index => state.handler ≠ .storing index
  | .sessionEnd =>
    match state.handler with
    | .storing _ => false
    | _ => true
  | _ => true

def Released (flow : FlowTasks) : Prop := flow.relay.active = false ∧ flow.writer.active = false

/-- The entries are the latest flows of their ids, each with its relay; every other flow is on its way
out, and what has the id of a later flow is over. -/
structure Consistent (state : FlowTable) : Prop where
  listed : ∀ f index, state.table.lookup f = some index → ∃ flow, state.flows[index]? = some flow ∧ flow.id = f ∧
    (state.phase = .serving → flow.relay.active = true)
  latest : ∀ f index other flow, state.table.lookup f = some index → state.flows[other]? = some flow →
    flow.id = f → other ≤ index
  superseded : ∀ (earlier later : Nat) (old flow : FlowTasks), earlier < later →
    state.flows[earlier]? = some old → state.flows[later]? = some flow → old.id = flow.id → bothDone old = true
  unlisted : ∀ index flow, state.flows[index]? = some flow → state.table.lookup flow.id ≠ some index →
    state.handler ≠ .storing index → Released flow
  connecting : ∀ f, state.handler = .connecting f → state.table.lookup f = none ∧
    ∀ flow ∈ state.flows, flow.id = f → bothDone flow = true
  storing : ∀ index, state.handler = .storing index → index + 1 = state.flows.length ∧
    ∃ flow, state.flows[index]? = some flow ∧ flow.relay.active = true ∧ state.table.lookup flow.id = none
  serving : state.handler ≠ .idle → state.phase = .serving
  own : ∀ removal ∈ state.removals, removal.1 = removal.2
  cleared : state.phase = .tornDown → ∀ f, state.table.lookup f = none

structure Progress (before after : FlowTasks) : Prop where
  id : after.id = before.id
  bothDone : bothDone before = true → FlowTable.bothDone after = true
  relay : after.relay.active = true → before.relay.active = true
  writer : after.writer.active = true → before.writer.active = true

theorem Progress.rfl : Progress flow flow :=
  ⟨Eq.refl _, fun done => done, fun active => active, fun active => active⟩

theorem Progress.released (progress : Progress before after) (released : Released before) :
    Released after := by
  refine ⟨Bool.eq_false_iff.mpr fun active => ?_, Bool.eq_false_iff.mpr fun active => ?_⟩
  · exact Bool.false_ne_true (released.1.symm.trans (progress.relay active))
  · exact Bool.false_ne_true (released.2.symm.trans (progress.writer active))

variable {state next : FlowTable}

theorem Consistent.update (consistent : Consistent state) (change : Nat → FlowTasks → FlowTasks)
    (flows : ∀ index, next.flows[index]? = (state.flows[index]?).map (change index))
    (progress : ∀ index flow, state.flows[index]? = some flow → Progress flow (change index flow))
    (handler : next.handler = state.handler) (phase : next.phase = state.phase)
    (fewer : ∀ f index, next.table.lookup f = some index → state.table.lookup f = some index)
    (kept : ∀ index flow, state.flows[index]? = some flow → state.phase = .serving →
      next.table.lookup flow.id = some index ∨ state.handler = .storing index → flow.relay.active = true →
      (change index flow).relay.active = true)
    (removed : ∀ index flow, state.flows[index]? = some flow → state.table.lookup flow.id = some index →
      next.table.lookup flow.id ≠ some index → Released (change index flow))
    (own : ∀ removal ∈ next.removals, removal.1 = removal.2) : Consistent next := by
  have origin (index after) (present : next.flows[index]? = some after) :
      ∃ flow, state.flows[index]? = some flow ∧ change index flow = after ∧ Progress flow after := by
    rw [flows] at present
    obtain ⟨flow, old, rfl⟩ := Option.map_eq_some_iff.mp present
    exact ⟨flow, old, rfl, progress index flow old⟩
  have vacant (f) (absent : state.table.lookup f = none) : next.table.lookup f = none := by
    refine Option.eq_none_iff_forall_ne_some.mpr fun index found => ?_
    cases absent.symm.trans (fewer f index found)
  have length : next.flows.length = state.flows.length := by
    refine Nat.le_antisymm (Nat.le_of_not_lt fun longer => ?_) (Nat.le_of_not_lt fun longer => ?_)
    · have present := flows state.flows.length
      rw [List.getElem?_eq_getElem longer, List.getElem?_eq_none (Nat.le_refl _)] at present
      cases present
    · have present := flows next.flows.length
      rw [List.getElem?_eq_getElem longer, List.getElem?_eq_none (Nat.le_refl _)] at present
      cases present
  refine ⟨?_, ?_, ?_, ?_, ?_, ?_, ?_, own, fun down f => vacant f (consistent.cleared (phase ▸ down) f)⟩
  · intro f index found
    obtain ⟨flow, present, rfl, active⟩ := consistent.listed f index (fewer f index found)
    refine ⟨change index flow, by rw [flows, present]; rfl, (progress index flow present).id, fun serving => ?_⟩
    exact kept index flow present (phase ▸ serving) (.inl found) (active (phase ▸ serving))
  · intro f index other after found present same
    obtain ⟨flow, present, -, moved⟩ := origin other after present
    exact consistent.latest f index other flow (fewer f index found) present (moved.id ▸ same)
  · intro earlier later oldAfter after before oldPresent present same
    obtain ⟨old, oldPresent, -, oldMoved⟩ := origin earlier oldAfter oldPresent
    obtain ⟨flow, present, -, moved⟩ := origin later after present
    rw [oldMoved.id, moved.id] at same
    exact oldMoved.bothDone (consistent.superseded earlier later old flow before oldPresent present same)
  · intro index after present missing elsewhere
    obtain ⟨flow, old, rfl, moved⟩ := origin index after present
    rw [moved.id] at missing
    by_cases found : state.table.lookup flow.id = some index
    · exact removed index flow old found missing
    · exact moved.released (consistent.unlisted index flow old found (handler ▸ elsewhere))
  · intro f connecting
    obtain ⟨absent, others⟩ := consistent.connecting f (handler ▸ connecting)
    refine ⟨vacant f absent, fun after member same => ?_⟩
    obtain ⟨index, present⟩ := List.mem_iff_getElem?.mp member
    obtain ⟨flow, present, -, moved⟩ := origin index after present
    exact moved.bothDone (others flow (List.mem_of_getElem? present) (moved.id ▸ same))
  · intro index storing
    rw [handler] at storing
    obtain ⟨last, flow, present, active, absent⟩ := consistent.storing index storing
    refine ⟨by rw [length, last], change index flow, by rw [flows, present]; rfl, ?_, ?_⟩
    · exact kept index flow present (consistent.serving (by rw [storing]; nofun)) (.inr storing) active
    · rw [(progress index flow present).id]
      exact vacant flow.id absent
  · intro busy
    exact phase.trans (consistent.serving (handler ▸ busy))

def changeAt (index : Nat) (change : FlowTasks → FlowTasks) (other : Nat) (flow : FlowTasks) : FlowTasks :=
  if index = other then change flow else flow

theorem getElem?_changeAt (flows : List FlowTasks) (index other : Nat) (change : FlowTasks → FlowTasks) :
    (flows.modify index change)[other]? = (flows[other]?).map (changeAt index change other) := by
  rw [List.getElem?_modify]
  rfl

theorem changeAt_cases (change : FlowTasks → FlowTasks) (present : state.flows[index]? = some flow)
    (here : state.flows[other]? = some found) :
    (other = index ∧ found = flow ∧ changeAt index change other found = change flow) ∨
      (other ≠ index ∧ changeAt index change other found = found) := by
  by_cases same : index = other
  · subst same
    cases present.symm.trans here
    exact .inl ⟨rfl, rfl, if_pos rfl⟩
  · exact .inr ⟨Ne.symm same, if_neg same⟩

theorem Progress.changeAt (progress : Progress flow (change flow)) (present : state.flows[index]? = some flow)
    (other : Nat) (found : FlowTasks) (here : state.flows[other]? = some found) :
    Progress found (changeAt index change other found) := by
  rcases changeAt_cases change present here with ⟨rfl, rfl, changed⟩ | ⟨-, same⟩
  · rw [changed]
    exact progress
  · rw [same]
    exact .rfl

theorem Consistent.moved (consistent : Consistent state) (present : state.flows[index]? = some flow)
    (progress : Progress flow (change flow))
    (kept : state.phase = .serving → state.table.lookup flow.id = some index ∨ state.handler = .storing index →
      flow.relay.active = true → (change flow).relay.active = true) :
    Consistent { state with flows := state.flows.modify index change } := by
  refine consistent.update (changeAt index change) (fun other => getElem?_changeAt ..) ?_ rfl rfl
    (fun _ _ found => found) ?_ (fun _ _ _ found missing => absurd found missing) consistent.own
  · exact progress.changeAt present
  · intro other found here serving needed active
    rcases changeAt_cases change present here with ⟨rfl, rfl, changed⟩ | ⟨-, same⟩
    · rw [changed]
      exact kept serving needed active
    · rw [same]
      exact active

theorem Consistent.removed (consistent : Consistent state) {f : FlowId} {index : Nat} {flow : FlowTasks}
    {change : FlowTasks → FlowTasks} {removals : List (Nat × Nat)} (found : state.table.lookup f = some index)
    (present : state.flows[index]? = some flow) (progress : Progress flow (change flow))
    (released : Released (change flow)) (own : ∀ removal ∈ removals, removal.1 = removal.2) :
    Consistent { state with
      flows := state.flows.modify index change, table := state.table.erase f, removals := removals } := by
  have named : flow.id = f := by
    obtain ⟨other, here, same, -⟩ := consistent.listed f index found
    cases present.symm.trans here
    exact same
  refine consistent.update (changeAt index change) (fun other => getElem?_changeAt ..) ?_ rfl rfl ?_ ?_ ?_ own
  · exact progress.changeAt present
  · intro other found listed
    exact (Table.of_lookup_erase listed).2
  · intro other entry here serving needed active
    rcases changeAt_cases change present here with ⟨rfl, rfl, -⟩ | ⟨-, same⟩
    · rcases needed with listed | storing
      · rw [Table.lookup_erase, if_pos named] at listed
        cases listed
      · obtain ⟨-, other, here, -, absent⟩ := consistent.storing _ storing
        cases present.symm.trans here
        cases absent.symm.trans (named ▸ found)
    · rw [same]
      exact active
  · intro other entry here listed missing
    rcases changeAt_cases change present here with ⟨rfl, rfl, changed⟩ | ⟨different, -⟩
    · rw [changed]
      exact released
    · rw [Table.lookup_erase] at missing
      split at missing
      · rename_i same
        rw [same, found] at listed
        exact absurd (Option.some.inj listed).symm different
      · exact absurd listed missing

theorem active_removing {task : FlowTask} (running : task.phase = .running) :
    FlowTask.active { task with phase := .removing } = task.active := by
  simp [FlowTask.active, running]

theorem inactive_done (task : FlowTask) : FlowTask.active { task with phase := .done } = false := by
  simp [FlowTask.active]

theorem inactive_closing (task : FlowTask) : FlowTask.active { task with phase := .closing } = false := by
  simp [FlowTask.active]

theorem inactive_abort (task : FlowTask) : task.abort.active = false := rfl

theorem Consistent.removeFlow (consistent : Consistent state) (f : FlowId) : Consistent (state.removeFlow f) := by
  unfold FlowTable.removeFlow
  split
  · rename_i index found
    obtain ⟨flow, present, -, -⟩ := consistent.listed f index found
    refine consistent.removed found present ?_ ⟨inactive_abort _, inactive_abort _⟩ consistent.own
    exact ⟨rfl, fun done => done, nofun, nofun⟩
  · exact consistent

theorem Consistent.found_own (consistent : Consistent state) (present : state.flows[index]? = some flow)
    (listed : state.table.lookup flow.id = some found) (unfinished : bothDone flow = false) : found = index := by
  obtain ⟨other, here, same, -⟩ := consistent.listed flow.id found listed
  rcases Nat.lt_or_eq_of_le (consistent.latest flow.id found index flow listed present rfl) with before | equal
  · have finished := consistent.superseded index found flow other before present here same.symm
    exact absurd finished (Bool.eq_false_iff.mp unfinished)
  · exact equal.symm

theorem relayIn_eq_some_iff {index : Nat} {phase : TaskPhase} {flow : FlowTasks} :
    state.relayIn index phase = some flow ↔ state.flows[index]? = some flow ∧ flow.relay.phase = phase := by
  simp [relayIn]

theorem writerIn_eq_some_iff {index : Nat} {phase : TaskPhase} {flow : FlowTasks} :
    state.writerIn index phase = some flow ↔ state.flows[index]? = some flow ∧ flow.writer.phase = phase := by
  simp [writerIn]

section

variable (consistent : Consistent state)
include consistent

theorem Consistent.moveRelay (present : state.flows[index]? = some flow)
    (ends : flow.relay.phase = .done → task.phase = .done)
    (calm : task.active = true → flow.relay.active = true)
    (kept : state.phase = .serving → flow.relay.active = true → task.active = true) :
    Consistent (state.moveRelay index task) := by
  refine consistent.moved present ⟨rfl, fun finished => ?_, calm, fun active => active⟩ fun serving _ => kept serving
  simp only [FlowTable.bothDone, Bool.and_eq_true, decide_eq_true_eq] at *
  exact ⟨ends finished.1, finished.2⟩

theorem Consistent.moveWriter (present : state.flows[index]? = some flow)
    (ends : flow.writer.phase = .done → task.phase = .done)
    (calm : task.active = true → flow.writer.active = true) : Consistent (state.moveWriter index task) := by
  refine consistent.moved present ⟨rfl, fun finished => ?_, fun active => active, calm⟩ fun _ _ active => active
  simp only [FlowTable.bothDone, Bool.and_eq_true, decide_eq_true_eq] at *
  exact ⟨finished.1, ends finished.2⟩

theorem Consistent.endRelay (present : state.flows[index]? = some flow)
    (idle : state.phase = .serving → flow.relay.active = false) :
    Consistent (state.moveRelay index { flow.relay with phase := .done }) := by
  refine consistent.moveRelay present (fun _ => rfl) (fun active => ?_) fun serving active => ?_
  · cases (inactive_done _).symm.trans active
  · cases (idle serving).symm.trans active

theorem Consistent.endWriter (present : state.flows[index]? = some flow) :
    Consistent (state.moveWriter index { flow.writer with phase := .done }) := by
  refine consistent.moveWriter present (fun _ => rfl) fun active => ?_
  cases (inactive_done _).symm.trans active

theorem Consistent.own_append (index : Nat) :
    ∀ removal ∈ state.removals ++ [(index, index)], removal.1 = removal.2 := by
  exact List.forall_mem_append.mpr ⟨consistent.own, List.forall_mem_singleton.mpr rfl⟩

theorem Consistent.relayRemove (stored : state.handler ≠ .storing index)
    (taken : step state (.relayRemove index) = some next) :
    Consistent next := by
  obtain ⟨flow, found, rfl⟩ := Option.map_eq_some_iff.mp taken
  obtain ⟨present, removing⟩ := relayIn_eq_some_iff.mp found
  have unfinished : bothDone flow = false := by simp [bothDone, removing]
  split
  · rename_i found listed
    obtain rfl := consistent.found_own present listed unfinished
    simp only [FlowTable.moveRelay, List.modify_modify_eq]
    refine consistent.removed listed present ?_ ⟨inactive_closing _, inactive_abort _⟩ (consistent.own_append _)
    refine ⟨rfl, fun finished => absurd finished (Bool.eq_false_iff.mp unfinished), fun active => ?_, nofun⟩
    exact absurd active (Bool.eq_false_iff.mp (inactive_closing _))
  · rename_i absent
    have released := consistent.unlisted index flow present (by rw [absent]; nofun) stored
    refine consistent.moveRelay present (fun done => ?_) (fun active => ?_) fun _ active => ?_
    · cases removing.symm.trans done
    · exact absurd active (Bool.eq_false_iff.mp (inactive_closing _))
    · cases released.1.symm.trans active

theorem Consistent.writerRemove (taken : step state (.writerRemove index) = some next) : Consistent next := by
  obtain ⟨flow, found, rfl⟩ := Option.map_eq_some_iff.mp taken
  obtain ⟨present, removing⟩ := writerIn_eq_some_iff.mp found
  have unfinished : bothDone flow = false := by simp [bothDone, removing]
  split
  · rename_i found listed
    obtain rfl := consistent.found_own present listed unfinished
    simp only [FlowTable.moveWriter, List.modify_modify_eq]
    refine consistent.removed listed present ?_ ⟨inactive_abort _, inactive_closing _⟩ (consistent.own_append _)
    refine ⟨rfl, fun finished => absurd finished (Bool.eq_false_iff.mp unfinished), nofun, fun active => ?_⟩
    exact absurd active (Bool.eq_false_iff.mp (inactive_closing _))
  · exact consistent.endWriter present

theorem Consistent.connected (taken : step state .connected = some next) :
    Consistent next := by
  simp only [step] at taken
  split at taken
  · rename_i f connecting
    obtain ⟨absent, others⟩ := consistent.connecting f connecting
    have serving := consistent.serving (by rw [connecting]; nofun)
    cases taken
    refine { consistent with
      listed := ?_, latest := ?_, superseded := ?_, unlisted := ?_, connecting := nofun, storing := ?_
      serving := fun _ => serving }
    · intro g index found
      obtain ⟨flow, present, rest⟩ := consistent.listed g index found
      exact ⟨flow, List.getElem?_append_left (List.getElem?_eq_some_iff.mp present).1 ▸ present, rest⟩
    · intro g index other flow found present same
      rcases Slots.of_append present with old | ⟨rfl, rfl⟩
      · exact consistent.latest g index other flow found old same
      · subst same
        cases absent.symm.trans found
    · intro earlier later old flow before oldPresent present same
      have inside : later < state.flows.length + 1 := by
        simpa using (List.getElem?_eq_some_iff.mp present).1
      rw [List.getElem?_append_left (by omega)] at oldPresent
      rcases Slots.of_append present with present | ⟨rfl, rfl⟩
      · exact consistent.superseded earlier later old flow before oldPresent present same
      · exact others old (List.mem_of_getElem? oldPresent) same
    · intro index flow present missing elsewhere
      rcases Slots.of_append present with old | ⟨rfl, rfl⟩
      · exact consistent.unlisted index flow old missing (by rw [connecting]; nofun)
      · exact absurd rfl elsewhere
    · intro index storing
      cases storing
      exact ⟨by simp, _, List.getElem?_concat_length, rfl, absent⟩
  · cases taken

theorem Consistent.store (storing : state.handler = .storing index)
    (present : state.flows[index]? = some flow) :
    Consistent { state with table := state.table.insert flow.id index, handler := .stored flow.id } := by
  obtain ⟨last, other, here, active, absent⟩ := consistent.storing index storing
  cases present.symm.trans here
  have serving := consistent.serving (by rw [storing]; nofun)
  refine ⟨?_, ?_, consistent.superseded, ?_, nofun, nofun, fun _ => serving, consistent.own, fun down => ?_⟩
  · intro f found listed
    rcases Table.of_lookup_insert listed with ⟨rfl, rfl⟩ | ⟨-, listed⟩
    · exact ⟨flow, present, rfl, fun _ => active⟩
    · exact consistent.listed f found listed
  · intro f found other entry listed here same
    rcases Table.of_lookup_insert listed with ⟨-, rfl⟩ | ⟨-, listed⟩
    · have inside : other < state.flows.length := (List.getElem?_eq_some_iff.mp here).1
      omega
    · exact consistent.latest f found other entry listed here same
  · intro other entry here missing _
    have elsewhere : other ≠ index := by
      rintro rfl
      cases present.symm.trans here
      exact missing (by rw [Table.lookup_insert, if_pos rfl])
    refine consistent.unlisted other entry here (fun listed => ?_) fun same => ?_
    · rw [Table.lookup_insert] at missing
      split at missing
      · rename_i same
        cases absent.symm.trans (same ▸ listed)
      · exact missing listed
    · cases storing.symm.trans same
      exact elsewhere rfl
  · cases serving.symm.trans down

theorem Consistent.insert (taken : step state .insert = some next) :
    Consistent next := by
  simp only [step] at taken
  split at taken
  · rename_i index storing
    obtain ⟨flow, present, rfl⟩ := Option.map_eq_some_iff.mp taken
    let mark (flow : FlowTasks) : FlowTasks := { flow with inserted := true }
    have marked : Consistent { state with flows := state.flows.modify index mark } :=
      consistent.moved present ⟨rfl, fun done => done, fun active => active, fun active => active⟩
        fun _ _ active => active
    have here : (state.flows.modify index mark)[index]? = some (mark flow) := by
      rw [List.getElem?_modify_eq, present]
      rfl
    have stored := marked.store storing here
    exact stored
  · cases taken

theorem Consistent.resume {handler : Handler}
    (stored : ∀ index, state.handler ≠ .storing index) (later : ∀ index, handler ≠ .storing index)
    (serving : handler ≠ .idle → state.phase = .serving)
    (fresh : ∀ f, handler = .connecting f → state.table.lookup f = none ∧
      ∀ flow ∈ state.flows, flow.id = f → bothDone flow = true) : Consistent { state with handler := handler } where
  __ := consistent
  unlisted index flow present missing _ := consistent.unlisted index flow present missing (stored index)
  connecting := fresh
  storing index storing := absurd storing (later index)
  serving := serving

theorem Consistent.createFlow {f : FlowId}
    (met : orderly state (.createFlow f) = true) (taken : step state (.createFlow f) = some next) :
    Consistent next := by
  obtain ⟨⟨serving, idle⟩, taken⟩ := Option.ite_none_right_eq_some.mp taken
  split at taken
  · cases taken
    refine consistent.resume (by rw [idle]; nofun) nofun (fun _ => serving) fun g connecting => ?_
    cases connecting
    have others (flow) (member : flow ∈ state.flows) (same : flow.id = f) : bothDone flow = true := by
      simpa [same] using List.all_eq_true.mp met flow member
    refine ⟨Option.eq_none_iff_forall_ne_some.mpr fun index found => ?_, others⟩
    obtain ⟨flow, present, same, active⟩ := consistent.listed f index found
    have finished := others flow (List.mem_of_getElem? present) same
    simp only [bothDone, Bool.and_eq_true, decide_eq_true_eq] at finished
    simp [FlowTask.active, finished.1] at active
    exact active serving
  · cases taken
    exact consistent

theorem Consistent.advance {phase : SessionPhase} (idle : state.handler = .idle)
    (ended : phase ≠ .serving) (cleared : phase = .tornDown → ∀ f, state.table.lookup f = none) :
    Consistent { state with phase := phase } where
  __ := consistent
  listed f index found := by
    obtain ⟨flow, present, same, -⟩ := consistent.listed f index found
    exact ⟨flow, present, same, fun serving => absurd serving ended⟩
  connecting f connecting := by cases idle.symm.trans connecting
  storing index storing := by cases idle.symm.trans storing
  serving busy := absurd idle busy
  cleared := cleared

theorem Consistent.teardown (taken : step state .teardown = some next) :
    Consistent next := by
  obtain ⟨ended, rfl⟩ := of_guard taken
  have idle : state.handler = .idle := by
    by_contra busy
    cases ended.symm.trans (consistent.serving busy)
  let change (index : Nat) (flow : FlowTasks) : FlowTasks :=
    if index ∈ state.table.entries.map Prod.snd then abortBoth flow else flow
  have emptied : Consistent { state with flows := state.flows.mapIdx change, table := .empty } := by
    refine consistent.update change (fun index => List.getElem?_mapIdx) ?_ rfl rfl nofun ?_ ?_ consistent.own
    · intro index flow present
      unfold change
      split
      · exact ⟨rfl, fun done => done, nofun, nofun⟩
      · exact .rfl
    · intro index flow present serving
      cases ended.symm.trans serving
    · intro index flow present listed _
      have member : index ∈ state.table.entries.map Prod.snd :=
        List.mem_map.mpr ⟨_, Table.lookup_eq_some_iff.mp listed, rfl⟩
      simp only [change, if_pos member]
      exact ⟨inactive_abort _, inactive_abort _⟩
  exact emptied.advance idle nofun fun _ _ => rfl

theorem Consistent.sessionEnd (met : orderly state .sessionEnd = true)
    (taken : step state .sessionEnd = some next) : Consistent next := by
  obtain ⟨-, rfl⟩ := of_guard taken
  have stored (index) : state.handler ≠ .storing index := by
    intro storing
    simp [orderly, storing] at met
  have dropped : Consistent { state with handler := .idle } :=
    consistent.resume stored nofun (fun busy => absurd rfl busy) nofun
  exact dropped.advance rfl nofun nofun

end

theorem Consistent.step {action : TableAction} (consistent : Consistent state) (met : orderly state action = true)
    (taken : step state action = some next) : Consistent next := by
  cases action with
  | createFlow f => exact consistent.createFlow met taken
  | connected => exact consistent.connected taken
  | insert => exact consistent.insert taken
  | relayRemove index => exact consistent.relayRemove (of_decide_eq_true met) taken
  | writerRemove index => exact consistent.writerRemove taken
  | sessionEnd => exact consistent.sessionEnd met taken
  | teardown => exact consistent.teardown taken
  | createFailed | finish =>
    simp only [FlowTable.step] at taken
    split at taken
    · rename_i _ here
      cases taken
      exact consistent.resume (by rw [here]; nofun) nofun (fun busy => absurd rfl busy) nofun
    · cases taken
  | closeFlow f | overSend f =>
    obtain ⟨-, rfl⟩ := of_guard taken
    exact consistent.removeFlow f
  | relayExit index =>
    obtain ⟨flow, found, rfl⟩ := Option.map_eq_some_iff.mp taken
    obtain ⟨present, running⟩ := relayIn_eq_some_iff.mp found
    have same := active_removing running
    exact consistent.moveRelay present (fun done => by cases running.symm.trans done) (fun active => same ▸ active)
      fun _ active => same.trans active
  | relayClose index =>
    obtain ⟨flow, found, rfl⟩ := Option.map_eq_some_iff.mp taken
    obtain ⟨present, closing⟩ := relayIn_eq_some_iff.mp found
    exact consistent.endRelay present fun _ => by simp [FlowTask.active, closing]
  | relayGone index =>
    obtain ⟨ended, taken⟩ := Option.ite_none_left_eq_some.mp taken
    obtain ⟨flow, found, rfl⟩ := Option.map_eq_some_iff.mp taken
    exact consistent.endRelay (relayIn_eq_some_iff.mp found).1 fun serving => absurd serving ended
  | relayCancel index =>
    obtain ⟨flow, present, aborted, rfl⟩ := guarded_eq_some_iff.mp taken
    exact consistent.endRelay present fun _ => by simp [FlowTask.active, aborted]
  | writerFail index =>
    obtain ⟨flow, found, -, rfl⟩ := guarded_eq_some_iff.mp taken
    obtain ⟨present, running⟩ := writerIn_eq_some_iff.mp found
    exact consistent.moveWriter present (fun done => by cases running.symm.trans done)
      fun active => active_removing running ▸ active
  | writerEnd index =>
    obtain ⟨flow, found, -, rfl⟩ := guarded_eq_some_iff.mp taken
    exact consistent.endWriter (writerIn_eq_some_iff.mp found).1
  | writerClose index =>
    obtain ⟨flow, found, rfl⟩ := Option.map_eq_some_iff.mp taken
    exact consistent.endWriter (writerIn_eq_some_iff.mp found).1
  | writerGone index =>
    obtain ⟨-, taken⟩ := Option.ite_none_left_eq_some.mp taken
    obtain ⟨flow, found, rfl⟩ := Option.map_eq_some_iff.mp taken
    exact consistent.endWriter (writerIn_eq_some_iff.mp found).1
  | writerCancel index =>
    obtain ⟨flow, present, -, rfl⟩ := guarded_eq_some_iff.mp taken
    exact consistent.endWriter present

/-- In an orderly run: between two frames every entry has its relay, no task at its exit has taken out another flow's
entry, and after the teardown no task would run on. -/
theorem flow_table_consistent {actions : List TableAction} {final : FlowTable}
    (met : Transition.Meets step (fun state action => orderly state action = true) new actions)
    (reached : Transition.run step new actions = some final) :
    (final.phase = .serving → final.handler = .idle → ∀ f index, final.table.lookup f = some index →
      ∃ flow, final.flows[index]? = some flow ∧ flow.id = f ∧ flow.relay.active = true) ∧
    (∀ removal ∈ final.removals, removal.1 = removal.2) ∧
    (final.phase = .tornDown → ∀ flow ∈ final.flows, flow.relay.active = false ∧ flow.writer.active = false) := by
  have preserved : ∀ state action next, Consistent state → orderly state action = true →
      step state action = some next → Consistent next :=
    fun state action next consistent met taken => consistent.step met taken
  have initially : Consistent new :=
    { listed := nofun
      latest := nofun
      superseded := fun _ _ _ _ _ present => by cases present
      unlisted := nofun
      connecting := nofun
      storing := nofun
      serving := fun _ => rfl
      own := nofun
      cleared := nofun }
  have consistent := run_preserves_of_meets preserved initially met reached
  refine ⟨fun serving _ f index found => ?_, consistent.own, fun down flow member => ?_⟩
  · obtain ⟨flow, present, same, active⟩ := consistent.listed f index found
    exact ⟨flow, present, same, active serving⟩
  · obtain ⟨index, present⟩ := List.mem_iff_getElem?.mp member
    refine consistent.unlisted index flow present (by rw [consistent.cleared down]; nofun) fun storing => ?_
    cases (consistent.serving (by rw [storing]; nofun)).symm.trans down

namespace TableSample

def openFlow (f : FlowId) : List TableAction := [.createFlow f, .connected, .insert, .finish]

/-- Flow 5 ends by its target, its id is used again, and the session ends with another flow open. -/
def reuseAfterEnd : List TableAction :=
  openFlow 5 ++
    ([.relayExit 0, .relayRemove 0, .writerCancel 0, .relayClose 0] : List TableAction) ++
    openFlow 5 ++ openFlow 6 ++ ([.sessionEnd, .teardown] : List TableAction)

def reuseWhileOpen : List TableAction :=
  openFlow 5 ++ openFlow 5 ++ ([.relayExit 0, .relayRemove 0] : List TableAction)

def endBeforeInsert : List TableAction :=
  [.createFlow 5, .connected, .relayExit 0, .relayRemove 0, .relayClose 0, .insert, .finish]

def endWhileStoring : List TableAction := [.createFlow 5, .connected, .sessionEnd, .teardown]

end TableSample

/-- An id is used again once its first flow is over. -/
theorem reuse_after_end_consistent :
    ∃ final, Transition.run step new TableSample.reuseAfterEnd = some final ∧ final.phase = .tornDown ∧
      final.removals = [(0, 0)] ∧ final.flows.length = 3 ∧
      ∀ flow ∈ final.flows, flow.relay.active = false ∧ flow.writer.active = false := by
  refine exists_of_evaluated (p := fun final => final.phase = .tornDown ∧ final.removals = [(0, 0)] ∧
    final.flows.length = 3) (by decide +kernel) fun final reached facts => ?_
  have consistent := flow_table_consistent (by decide +kernel) reached
  exact ⟨facts.1, facts.2.1, facts.2.2, consistent.2.2 facts.1⟩

/-- An entry is left without its relay, a relay takes out the entry of the flow that came after it, and a relay runs
on after the teardown. -/
theorem flow_table_inconsistent :
    (Transition.run step new TableSample.endBeforeInsert).map
        (fun final => (final.handler, final.table.lookup 5, final.flows.map fun flow => flow.relay.phase)) =
      some (.idle, some 0, [.done]) ∧
    (Transition.run step new TableSample.reuseWhileOpen).map
        (fun final => (final.removals, final.table.lookup 5, final.flows.map fun flow => flow.relay.active)) =
      some ([(0, 1)], none, [false, true]) ∧
    (Transition.run step new TableSample.endWhileStoring).map
        (fun final => (final.phase, final.flows.map fun flow => flow.relay.active)) = some (.tornDown, [true]) := by
  decide +kernel

end FlowTable

end Rvpn.Server
