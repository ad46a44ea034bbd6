import Rvpn.Lib.Transition
import Mathlib.Algebra.BigOperators.Group.List.Basic
import Mathlib.Algebra.GroupWithZero.Nat

/-! A loop that hands on queued items in batches; the first item that does not fit is kept for the next batch. -/

namespace Batcher

universe u

variable {Item : Type u}

structure Policy (Item : Type u) where
  maxItems : Nat
  maxWeight : Nat
  weight : Item → Nat
  room : Item → Nat
  /-- Whether more items are looked for, given whether some are queued. -/
  opens : Bool → Bool
  /-- Whether the loop waits for further items, until a deadline or a request to stop. -/
  waits : Bool

inductive Phase (Item : Type u) where
  | idle
  | collecting (batch : List Item) (count : Nat)
  | ready (batch : List Item) (last : Bool)
  | ended
  | aborted (batch : List Item)
  deriving DecidableEq

structure State (Item : Type u) where
  queue : List Item
  closed : Bool
  pending : Option Item
  phase : Phase Item
  arrived : List Item
  deriving DecidableEq

inductive Action (Item : Type u) where
  | arrive (item : Item)
  | close
  | first
  | next
  | deadline
  | stop
  deriving DecidableEq

def State.start : State Item := ⟨[], false, none, .idle, []⟩

def Phase.batch : Phase Item → List Item
  | .idle | .ended => []
  | .collecting batch _ | .ready batch _ | .aborted batch => batch

/-- The batch that begins with an item, when `rest` is still queued. -/
def Policy.begin (policy : Policy Item) (item : Item) (rest : List Item) : Phase Item :=
  if policy.opens (!rest.isEmpty) then .collecting [item] (policy.weight item) else .ready [item] false

def first (policy : Policy Item) (state : State Item) : Option (State Item) :=
  match state.phase, state.pending, state.queue with
  | .idle, some item, queue => some { state with pending := none, phase := policy.begin item queue }
  | .idle, none, item :: rest => some { state with queue := rest, phase := policy.begin item rest }
  | .idle, none, [] => if state.closed then some { state with phase := .ended } else none
  | _, _, _ => none

def next (policy : Policy Item) (state : State Item) : Option (State Item) :=
  match state.phase with
  | .collecting batch count =>
    if policy.maxItems ≤ batch.length ∨ policy.maxWeight ≤ count then
      some { state with phase := .ready batch false }
    else
      match state.queue with
      | item :: rest =>
        if policy.maxWeight < count + policy.room item then
          some { state with queue := rest, pending := some item, phase := .ready batch false }
        else
          some { state with queue := rest, phase := .collecting (batch ++ [item]) (count + policy.weight item) }
      | [] =>
        if state.closed then some { state with phase := .ready batch true }
        else if policy.waits then none
        else some { state with phase := .ready batch false }
  | _ => none

def step (policy : Policy Item) (state : State Item) : Action Item → Option (State Item)
  | .arrive item =>
    if state.closed then none
    else some { state with queue := state.queue ++ [item], arrived := state.arrived ++ [item] }
  | .close => some { state with closed := true }
  | .first => first policy state
  | .next => next policy state
  | .deadline =>
    match policy.waits, state.phase with
    | true, .collecting batch _ => some { state with phase := .ready batch false }
    | _, _ => none
  | .stop =>
    match policy.waits, state.phase, state.pending with
    | true, .idle, none => some { state with phase := .aborted [] }
    | true, .collecting batch _, _ => some { state with phase := .aborted batch }
    | _, _, _ => none

def handOn (state : State Item) : Option (List Item × State Item) :=
  match state.phase with
  | .ready batch last => some (batch, { state with phase := if last then .ended else .idle })
  | _ => none

def giveUp (state : State Item) : State Item := { state with phase := .aborted state.phase.batch }

/-- The batch in hand, the item put aside and what is queued, in the order of arrival. -/
def State.held (state : State Item) : List Item := state.phase.batch ++ (state.pending.toList ++ state.queue)

def State.Drained (state : State Item) : Prop :=
  state.phase = .ended ∨ (state.phase = .idle ∧ state.pending = none ∧ state.queue = [])

instance [DecidableEq Item] (state : State Item) : Decidable state.Drained :=
  inferInstanceAs (Decidable (_ ∨ _))

/-- The batches the policy allows: a single item, or several within the limits. -/
structure Allowed (policy : Policy Item) (batch : List Item) : Prop where
  nonempty : batch ≠ []
  items : batch.length ≤ policy.maxItems
  weight : batch.length = 1 ∨ (batch.map policy.weight).sum ≤ policy.maxWeight

def Consistent (policy : Policy Item) (state : State Item) : Prop :=
  match state.phase with
  | .idle | .aborted _ => True
  | .collecting batch count =>
    Allowed policy batch ∧ count = (batch.map policy.weight).sum ∧ state.pending = none
  | .ready batch last =>
    Allowed policy batch ∧ (last = true → state.pending = none ∧ state.queue = [] ∧ state.closed = true)
  | .ended => state.pending = none ∧ state.queue = [] ∧ state.closed = true

variable {policy : Policy Item} {state after : State Item}

inductive Moves (policy : Policy Item) (state : State Item) : State Item → Prop
  | arrive (item : Item) (isOpen : state.closed = false) :
      Moves policy state { state with queue := state.queue ++ [item], arrived := state.arrived ++ [item] }
  | close : Moves policy state { state with closed := true }
  | begin (item : Item) (rest : List Item) (idle : state.phase = .idle)
      (waiting : state.pending.toList ++ state.queue = item :: rest) :
      Moves policy state { state with pending := none, queue := rest, phase := policy.begin item rest }
  | finish (idle : state.phase = .idle) (nothing : state.pending = none) (empty : state.queue = [])
      (closed : state.closed = true) : Moves policy state { state with phase := .ended }
  | add (batch : List Item) (count : Nat) (item : Item) (rest : List Item)
      (collecting : state.phase = .collecting batch count) (few : batch.length < policy.maxItems)
      (fits : count + policy.room item ≤ policy.maxWeight) (waiting : state.queue = item :: rest) :
      Moves policy state
        { state with queue := rest, phase := .collecting (batch ++ [item]) (count + policy.weight item) }
  | putAside (batch : List Item) (count : Nat) (item : Item) (rest : List Item)
      (collecting : state.phase = .collecting batch count) (waiting : state.queue = item :: rest) :
      Moves policy state { state with queue := rest, pending := some item, phase := .ready batch false }
  | ready (batch : List Item) (count : Nat) (last : Bool) (collecting : state.phase = .collecting batch count)
      (drained : last = true → state.queue = [] ∧ state.closed = true) :
      Moves policy state { state with phase := .ready batch last }
  | stop (waits : policy.waits = true) :
      Moves policy state { state with phase := .aborted state.phase.batch }

theorem moves_of_first (taken : first policy state = some after) : Moves policy state after := by
  obtain ⟨queue, closed, pending, phase, arrived⟩ := state
  cases phase with
  | idle =>
    cases pending with
    | some item =>
      cases taken
      exact .begin item queue rfl rfl
    | none =>
      cases queue with
      | cons item rest =>
        cases taken
        exact .begin item rest rfl rfl
      | nil =>
        cases closed with
        | false => cases taken
        | true =>
          cases taken
          exact .finish rfl rfl rfl rfl
  | collecting batch count => cases taken
  | ready batch last => cases taken
  | ended => cases taken
  | aborted batch => cases taken

theorem moves_of_next (taken : next policy state = some after) : Moves policy state after := by
  unfold next at taken
  split at taken
  · rename_i batch count collecting
    split at taken
    · cases taken
      exact .ready batch count false collecting (by simp)
    · rename_i within
      split at taken
      · rename_i item rest waiting
        split at taken
        · cases taken
          exact .putAside batch count item rest collecting waiting
        · cases taken
          exact .add batch count item rest collecting (by omega) (by omega) waiting
      · rename_i empty
        split at taken
        · rename_i closed
          cases taken
          exact .ready batch count true collecting fun _ => ⟨empty, closed⟩
        · split at taken
          · cases taken
          · cases taken
            exact .ready batch count false collecting (by simp)
  · cases taken

theorem moves_of_step (taken : step policy state action = some after) :
    Moves policy state after := by
  cases action with
  | arrive item =>
    simp only [step] at taken
    split at taken
    · cases taken
    · rename_i isOpen
      cases taken
      exact .arrive item (Bool.eq_false_iff.mpr isOpen)
  | close =>
    cases taken
    exact .close
  | first => exact moves_of_first taken
  | next => exact moves_of_next taken
  | deadline =>
    simp only [step] at taken
    split at taken
    · rename_i collecting
      cases taken
      exact .ready _ _ false collecting (by simp)
    · cases taken
  | stop =>
    simp only [step] at taken
    split at taken
    · rename_i waits idle _
      cases taken
      have moved : Moves policy state _ := .stop waits
      rwa [idle] at moved
    · rename_i waits collecting
      cases taken
      have moved : Moves policy state _ := .stop waits
      rwa [collecting] at moved
    · cases taken

theorem Allowed.singleton (item : Item) (some : 1 ≤ policy.maxItems) : Allowed policy [item] :=
  ⟨List.cons_ne_nil _ _, some, .inl rfl⟩

theorem Allowed.weight_le (allowed : Allowed policy batch)
    (light : ∀ item ∈ batch, policy.weight item ≤ policy.maxWeight) :
    (batch.map policy.weight).sum ≤ policy.maxWeight := by
  rcases allowed.weight with single | within
  · obtain ⟨item, rfl⟩ := List.length_eq_one_iff.mp single
    simpa using light item List.mem_cons_self
  · exact within

structure Policy.Sensible (policy : Policy Item) : Prop where
  items : 1 ≤ policy.maxItems
  room : ∀ item, policy.weight item ≤ policy.room item

theorem Consistent.step (sensible : policy.Sensible) (consistent : Consistent policy state)
    (moved : Moves policy state after) : Consistent policy after := by
  cases moved with
  | arrive | close =>
    unfold Consistent at *
    cases phase : state.phase <;> simp_all
  | begin item rest idle waiting =>
    unfold Consistent Policy.begin
    cases policy.opens (!rest.isEmpty) with
    | true => exact ⟨.singleton item sensible.items, by simp, rfl⟩
    | false => exact ⟨.singleton item sensible.items, by simp⟩
  | finish idle nothing empty closed => exact ⟨nothing, empty, closed⟩
  | add batch count item rest collecting few fits waiting =>
    simp only [Consistent, collecting] at consistent ⊢
    obtain ⟨allowed, counted, nothing⟩ := consistent
    refine ⟨⟨by simp, by simp; omega, .inr ?_⟩, by simp [counted], nothing⟩
    have := sensible.room item
    simp
    omega
  | putAside batch count item rest collecting waiting =>
    simp only [Consistent, collecting] at consistent ⊢
    exact ⟨consistent.1, by simp⟩
  | ready batch count last collecting drained =>
    simp only [Consistent, collecting] at consistent ⊢
    exact ⟨consistent.1, fun isLast => ⟨consistent.2.2, drained isLast⟩⟩
  | stop waits => trivial

theorem held_step (consistent : Consistent policy state) (moved : Moves policy state after) :
    ∃ new, after.arrived = state.arrived ++ new ∧ after.held = state.held ++ new := by
  cases moved with
  | arrive item isOpen => exact ⟨[item], rfl, by simp [State.held]⟩
  | close => exact ⟨[], by simp, by simp [State.held]⟩
  | begin item rest idle waiting =>
    refine ⟨[], by simp, ?_⟩
    have opened : (policy.begin item rest).batch = [item] := by
      unfold Policy.begin
      split <;> rfl
    simp only [State.held, opened, idle]
    simp [Phase.batch, waiting]
  | finish idle nothing empty closed => exact ⟨[], by simp, by simp [State.held, idle, Phase.batch]⟩
  | add batch count item rest collecting few fits waiting | putAside batch count item rest collecting waiting =>
    simp only [Consistent, collecting] at consistent
    exact ⟨[], by simp, by simp [State.held, collecting, Phase.batch, waiting, consistent.2.2]⟩
  | ready batch count last collecting drained =>
    exact ⟨[], by simp, by simp [State.held, collecting, Phase.batch]⟩
  | stop waits => exact ⟨[], by simp, by simp [State.held, Phase.batch]⟩

theorem Policy.begin_ne_aborted (policy : Policy Item) (item : Item) (rest batch : List Item) :
    policy.begin item rest ≠ .aborted batch := by
  unfold Policy.begin
  split <;> simp

theorem Moves.arrived_grows (moved : Moves policy state after) : state.arrived <+: after.arrived := by
  cases moved with
  | arrive item isOpen => exact List.prefix_append _ _
  | _ => exact List.prefix_refl _

theorem Moves.unstopped (moved : Moves policy state after) (polls : policy.waits = false)
    (live : ∀ batch, state.phase ≠ .aborted batch) : ∀ batch, after.phase ≠ .aborted batch := by
  intro batch
  cases moved with
  | arrive | close => exact live batch
  | begin item rest idle waiting => exact policy.begin_ne_aborted item rest batch
  | finish idle nothing empty closed => simp
  | add batch count item rest collecting few fits waiting => simp
  | putAside batch count item rest collecting waiting => simp
  | ready batch count last collecting drained => simp
  | stop waits => cases polls.symm.trans waits

theorem handOn_spec (consistent : Consistent policy state) (handed : handOn state = some (batch, after)) :
    Allowed policy batch ∧ Consistent policy after ∧ state.held = batch ++ after.held := by
  obtain ⟨queue, closed, pending, phase, arrived⟩ := state
  cases phase with
  | ready held last =>
    cases handed
    refine ⟨consistent.1, ?_, ?_⟩
    · cases last with
      | false => trivial
      | true => exact consistent.2 rfl
    · cases last <;> simp [State.held, Phase.batch]
  | idle => cases handed
  | collecting held count => cases handed
  | ended => cases handed
  | aborted held => cases handed

theorem handOn_arrived (handed : handOn state = some (batch, after)) :
    after.arrived = state.arrived := by
  unfold handOn at handed
  split at handed
  · cases handed
    rfl
  · cases handed

theorem handOn_unstopped (handed : handOn state = some (batch, after)) :
    ∀ other, after.phase ≠ .aborted other := by
  unfold handOn at handed
  split at handed
  · rename_i last _
    cases handed
    cases last <;> simp
  · cases handed

theorem held_of_drained (consistent : Consistent policy state) (drained : state.Drained) : state.held = [] := by
  rcases drained with ended | ⟨idle, nothing, empty⟩
  · simp only [Consistent, ended] at consistent
    simp [State.held, ended, Phase.batch, consistent.1, consistent.2.1]
  · simp [State.held, idle, Phase.batch, nothing, empty]

section progress

def Phase.work : Phase Item → Nat
  | .idle => 1
  | .collecting _ _ => 3
  | .ready _ _ => 2
  | .ended | .aborted _ => 0

def State.work (state : State Item) : Nat :=
  3 * (state.pending.toList.length + state.queue.length) + state.phase.work

theorem Policy.work_begin_le (policy : Policy Item) (item : Item) (rest : List Item) :
    (policy.begin item rest).work ≤ 3 := by
  unfold Policy.begin
  split <;> simp [Phase.work]

def Progress (policy : Policy Item) (state : State Item) : Prop :=
  ∃ action after, (action = .first ∨ action = .next ∨ action = .deadline) ∧
    step policy state action = some after ∧ after.work < state.work ∧ after.arrived = state.arrived ∧
    ∀ batch, after.phase ≠ .aborted batch

theorem progress_idle (idle : state.phase = .idle) (busy : ¬ state.Drained) : Progress policy state := by
  obtain ⟨queue, closed, pending, phase, arrived⟩ := state
  subst idle
  cases pending with
  | some item =>
    refine ⟨.first, _, .inl rfl, rfl, ?_, rfl, policy.begin_ne_aborted item queue⟩
    have := policy.work_begin_le item queue
    show 3 * (0 + queue.length) + (policy.begin item queue).work < 3 * (1 + queue.length) + 1
    omega
  | none =>
    cases queue with
    | cons item rest =>
      refine ⟨.first, _, .inl rfl, rfl, ?_, rfl, policy.begin_ne_aborted item rest⟩
      have := policy.work_begin_le item rest
      show 3 * (0 + rest.length) + (policy.begin item rest).work < 3 * (0 + (rest.length + 1)) + 1
      omega
    | nil => exact absurd (.inr ⟨rfl, rfl, rfl⟩) busy

theorem work_of_next (taken : next policy state = some after) :
    after.work < state.work ∧ after.arrived = state.arrived ∧ ∀ batch, after.phase ≠ .aborted batch := by
  unfold next at taken
  split at taken
  · rename_i batch count collecting
    split at taken
    · cases taken
      exact ⟨by simp [State.work, Phase.work, collecting], rfl, by simp⟩
    · split at taken
      · rename_i item rest waiting
        split at taken
        · cases taken
          refine ⟨?_, rfl, by simp⟩
          simp [State.work, Phase.work, collecting, waiting]
          omega
        · cases taken
          exact ⟨by simp [State.work, Phase.work, collecting, waiting], rfl, by simp⟩
      · split at taken
        · cases taken
          exact ⟨by simp [State.work, Phase.work, collecting], rfl, by simp⟩
        · split at taken
          · cases taken
          · cases taken
            exact ⟨by simp [State.work, Phase.work, collecting], rfl, by simp⟩
  · cases taken

theorem waits_of_next_eq_none (collecting : state.phase = .collecting batch count)
    (blocked : next policy state = none) : policy.waits = true := by
  simp only [next, collecting] at blocked
  split at blocked
  · cases blocked
  · split at blocked
    · split at blocked <;> cases blocked
    · split at blocked
      · cases blocked
      · split at blocked
        · assumption
        · cases blocked

theorem progress_collecting (collecting : state.phase = .collecting batch count) : Progress policy state := by
  cases taken : next policy state with
  | some after => exact ⟨.next, after, .inr (.inl rfl), taken, work_of_next taken⟩
  | none =>
    have waits := waits_of_next_eq_none collecting taken
    refine ⟨.deadline, { state with phase := .ready batch false }, .inr (.inr rfl), ?_, ?_, rfl, by simp⟩
    · simp [step, waits, collecting]
    · simp [State.work, Phase.work, collecting]

theorem progress (policy : Policy Item) (live : ∀ batch, state.phase ≠ .aborted batch) (busy : ¬ state.Drained) :
    Progress policy state ∨ ∃ batch after, handOn state = some (batch, after) ∧ after.work < state.work := by
  cases phase : state.phase with
  | idle => exact .inl (progress_idle phase busy)
  | collecting batch count => exact .inl (progress_collecting phase)
  | ready batch last =>
    refine .inr ⟨batch, { state with phase := if last then .ended else .idle }, by simp only [handOn, phase], ?_⟩
    cases last <;> simp [State.work, phase, Phase.work]
  | ended => exact absurd (.inl phase) busy
  | aborted batch => exact absurd phase (live batch)

end progress

end Batcher
