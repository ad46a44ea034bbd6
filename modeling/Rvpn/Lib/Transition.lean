import Mathlib.Data.Option.Basic

/-! Finite runs of a partial step function, and the induction that turns what
one step preserves into what every run preserves. -/

namespace Transition

universe u v

theorem of_guard {ready : Prop} [Decidable ready] {Next : Type*} {after next : Next}
    (taken : (if ready then some after else none) = some next) : ready ∧ after = next := by
  rwa [Option.ite_none_right_eq_some, Option.some.injEq] at taken

theorem guarded_eq_some_iff {Party Next : Type*} {party : Option Party} {ready : Party → Prop}
    [DecidablePred ready] {change : Party → Next} {next : Next} :
    (party.bind fun found => if ready found then some (change found) else none) = some next ↔
      ∃ found, party = some found ∧ ready found ∧ change found = next := by
  rw [Option.bind_eq_some_iff]
  refine exists_congr fun found => and_congr_right fun _ => ?_
  rw [Option.ite_none_right_eq_some, Option.some.injEq]

variable {State : Type u} {Action : Type v} (step : State → Action → Option State)

/-- Execute the actions in order; `none` as soon as one of them is not enabled. -/
def run : State → List Action → Option State
  | state, [] => some state
  | state, action :: rest => (step state action).bind fun next => run next rest

def Meets (condition : State → Action → Prop) : State → List Action → Prop
  | _, [] => True
  | state, action :: rest => condition state action ∧
      ∀ next, step state action = some next → Meets condition next rest

instance decidableMeets (condition : State → Action → Prop) [∀ state action, Decidable (condition state action)] :
    ∀ state actions, Decidable (Meets step condition state actions)
  | _, [] => inferInstanceAs (Decidable True)
  | state, action :: rest =>
    have : ∀ next, Decidable (Meets step condition next rest) :=
      fun next => decidableMeets condition next rest
    inferInstanceAs (Decidable (condition state action ∧
      ∀ next ∈ step state action, Meets step condition next rest))

/-- So that what a run on fixed inputs ends in can be evaluated. -/
instance decidableReached {outcome : Option State} {p : State → Prop} [DecidablePred p] :
    Decidable (∃ final, outcome = some final ∧ p final) :=
  inferInstanceAs (Decidable (∃ final ∈ outcome, p final))

instance decidableMade {Error : Type*} {p : State → Prop} [DecidablePred p] :
    (outcome : Except Error State) → Decidable (∃ made, outcome = .ok made ∧ p made)
  | .ok made => decidable_of_iff (p made) (by simp)
  | .error _ => .isFalse (by simp)

theorem exists_of_evaluated {outcome : Option State} {p q : State → Prop}
    (evaluated : ∃ final, outcome = some final ∧ p final)
    (implied : ∀ final, outcome = some final → p final → q final) : ∃ final, outcome = some final ∧ q final := by
  obtain ⟨final, reached, holds⟩ := evaluated
  exact ⟨final, reached, implied final reached holds⟩

variable {step}

@[simp] theorem run_nil (state : State) : run step state [] = some state := rfl

theorem run_cons (state : State) (action : Action) (rest : List Action) :
    run step state (action :: rest) = (step state action).bind fun next => run step next rest :=
  rfl

theorem run_cons_some (rest : List Action) (taken : step state action = some next) :
    run step state (action :: rest) = run step next rest := by
  simp [run_cons, taken]

theorem run_singleton (state : State) (action : Action) : run step state [action] = step state action := by
  simp [run]

theorem run_append (state : State) (first second : List Action) :
    run step state (first ++ second) =
      (run step state first).bind fun middle => run step middle second := by
  induction first generalizing state with
  | nil => rfl
  | cons action rest ih =>
    simp only [List.cons_append, run_cons]
    cases step state action with
    | none => rfl
    | some next => exact ih next

theorem run_trans (reached : run step state first = some middle) (onward : run step middle second = some final) :
    run step state (first ++ second) = some final := by
  rw [run_append, reached]
  exact onward

theorem run_preserves_of_meets {condition : State → Action → Prop} {invariant : State → Prop}
    (preserved : ∀ state action next, invariant state → condition state action →
      step state action = some next → invariant next)
    {state final : State} {actions : List Action} (initially : invariant state)
    (meets : Meets step condition state actions) (reached : run step state actions = some final) :
    invariant final := by
  induction actions generalizing state with
  | nil =>
    cases reached
    exact initially
  | cons action rest ih =>
    obtain ⟨next, taken, onward⟩ := Option.bind_eq_some_iff.mp reached
    exact ih (preserved state action next initially meets.1 taken) (meets.2 next taken) onward

theorem Meets.mono (implied : ∀ state action, condition state action → other state action)
    (meets : Meets step condition state actions) : Meets step other state actions := by
  induction actions generalizing state with
  | nil => trivial
  | cons action rest ih => exact ⟨implied state action meets.1, fun next taken => ih (meets.2 next taken)⟩

theorem Meets.and (meets : Meets step condition state actions) (also : Meets step other state actions) :
    Meets step (fun state action => condition state action ∧ other state action) state actions := by
  induction actions generalizing state with
  | nil => trivial
  | cons action rest ih =>
    exact ⟨⟨meets.1, also.1⟩, fun next taken => ih (meets.2 next taken) (also.2 next taken)⟩

theorem meets_of_forall (always : ∀ action ∈ actions, ∀ state, condition state action) (state : State) :
    Meets step condition state actions := by
  induction actions generalizing state with
  | nil => trivial
  | cons action rest ih =>
    refine ⟨always action List.mem_cons_self state, fun next _ => ih ?_ next⟩
    exact fun other member => always other (List.mem_cons_of_mem action member)

theorem run_preserves {invariant : State → Prop}
    (preserved : ∀ state action next, invariant state →
      step state action = some next → invariant next)
    {state final : State} {actions : List Action} (initially : invariant state)
    (reached : run step state actions = some final) : invariant final :=
  run_preserves_of_meets (fun state action next holds _ taken => preserved state action next holds taken)
    initially (meets_of_forall (fun _ _ _ => trivial) state) reached

variable (step) in
/-- What holds in every state that a run from `start` can reach. -/
def Always (start : State) (holds : State → Prop) : Prop :=
  ∀ actions final, run step start actions = some final → holds final

theorem always_iff_meets {condition : State → Action → Prop} {invariant good : State → Prop}
    (preserved : ∀ state action next, invariant state → step state action = some next → invariant next)
    (kept : ∀ state action next, invariant state → good state → step state action = some next →
      (good next ↔ condition state action))
    {state final : State} {actions : List Action} (initially : invariant state) (holds : good state)
    (reached : run step state actions = some final) :
    (∀ n middle, run step state (actions.take n) = some middle → good middle) ↔
      Meets step condition state actions := by
  induction actions generalizing state with
  | nil =>
    refine ⟨fun _ => trivial, fun _ n middle partway => ?_⟩
    rw [List.take_nil] at partway
    cases partway
    exact holds
  | cons action rest ih =>
    obtain ⟨next, taken, onward⟩ := Option.bind_eq_some_iff.mp reached
    have exactly := kept state action next initially holds taken
    have after := preserved state action next initially taken
    constructor
    · intro always
      have holds' : good next := always 1 next (by simpa [run_singleton] using taken)
      refine ⟨exactly.mp holds', fun other otherTaken => ?_⟩
      cases taken.symm.trans otherTaken
      refine (ih after holds' onward).mp fun n middle partway => always (n + 1) middle ?_
      rwa [List.take_succ_cons, run_cons_some _ taken]
    · rintro ⟨met, meets⟩ n middle partway
      cases n with
      | zero =>
        cases partway
        exact holds
      | succ n =>
        rw [List.take_succ_cons, run_cons_some _ taken] at partway
        exact (ih after (exactly.mpr met) onward).mpr (meets next taken) n middle partway

section history

universe w

variable {History : Type w} (record : State → Action → History → History)

/-- The value of a history variable after the actions: each step that is taken updates it
from the state it is taken in. -/
def history (step : State → Action → Option State) : State → List Action → History → History
  | _, [], past => past
  | state, action :: rest, past =>
    match step state action with
    | none => past
    | some next => history step next rest (record state action past)

variable {record}

theorem history_preserves {invariant : State → History → Prop}
    (preserved : ∀ state action next past, invariant state past → step state action = some next →
      invariant next (record state action past))
    {state final : State} {actions : List Action} {past : History} (initially : invariant state past)
    (reached : run step state actions = some final) :
    invariant final (history record step state actions past) := by
  induction actions generalizing state past with
  | nil =>
    cases reached
    exact initially
  | cons action rest ih =>
    obtain ⟨next, taken, onward⟩ := Option.bind_eq_some_iff.mp reached
    simp only [history, taken]
    exact ih (preserved state action next past initially taken) onward

end history

section leads

/-- From every state that meets the precondition the actions run to their end, in a state
that meets the postcondition. -/
def Leads (step : State → Action → Option State) (before : State → Prop) (actions : List Action)
    (after : State → Prop) : Prop :=
  ∀ state, before state → ∃ final, run step state actions = some final ∧ after final

variable {before middle after : State → Prop} {first second actions : List Action}

theorem Leads.append (leads : Leads step before first middle) (onward : Leads step middle second after) :
    Leads step before (first ++ second) after := by
  intro state holds
  obtain ⟨halfway, reached, holds⟩ := leads state holds
  obtain ⟨final, onward, holds⟩ := onward halfway holds
  exact ⟨final, run_trans reached onward, holds⟩

theorem Leads.iterate {during : Nat → State → Prop}
    (round : ∀ k, Leads step (during (k + 1)) actions (during k)) (rounds : Nat) :
    Leads step (during rounds) (List.replicate rounds actions).flatten (during 0) := by
  induction rounds with
  | zero => exact fun state holds => ⟨state, rfl, holds⟩
  | succ rounds ih =>
    rw [List.replicate_succ, List.flatten_cons]
    exact (round rounds).append ih

end leads

end Transition
