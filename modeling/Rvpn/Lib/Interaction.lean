import Mathlib.Data.List.Basic

/-! Programs that put questions to their environment, and the traces they can have. -/

namespace Interaction

universe u

/-- A result, or a question and how the program goes on with each reply. -/
inductive Program {Question : Type} (Reply : Question → Type) (α : Type u) where
  | done (result : α)
  | ask (question : Question) (next : Reply question → Program Reply α)

/-- A question with its reply. -/
abbrev Event {Question : Type} (Reply : Question → Type) := Sigma Reply

variable {Question : Type} {Reply : Question → Type} {α β : Type}

namespace Program

def bind : Program Reply α → (α → Program Reply β) → Program Reply β
  | .done result, next => next result
  | .ask question onward, next => .ask question fun reply => (onward reply).bind next

instance : Monad (Program Reply) where
  pure := .done
  bind := bind

def request (question : Question) : Program Reply (Reply question) := .ask question .done

/-- The result when the environment takes part as recorded, if it is one of the program's traces. -/
def replay [DecidableEq Question] : Program Reply α → List (Event Reply) → Option α
  | .done result, [] => some result
  | .done _, _ :: _ => none
  | .ask _ _, [] => none
  | .ask question next, ⟨asked, reply⟩ :: rest =>
    if same : asked = question then (next (same ▸ reply)).replay rest else none

/-- Go on with the next event, if it is for the question that the program has come to. -/
def advance [DecidableEq Question] : Program Reply α → Event Reply → Option (Program Reply α)
  | .done _, _ => none
  | .ask question next, ⟨asked, reply⟩ => if same : asked = question then some (next (same ▸ reply)) else none

end Program

open Program

inductive Yields : Program Reply α → List (Event Reply) → α → Prop where
  | done (result : α) : Yields (.done result) [] result
  | ask {question : Question} {next : Reply question → Program Reply α} (reply : Reply question)
      {rest : List (Event Reply)} {result : α} (onward : Yields (next reply) rest result) :
      Yields (.ask question next) (⟨question, reply⟩ :: rest) result

variable {program : Program Reply α} {next : α → Program Reply β} {trace : List (Event Reply)} {result : α}
  {final : β}

theorem Yields.of_done (yields : Yields (.done value) trace result) : trace = [] ∧ result = value := by
  cases yields
  exact ⟨rfl, rfl⟩

theorem Yields.of_pure (yields : Yields (pure value) trace result) : trace = [] ∧ result = value :=
  yields.of_done

theorem Yields.of_ask (yields : Yields (.ask question onward) trace result) :
    ∃ reply rest, trace = ⟨question, reply⟩ :: rest ∧ Yields (onward reply) rest result := by
  cases yields
  exact ⟨_, _, rfl, by assumption⟩

theorem Yields.of_request (yields : Yields (request question) trace reply) : trace = [⟨question, reply⟩] := by
  obtain ⟨other, rest, rfl, ended⟩ := yields.of_ask
  obtain ⟨rfl, rfl⟩ := ended.of_done
  rfl

theorem yields_request (reply : Reply question) : Yields (request question) [⟨question, reply⟩] reply :=
  .ask reply (.done reply)

theorem Yields.of_bind (yields : Yields (program >>= next) trace final) :
    ∃ first second result, trace = first ++ second ∧ Yields program first result ∧
      Yields (next result) second final := by
  induction program generalizing trace with
  | done value => exact ⟨[], trace, value, rfl, .done value, yields⟩
  | ask question onward ih =>
    obtain ⟨reply, rest, rfl, later⟩ := yields.of_ask
    obtain ⟨first, second, result, rfl, former, latter⟩ := ih reply later
    exact ⟨_, second, result, rfl, .ask reply former, latter⟩

theorem Yields.bind (former : Yields program first result) (latter : Yields (next result) second final) :
    Yields (program >>= next) (first ++ second) final := by
  induction former with
  | done value => exact latter
  | ask reply _ ih => exact .ask reply (ih latter)

theorem Yields.of_request_bind (yields : Yields (request question >>= onward) trace final) :
    ∃ reply rest, trace = ⟨question, reply⟩ :: rest ∧ Yields (onward reply) rest final :=
  yields.of_ask

theorem yields_of_replay [DecidableEq Question] (replayed : program.replay trace = some result) :
    Yields program trace result := by
  induction program generalizing trace with
  | done value =>
    cases trace with
    | nil =>
      cases replayed
      exact .done _
    | cons event rest => cases replayed
  | ask question onward ih =>
    cases trace with
    | nil => cases replayed
    | cons event rest =>
      obtain ⟨asked, reply⟩ := event
      rw [replay] at replayed
      split at replayed
      · rename_i same
        subst same
        exact .ask reply (ih reply replayed)
      · cases replayed

theorem replay_of_yields [DecidableEq Question] (yields : Yields program trace result) :
    program.replay trace = some result := by
  induction yields with
  | done value => rfl
  | ask reply _ ih =>
    rw [replay, dif_pos rfl]
    exact ih

theorem exists_yields [∀ question, Nonempty (Reply question)] (program : Program Reply α) :
    ∃ trace result, Yields program trace result := by
  induction program with
  | done value => exact ⟨[], value, .done value⟩
  | ask question onward ih =>
    obtain ⟨reply⟩ := (inferInstance : Nonempty (Reply question))
    obtain ⟨rest, result, yields⟩ := ih reply
    exact ⟨_, result, .ask reply yields⟩

inductive Steps (program : Program Reply α) : List (Event Reply) → Program Reply α → Prop where
  | start : Steps program [] program
  | ask {past : List (Event Reply)} {question : Question} {next : Reply question → Program Reply α}
      (come : Steps program past (.ask question next)) (reply : Reply question) :
      Steps program (past ++ [⟨question, reply⟩]) (next reply)

section steps

variable {past : List (Event Reply)} {rest other : Program Reply α}

theorem Steps.advance [DecidableEq Question] (come : Steps program past rest)
    (taken : rest.advance event = some other) : Steps program (past ++ [event]) other := by
  obtain ⟨asked, reply⟩ := event
  cases rest with
  | done value => cases taken
  | ask question next =>
    rw [Program.advance] at taken
    split at taken
    · rename_i same
      subst same
      cases taken
      exact .ask come reply
    · cases taken

theorem Steps.yields (come : Steps program past rest) (onward : Yields rest later result) :
    Yields program (past ++ later) result := by
  induction come generalizing later with
  | start => exact onward
  | ask come reply ih =>
    rw [List.append_assoc]
    exact ih (.ask reply onward)

theorem Steps.exists_yields [∀ question, Nonempty (Reply question)] (come : Steps program past rest) :
    ∃ later result, Yields rest later result ∧ Yields program (past ++ later) result := by
  obtain ⟨later, result, onward⟩ := Interaction.exists_yields rest
  exact ⟨later, result, onward, come.yields onward⟩

end steps

def Only (allowed : Event Reply → Prop) (program : Program Reply α) : Prop :=
  ∀ trace result, Yields program trace result → ∀ event ∈ trace, allowed event

section only

variable {allowed : Event Reply → Prop}

theorem only_pure (value : α) : Only allowed (pure value : Program Reply α) := by
  intro trace result yields event listed
  obtain ⟨rfl, -⟩ := yields.of_pure
  cases listed

theorem only_request (permitted : ∀ reply, allowed ⟨question, reply⟩) :
    Only allowed (request question) := by
  intro trace reply yields event listed
  rw [yields.of_request, List.mem_singleton] at listed
  exact listed ▸ permitted reply

theorem only_bind (former : Only allowed program) (latter : ∀ value, Only allowed (next value)) :
    Only allowed (program >>= next) := by
  intro trace final yields event listed
  obtain ⟨first, second, value, rfl, begun, ended⟩ := yields.of_bind
  rcases List.mem_append.mp listed with early | late
  · exact former first value begun event early
  · exact latter value second final ended event late

theorem Only.mono (only : Only allowed program) (implied : ∀ event, allowed event → wider event) :
    Only wider program :=
  fun trace result yields event listed => implied event (only trace result yields event listed)

theorem Only.of_steps [∀ question, Nonempty (Reply question)] (only : Only allowed program)
    (come : Steps program past rest) : ∀ event ∈ past, allowed event := by
  obtain ⟨later, result, -, whole⟩ := come.exists_yields
  exact fun event listed => only _ result whole event (List.mem_append_left _ listed)

end only

/-- However the environment replies: `post` holds of the result and of all events, with those that came before. -/
def Program.After : Program Reply α → List (Event Reply) → (List (Event Reply) → α → Prop) → Prop
  | .done result, past, post => post past result
  | .ask question next, past, post => ∀ reply, (next reply).After (past ++ [⟨question, reply⟩]) post

section after

variable {past : List (Event Reply)}

theorem after_iff : program.After past post ↔ ∀ trace result, Yields program trace result → post (past ++ trace) result := by
  induction program generalizing past with
  | done value =>
    refine ⟨fun holds trace result yields => ?_, fun all => List.append_nil past ▸ all [] value (.done value)⟩
    obtain ⟨rfl, rfl⟩ := yields.of_done
    rwa [List.append_nil]
  | ask question onward ih =>
    refine ⟨fun holds trace result yields => ?_, fun all reply => (ih reply).mpr fun trace result yields => ?_⟩
    · obtain ⟨reply, rest, rfl, later⟩ := yields.of_ask
      exact List.append_cons .. ▸ (ih reply).mp (holds reply) rest result later
    · exact List.append_cons .. ▸ all _ result (.ask reply yields)

theorem Yields.after (yields : Yields program trace result) (holds : program.After [] post) : post trace result :=
  after_iff.mp holds trace result yields

theorem after_request {next : Reply question → Program Reply β}
    (holds : ∀ reply, (next reply).After (past ++ [⟨question, reply⟩]) post) : (request question >>= next).After past post :=
  holds

theorem after_yields : program.After [] fun trace result => Yields program trace result :=
  after_iff.mpr fun _ _ yields => yields

theorem Program.After.bind (former : program.After past middle)
    (latter : ∀ trace value, past ⊆ trace → middle trace value → (next value).After trace post) :
    (program >>= next).After past post := by
  refine after_iff.mpr fun trace final yields => ?_
  obtain ⟨first, second, value, rfl, begun, ended⟩ := yields.of_bind
  have reached := latter _ value (List.subset_append_left ..) (after_iff.mp former first value begun)
  exact List.append_assoc .. ▸ after_iff.mp reached second final ended

theorem Program.After.imp (holds : program.After past post) (implied : ∀ trace value, post trace value → weaker trace value) :
    program.After past weaker :=
  after_iff.mpr fun trace result yields => implied _ _ (after_iff.mp holds trace result yields)

theorem Program.After.and (first : program.After past post) (second : program.After past other) :
    program.After past fun trace value => post trace value ∧ other trace value :=
  after_iff.mpr fun trace result yields => ⟨after_iff.mp first trace result yields, after_iff.mp second trace result yields⟩

theorem after_true : program.After past fun _ _ => True := after_iff.mpr fun _ _ _ => trivial

theorem Only.after (only : Only allowed program) (past : List (Event Reply)) :
    program.After past fun trace _ => ∃ new, trace = past ++ new ∧ ∀ event ∈ new, allowed event :=
  after_iff.mpr fun trace result yields => ⟨trace, rfl, only trace result yields⟩

end after

/-- The program keeps an invariant of the events. -/
def Program.Keeps (program : Program Reply α) (inv : List (Event Reply) → Prop) : Prop :=
  ∀ past, inv past → program.After past fun trace _ => inv trace

section keeps

variable {inv : List (Event Reply) → Prop}

theorem keeps_pure (value : α) : (pure value : Program Reply α).Keeps inv := fun _ holds => holds

theorem Program.Keeps.bind (former : program.Keeps inv) (latter : ∀ value, (next value).Keeps inv) :
    (program >>= next).Keeps inv :=
  fun past holds => (former past holds).bind fun trace value _ kept => latter value trace kept

end keeps

def Can (program : Program Reply α) (event : Event Reply) : Prop :=
  ∃ trace result, Yields program trace result ∧ event ∈ trace

section can

variable {event : Event Reply}

theorem can_request (question : Question) (reply : Reply question) : Can (request question) ⟨question, reply⟩ :=
  ⟨_, reply, yields_request reply, List.mem_singleton.mpr rfl⟩

theorem Can.bind [∀ question, Nonempty (Reply question)] (can : Can program event) (next : α → Program Reply β) :
    Can (program >>= next) event := by
  obtain ⟨first, value, begun, listed⟩ := can
  obtain ⟨second, final, ended⟩ := exists_yields (next value)
  exact ⟨first ++ second, final, begun.bind ended, List.mem_append_left _ listed⟩

theorem Can.after (begun : Yields program trace result) (can : Can (next result) event) :
    Can (program >>= next) event := by
  obtain ⟨second, final, ended, listed⟩ := can
  exact ⟨trace ++ second, final, begun.bind ended, List.mem_append_right _ listed⟩

end can

section lift

variable {Other : Type} {OtherReply : Other → Type}

def Program.lift : Program Reply α → Program (Sum.elim Reply OtherReply) α
  | .done result => .done result
  | .ask question next => .ask (.inl question) fun reply => (next reply).lift

def Event.lift (event : Event Reply) : Event (Sum.elim Reply OtherReply) := ⟨.inl event.1, event.2⟩

theorem Yields.of_lift {trace : List (Event (Sum.elim Reply OtherReply))} (yields : Yields program.lift trace result) :
    ∃ inner, trace = inner.map Event.lift ∧ Yields program inner result := by
  induction program generalizing trace with
  | done value =>
    obtain ⟨rfl, rfl⟩ := yields.of_done
    exact ⟨[], rfl, .done _⟩
  | ask question onward ih =>
    obtain ⟨reply, rest, rfl, later⟩ := yields.of_ask
    obtain ⟨inner, rfl, same⟩ := ih reply later
    exact ⟨⟨question, reply⟩ :: inner, rfl, @Yields.ask _ _ _ question _ reply _ _ same⟩

theorem Yields.lift (yields : Yields program trace result) :
    Yields (program.lift : Program (Sum.elim Reply OtherReply) α) (trace.map Event.lift) result := by
  induction yields with
  | done value => exact .done value
  | ask reply _ ih => exact @Yields.ask _ (Sum.elim Reply OtherReply) _ (.inl _) _ reply _ _ ih

theorem only_lift {allowed : Event (Sum.elim Reply OtherReply) → Prop}
    (permitted : ∀ event, allowed (Event.lift event)) :
    Only allowed program.lift := by
  intro trace result yields event listed
  obtain ⟨inner, rfl, -⟩ := yields.of_lift
  obtain ⟨below, -, rfl⟩ := List.mem_map.mp listed
  exact permitted below

def Event.inner? : Event (Sum.elim Reply OtherReply) → Option (Event Reply)
  | ⟨.inl question, reply⟩ => some ⟨question, reply⟩
  | ⟨.inr _, _⟩ => none

def innerTrace (trace : List (Event (Sum.elim Reply OtherReply))) : List (Event Reply) := trace.filterMap Event.inner?

theorem innerTrace_append (first second : List (Event (Sum.elim Reply OtherReply))) :
    innerTrace (first ++ second) = innerTrace first ++ innerTrace second := List.filterMap_append

theorem innerTrace_lift (trace : List (Event Reply)) :
    innerTrace (trace.map Event.lift : List (Event (Sum.elim Reply OtherReply))) = trace := by
  induction trace with
  | nil => rfl
  | cons event rest ih =>
    obtain ⟨question, reply⟩ := event
    exact congrArg (⟨question, reply⟩ :: ·) ih

theorem mem_innerTrace {trace : List (Event (Sum.elim Reply OtherReply))} :
    (⟨question, reply⟩ : Event Reply) ∈ innerTrace trace ↔
      (⟨.inl question, reply⟩ : Event (Sum.elim Reply OtherReply)) ∈ trace := by
  rw [innerTrace, List.mem_filterMap]
  constructor
  · rintro ⟨⟨asked | asked, other⟩, listed, same⟩
    · cases same
      exact listed
    · cases same
  · exact fun listed => ⟨_, listed, rfl⟩

theorem Program.After.lift {past : List (Event (Sum.elim Reply OtherReply))} (holds : program.After (innerTrace past) post) :
    (program.lift : Program (Sum.elim Reply OtherReply) α).After past fun trace value => post (innerTrace trace) value := by
  refine after_iff.mpr fun trace value yields => ?_
  obtain ⟨inner, rfl, below⟩ := yields.of_lift
  rw [innerTrace_append, innerTrace_lift]
  exact after_iff.mp holds inner value below

theorem innerTrace_eq_nil {trace : List (Event (Sum.elim Reply OtherReply))}
    (outer : ∀ event ∈ trace, Event.inner? event = none) : innerTrace trace = [] :=
  List.filterMap_eq_nil_iff.mpr outer

end lift

end Interaction
