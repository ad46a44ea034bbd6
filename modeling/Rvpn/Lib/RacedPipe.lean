import Mathlib.Data.List.Basic

/-! A producer, a bounded channel, a consumer and a third task: the first task to finish ends all three. -/

namespace RacedPipe

universe u

variable {Item : Type u}

inductive Stage (Item : Type u) where
  | running (held : Option Item)
  | finished
  deriving DecidableEq

def Stage.held : Stage Item → List Item
  | .running held => held.toList
  | .finished => []

structure Pipe (Item : Type u) where
  producer : Stage Item
  channel : List Item
  consumer : Stage Item
  otherDone : Bool
  /-- The first finished task has been joined and the others are aborted. -/
  ended : Bool
  deriving DecidableEq

def Pipe.start : Pipe Item := ⟨.running none, [], .running none, false, false⟩

def Pipe.contents (pipe : Pipe Item) : List Item := pipe.consumer.held ++ (pipe.channel ++ pipe.producer.held)

inductive Action where
  | push
  | take
  | finishConsumer
  | join
  deriving DecidableEq

def step (capacity : Nat) (pipe : Pipe Item) (action : Action) : Option (Pipe Item) :=
  if pipe.ended then none
  else
    match action with
    | .push =>
      match pipe.producer with
      | .running (some item) =>
        if pipe.channel.length < capacity then
          some { pipe with producer := .running none, channel := pipe.channel ++ [item] }
        else none
      | _ => none
    | .take =>
      match pipe.consumer, pipe.channel with
      | .running none, item :: rest => some { pipe with consumer := .running (some item), channel := rest }
      | _, _ => none
    | .finishConsumer =>
      match pipe.consumer, pipe.channel, pipe.producer with
      | .running none, [], .finished => some { pipe with consumer := .finished }
      | _, _, _ => none
    | .join =>
      match pipe.producer, pipe.consumer, pipe.otherDone with
      | .running _, .running _, false => none
      | _, _, _ => some { pipe with ended := true }

def produce (pipe : Pipe Item) (item : Item) : Option (Pipe Item) :=
  match pipe.ended, pipe.producer with
  | false, .running none => some { pipe with producer := .running (some item) }
  | _, _ => none

def finishProducer (pipe : Pipe Item) : Option (Pipe Item) :=
  match pipe.ended, pipe.producer with
  | false, .running none => some { pipe with producer := .finished }
  | _, _ => none

def consume (pipe : Pipe Item) : Option (Item × Pipe Item) :=
  match pipe.ended, pipe.consumer with
  | false, .running (some item) => some (item, { pipe with consumer := .running none })
  | _, _ => none

def finishOther (pipe : Pipe Item) : Option (Pipe Item) :=
  if pipe.ended then none else some { pipe with otherDone := true }

section spec

variable {pipe next : Pipe Item} {item : Item}

theorem step_spec (taken : step capacity pipe action = some next) :
    pipe.ended = false ∧ next.contents = pipe.contents ∧
      (next.producer = .finished ↔ pipe.producer = .finished) ∧ next.ended = decide (action = .join) := by
  obtain ⟨producer, channel, consumer, otherDone, ended⟩ := pipe
  cases ended with
  | true => cases taken
  | false =>
    refine ⟨rfl, ?_⟩
    cases action with
    | push =>
      cases producer with
      | finished => cases taken
      | running held =>
        cases held with
        | none => cases taken
        | some item =>
          by_cases room : channel.length < capacity
          · obtain rfl : _ = next := by simpa [step, room] using taken
            simp [Pipe.contents, Stage.held]
          · simp [step, room] at taken
    | take =>
      cases consumer with
      | finished => cases taken
      | running held =>
        cases held with
        | some item => cases taken
        | none =>
          cases channel with
          | nil => cases taken
          | cons item rest =>
            cases taken
            simp [Pipe.contents, Stage.held]
    | finishConsumer =>
      simp only [step] at taken
      split at taken
      · cases taken
      · split at taken
        · cases taken
          simp_all [Pipe.contents, Stage.held]
        · cases taken
    | join =>
      simp only [step] at taken
      split at taken
      · cases taken
      · split at taken
        · cases taken
        · cases taken
          simp [Pipe.contents]

theorem produce_spec (taken : produce pipe item = some next) :
    pipe.ended = false ∧ next.ended = false ∧ next.contents = pipe.contents ++ [item] ∧
      pipe.producer ≠ .finished ∧ next.producer ≠ .finished := by
  unfold produce at taken
  split at taken
  · rename_i live ready
    cases taken
    simp [Pipe.contents, live, ready, Stage.held]
  · cases taken

theorem finishProducer_spec (taken : finishProducer pipe = some next) :
    pipe.ended = false ∧ next.ended = false ∧ next.contents = pipe.contents ∧
      pipe.producer ≠ .finished ∧ next.producer = .finished := by
  unfold finishProducer at taken
  split at taken
  · rename_i live ready
    cases taken
    simp [Pipe.contents, live, ready, Stage.held]
  · cases taken

theorem consume_spec (taken : consume pipe = some (item, next)) :
    pipe.ended = false ∧ next.ended = false ∧ pipe.contents = item :: next.contents ∧
      next.producer = pipe.producer := by
  unfold consume at taken
  split at taken
  · rename_i live ready
    cases taken
    simp [Pipe.contents, live, ready, Stage.held]
  · cases taken

theorem finishOther_spec (taken : finishOther pipe = some next) :
    pipe.ended = false ∧ next.ended = false ∧ next.contents = pipe.contents ∧ next.producer = pipe.producer := by
  unfold finishOther at taken
  split at taken
  · cases taken
  · rename_i live
    cases taken
    exact ⟨Bool.eq_false_iff.mpr live, Bool.eq_false_iff.mpr live, rfl, rfl⟩

end spec

end RacedPipe
