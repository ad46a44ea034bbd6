import Mathlib.Data.List.Basic

/-! Self-delimiting encodings: an encoded value can be followed by anything and
still be read off, so concatenations of encodings are injective. -/

namespace SelfDelimiting

universe u

variable {Symbol : Type u} (stop more : Symbol)

def encode : List Symbol → List Symbol
  | [] => [stop]
  | symbol :: rest => more :: symbol :: encode rest

def encodeOption : Option (List Symbol) → List Symbol
  | none => [stop]
  | some word => more :: encode stop more word

def encodeList : List (List Symbol) → List Symbol
  | [] => [stop]
  | word :: rest => more :: (encode stop more word ++ encodeList rest)

variable {stop more} {suffix tail : List Symbol}

theorem encode_append_inj (distinct : stop ≠ more)
    (same : encode stop more first ++ suffix = encode stop more second ++ tail) :
    first = second ∧ suffix = tail := by
  induction first generalizing second with
  | nil =>
    cases second with
    | nil => exact ⟨rfl, List.append_cancel_left same⟩
    | cons symbol rest => exact absurd (List.cons.inj same).1 distinct
  | cons symbol rest ih =>
    cases second with
    | nil => exact absurd (List.cons.inj same).1.symm distinct
    | cons symbol' rest' =>
      obtain ⟨sameHead, sameRest⟩ := List.cons.inj (List.cons.inj same).2
      obtain ⟨equal, onward⟩ := ih sameRest
      exact ⟨by rw [sameHead, equal], onward⟩

theorem encodeOption_append_inj (distinct : stop ≠ more)
    (same : encodeOption stop more first ++ suffix = encodeOption stop more second ++ tail) :
    first = second ∧ suffix = tail := by
  cases first with
  | none =>
    cases second with
    | none => exact ⟨rfl, (List.cons.inj same).2⟩
    | some word => exact absurd (List.cons.inj same).1 distinct
  | some word =>
    cases second with
    | none => exact absurd (List.cons.inj same).1.symm distinct
    | some word' =>
      obtain ⟨rfl, onward⟩ := encode_append_inj distinct (List.cons.inj same).2
      exact ⟨rfl, onward⟩

theorem encodeList_append_inj (distinct : stop ≠ more)
    (same : encodeList stop more first ++ suffix = encodeList stop more second ++ tail) :
    first = second ∧ suffix = tail := by
  induction first generalizing second with
  | nil =>
    cases second with
    | nil => exact ⟨rfl, (List.cons.inj same).2⟩
    | cons word rest => exact absurd (List.cons.inj same).1 distinct
  | cons word rest ih =>
    cases second with
    | nil => exact absurd (List.cons.inj same).1.symm distinct
    | cons word' rest' =>
      simp only [encodeList, List.cons_append, List.append_assoc, List.cons.injEq, true_and] at same
      obtain ⟨rfl, sameRest⟩ := encode_append_inj distinct same
      obtain ⟨rfl, onward⟩ := ih sameRest
      exact ⟨rfl, onward⟩

end SelfDelimiting
