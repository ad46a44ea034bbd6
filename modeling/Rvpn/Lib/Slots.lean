import Mathlib.Data.List.Basic

/-! A growing list whose positions are names: what stands at a position after one entry is
replaced or added. -/

namespace Slots

variable {α : Type} {slots : List α} {index other : Nat} {entry found : α}

theorem of_set (present : (slots.set index entry)[other]? = some found) :
    (other = index ∧ found = entry) ∨ (other ≠ index ∧ slots[other]? = some found) := by
  by_cases same : other = index
  · subst same
    by_cases inside : other < slots.length
    · rw [List.getElem?_set_self inside] at present
      exact .inl ⟨rfl, (Option.some.inj present).symm⟩
    · rw [List.getElem?_eq_none (by simpa using inside)] at present
      cases present
  · rw [List.getElem?_set_ne (Ne.symm same)] at present
    exact .inr ⟨same, present⟩

theorem of_append (present : (slots ++ [entry])[other]? = some found) :
    slots[other]? = some found ∨ (other = slots.length ∧ found = entry) := by
  rcases Nat.lt_or_ge other slots.length with inside | outside
  · exact .inl (by rwa [List.getElem?_append_left inside] at present)
  · rw [List.getElem?_append_right outside, List.getElem?_singleton] at present
    split at present
    · exact .inr ⟨by omega, (Option.some.inj present).symm⟩
    · cases present

theorem of_modify (present : (slots.modify index change)[other]? = some found) :
    (other = index ∧ ∃ before, slots[index]? = some before ∧ found = change before) ∨
      (other ≠ index ∧ slots[other]? = some found) := by
  rw [List.getElem?_modify] at present
  by_cases same : other = index
  · subst same
    obtain ⟨before, stored, rfl⟩ : ∃ before, slots[other]? = some before ∧ change before = found := by
      simpa using present
    exact .inl ⟨rfl, before, stored, rfl⟩
  · refine .inr ⟨same, ?_⟩
    simpa [Ne.symm same] using present

end Slots
