import Mathlib.Data.List.Basic

/-! Overwriting part of a list, described cell by cell. -/

namespace Splice

variable {α : Type*}

def splice (offset : Nat) (cells row : List α) : List α :=
  row.take offset ++ cells ++ row.drop (offset + cells.length)

def window (offset width : Nat) (row : List α) : List α := (row.drop offset).take width

variable {offset width i : Nat} {cells row : List α}

theorem length_splice (fits : offset + cells.length ≤ row.length) :
    (splice offset cells row).length = row.length := by
  simp only [splice, List.length_append, List.length_take, List.length_drop]
  omega

theorem getElem?_splice (fits : offset + cells.length ≤ row.length) (i : Nat) :
    (splice offset cells row)[i]? =
      if offset ≤ i ∧ i < offset + cells.length then cells[i - offset]? else row[i]? := by
  have start : (row.take offset).length = offset := List.length_take_of_le (by omega)
  rw [splice, List.append_assoc]
  rcases Nat.lt_or_ge i offset with before | after
  · rw [List.getElem?_append_left (by omega), List.getElem?_take_of_lt before, if_neg (by omega)]
  · rw [List.getElem?_append_right (by omega), start]
    by_cases inside : i < offset + cells.length
    · rw [List.getElem?_append_left (by omega), if_pos ⟨after, inside⟩]
    · rw [List.getElem?_append_right (by omega), List.getElem?_drop, if_neg (by omega)]
      congr 1
      omega

theorem getElem?_splice_of_outside (fits : offset + cells.length ≤ row.length)
    (outside : i < offset ∨ offset + cells.length ≤ i) : (splice offset cells row)[i]? = row[i]? := by
  rw [getElem?_splice fits, if_neg (by omega)]

theorem length_window (fits : offset + width ≤ row.length) : (window offset width row).length = width := by
  rw [window, List.length_take, List.length_drop]
  omega

theorem getElem?_window (inside : i < width) : (window offset width row)[i]? = row[offset + i]? := by
  rw [window, List.getElem?_take_of_lt inside, List.getElem?_drop]

end Splice
