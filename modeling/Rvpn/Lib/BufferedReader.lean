import Mathlib.Data.List.Basic

/-! A stream that arrives in pieces, and a reader that keeps what it has read ahead in a buffer. -/

namespace BufferedReader

variable {α : Type}

/-- What is still to come, and how much of it each read finds, at the most. -/
structure Source (α : Type) where
  symbols : List α
  cuts : List Nat

/-- One read into some space. There is at least one symbol, if the stream has not ended. -/
def Source.read (space : Nat) (source : Source α) : List α × Source α :=
  let count := min space (max 1 (source.cuts.headD space))
  (source.symbols.take count, ⟨source.symbols.drop count, source.cuts.tail⟩)

structure Reader (α : Type) where
  buffer : List α
  source : Source α

def through (stop : α → Bool) : List α → List α
  | [] => []
  | symbol :: rest => if stop symbol then [symbol] else symbol :: through stop rest

namespace Reader

def new (source : Source α) : Reader α := ⟨[], source⟩

def pending (reader : Reader α) : List α := reader.buffer ++ reader.source.symbols

def fill (capacity : Nat) (reader : Reader α) : Reader α :=
  if reader.buffer.isEmpty then ⟨(reader.source.read capacity).1, (reader.source.read capacity).2⟩ else reader

/-- The symbols up to the first of a kind, or to the end of the stream, in so many rounds. -/
def readUntilIn (capacity : Nat) (stop : α → Bool) : Nat → Reader α → List α × Reader α
  | 0, reader => ([], reader)
  | rounds + 1, reader =>
    let filled := reader.fill capacity
    if filled.buffer.isEmpty then ([], filled)
    else if filled.buffer.any stop then
      let line := through stop filled.buffer
      (line, ⟨filled.buffer.drop line.length, filled.source⟩)
    else
      let (rest, after) := readUntilIn capacity stop rounds ⟨[], filled.source⟩
      (filled.buffer ++ rest, after)

def readUntil (capacity : Nat) (stop : α → Bool) (reader : Reader α) : List α × Reader α :=
  readUntilIn capacity stop (reader.pending.length + 1) reader

/-- One read from the buffer, which is passed by if it is empty and the space is large. -/
def read (capacity space : Nat) (reader : Reader α) : List α × Reader α :=
  if reader.buffer.isEmpty ∧ capacity ≤ space then
    ((reader.source.read space).1, ⟨[], (reader.source.read space).2⟩)
  else
    let filled := reader.fill capacity
    (filled.buffer.take space, ⟨filled.buffer.drop space, filled.source⟩)

def readExactIn (capacity : Nat) : Nat → Nat → Reader α → Option (List α × Reader α)
  | _, 0, reader => some ([], reader)
  | 0, _ + 1, _ => none
  | rounds + 1, count + 1, reader =>
    let (piece, next) := reader.read capacity (count + 1)
    if piece.isEmpty then none
    else (readExactIn capacity rounds (count + 1 - piece.length) next).map fun (rest, after) => (piece ++ rest, after)

def readExact (capacity count : Nat) (reader : Reader α) : Option (List α × Reader α) :=
  readExactIn capacity (reader.pending.length + 1) count reader

end Reader

section through

variable {stop : α → Bool} {first second : List α}

theorem through_append (absent : first.any stop = false) :
    through stop (first ++ second) = first ++ through stop second := by
  induction first with
  | nil => rfl
  | cons symbol rest ih =>
    rw [List.any_cons, Bool.or_eq_false_iff] at absent
    simp [through, absent.1, ih absent.2]

theorem through_append_of_any (present : first.any stop = true) :
    through stop (first ++ second) = through stop first := by
  induction first with
  | nil => cases present
  | cons symbol rest ih =>
    by_cases here : stop symbol = true
    · simp [through, here]
    · have later : rest.any stop = true := by simpa [here] using present
      simp [through, here, ih later]

theorem through_append_cons (absent : first.any stop = false) (ending : stop symbol = true) :
    through stop (first ++ symbol :: second) = first ++ [symbol] := by
  rw [through_append absent]
  simp [through, ending]

theorem length_through_le (symbols : List α) : (through stop symbols).length ≤ symbols.length := by
  induction symbols with
  | nil => exact Nat.le_refl _
  | cons symbol rest ih =>
    rw [through]
    split
    · simp
    · simpa using ih

end through

variable {capacity : Nat} {stop : α → Bool} {source : Source α} {reader : Reader α}

theorem Source.read_append (space : Nat) (source : Source α) :
    (source.read space).1 ++ (source.read space).2.symbols = source.symbols :=
  List.take_append_drop _ _

theorem Source.length_read_le (space : Nat) (source : Source α) : (source.read space).1.length ≤ space := by
  rw [Source.read, List.length_take]
  omega

theorem Source.symbols_of_read_nil (positive : 0 < space) (nothing : (source.read space).1 = []) :
    source.symbols = [] := by
  have length : ((source.read space).1).length = 0 := by rw [nothing]; rfl
  rw [Source.read, List.length_take] at length
  apply List.eq_nil_of_length_eq_zero
  omega

namespace Reader

@[simp] theorem pending_new (source : Source α) : (new source).pending = source.symbols := rfl

theorem pending_fill : (reader.fill capacity).pending = reader.pending := by
  unfold fill
  split
  · rename_i empty
    rw [pending, pending, List.isEmpty_iff.mp empty]
    exact Source.read_append capacity reader.source
  · rfl

theorem pending_of_fill_nil (positive : 0 < capacity) (nothing : (reader.fill capacity).buffer = []) :
    reader.pending = [] := by
  unfold fill at nothing
  split at nothing
  · rename_i empty
    rw [pending, List.isEmpty_iff.mp empty, Source.symbols_of_read_nil positive nothing]
    rfl
  · rename_i full
    rw [nothing] at full
    simp at full

theorem readUntilIn_spec (positive : 0 < capacity) (enough : reader.pending.length < rounds) :
    (reader.readUntilIn capacity stop rounds).1 = through stop reader.pending ∧
      (reader.readUntilIn capacity stop rounds).2.pending =
        reader.pending.drop (through stop reader.pending).length := by
  induction rounds generalizing reader with
  | zero => cases enough
  | succ rounds ih =>
    rw [readUntilIn]
    have whole : (reader.fill capacity).pending = reader.pending := pending_fill
    dsimp only
    split
    · rename_i empty
      have ended := pending_of_fill_nil positive (List.isEmpty_iff.mp empty)
      rw [whole, ended]
      exact ⟨rfl, rfl⟩
    · rename_i full
      split
      · rename_i found
        have line : through stop reader.pending = through stop (reader.fill capacity).buffer := by
          rw [← whole, pending, through_append_of_any found]
        refine ⟨line.symm, ?_⟩
        rw [line, ← whole, pending, pending, List.drop_append_of_le_length (length_through_le _)]
      · rename_i missing
        have absent : (reader.fill capacity).buffer.any stop = false := by simpa using missing
        have shorter : (⟨[], (reader.fill capacity).source⟩ : Reader α).pending.length < rounds := by
          have longer := congrArg List.length whole
          have some : 0 < (reader.fill capacity).buffer.length := List.length_pos_iff.mpr (by simpa using full)
          simp only [pending, List.length_append, List.length_nil] at longer enough ⊢
          omega
        obtain ⟨line, left⟩ := ih shorter
        have same : through stop reader.pending = (reader.fill capacity).buffer ++
            through stop (reader.fill capacity).source.symbols := by
          rw [← whole, pending, through_append absent]
        refine ⟨?_, ?_⟩
        · rw [line, same]
          rfl
        · rw [left, same, ← whole, pending, List.length_append, List.drop_append]
          simp [pending]

theorem readUntil_spec (positive : 0 < capacity) :
    (reader.readUntil capacity stop).1 = through stop reader.pending ∧
      (reader.readUntil capacity stop).2.pending = reader.pending.drop (through stop reader.pending).length :=
  readUntilIn_spec positive (Nat.lt_succ_self _)

theorem read_append (capacity space : Nat) (reader : Reader α) :
    (reader.read capacity space).1 ++ (reader.read capacity space).2.pending = reader.pending := by
  unfold read
  split
  · rename_i direct
    rw [pending, pending, List.isEmpty_iff.mp direct.1]
    exact Source.read_append space reader.source
  · dsimp only
    rw [pending, ← List.append_assoc, List.take_append_drop]
    exact pending_fill

theorem length_read_le (capacity space : Nat) (reader : Reader α) : (reader.read capacity space).1.length ≤ space := by
  unfold read
  split
  · exact Source.length_read_le space reader.source
  · exact List.length_take_le _ _

theorem pending_of_read_nil (positive : 0 < capacity) (room : 0 < space)
    (nothing : (reader.read capacity space).1 = []) : reader.pending = [] := by
  unfold read at nothing
  split at nothing
  · rename_i direct
    rw [pending, List.isEmpty_iff.mp direct.1, Source.symbols_of_read_nil room nothing]
    rfl
  · refine pending_of_fill_nil positive ?_
    rcases List.take_eq_nil_iff.mp nothing with none | none
    · omega
    · exact none

/-- So many symbols of these are returned if there are as many, and the rest is left. -/
def TakesExactly (whole : List α) (count : Nat) (result : Option (List α × Reader α)) : Prop :=
  if count ≤ whole.length then ∃ after, result = some (whole.take count, after) ∧ after.pending = whole.drop count
  else result = none

theorem TakesExactly.append {piece : List α} {result : Option (List α × Reader α)} (fits : piece.length ≤ count)
    (takes : TakesExactly rest (count - piece.length) result) :
    TakesExactly (piece ++ rest) count (result.map fun (later, after) => (piece ++ later, after)) := by
  unfold TakesExactly at takes ⊢
  rw [List.length_append]
  split at takes
  · rename_i within
    obtain ⟨after, rfl, left⟩ := takes
    rw [if_pos (by omega)]
    refine ⟨after, ?_, ?_⟩
    · rw [Option.map_some, List.take_append, List.take_of_length_le fits]
    · rw [left, List.drop_append, List.drop_of_length_le fits]
      rfl
  · rename_i beyond
    rw [takes, if_neg (by omega)]
    rfl

theorem readExactIn_spec (positive : 0 < capacity) (enough : reader.pending.length < rounds) :
    TakesExactly reader.pending count (reader.readExactIn capacity rounds count) := by
  induction rounds generalizing reader count with
  | zero => cases enough
  | succ rounds ih =>
    cases count with
    | zero =>
      rw [TakesExactly, if_pos (Nat.zero_le _)]
      exact ⟨reader, rfl, rfl⟩
    | succ count =>
      rw [readExactIn]
      have whole := reader.read_append capacity (count + 1)
      have fits := reader.length_read_le capacity (count + 1)
      dsimp only
      split
      · rename_i empty
        have ended := pending_of_read_nil positive (Nat.succ_pos count) (List.isEmpty_iff.mp empty)
        rw [ended]
        rfl
      · rename_i full
        have some : 0 < (reader.read capacity (count + 1)).1.length := List.length_pos_iff.mpr (by simpa using full)
        have shorter : (reader.read capacity (count + 1)).2.pending.length < rounds := by
          have longer := congrArg List.length whole
          rw [List.length_append] at longer
          omega
        have takes :=
          (ih shorter : TakesExactly _ (count + 1 - (reader.read capacity (count + 1)).1.length) _).append fits
        rwa [whole] at takes

theorem readExact_spec (reader : Reader α) (positive : 0 < capacity) (count : Nat) :
    TakesExactly reader.pending count (reader.readExact capacity count) :=
  readExactIn_spec positive (Nat.lt_succ_self _)

end Reader

end BufferedReader
