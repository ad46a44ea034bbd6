import Rvpn.Lib.BigEndian

/-! Readers that take their values off the front of a byte string. -/

namespace ByteReader

/-- A cursor over the bytes still to be read. -/
abbrev Reader (Failure : Type) := StateT (List UInt8) (Except Failure)

variable {Failure α β : Type}

def exactly (failure : Failure) (count : Nat) : Reader Failure (List UInt8) := fun data =>
  if data.length < count then .error failure else .ok (data.take count, data.drop count)

def byte (failure : Failure) : Reader Failure UInt8 := do
  let bytes ← exactly failure 1
  return bytes.headD 0

def number (failure : Failure) (width : Nat) : Reader Failure Nat := do
  let bytes ← exactly failure width
  return BigEndian.decode bytes

def array (failure : Failure) (count : Nat) : Reader Failure (Vector UInt8 count) := do
  let bytes ← exactly failure count
  return Vector.ofFn fun i => bytes.getD i 0

def times (reader : Reader Failure α) : Nat → Reader Failure (List α)
  | 0 => pure []
  | count + 1 => do
    let value ← reader
    let values ← times reader count
    return value :: values

theorem run_bind_eq_ok {reader : Reader Failure α} {next : α → Reader Failure β} {data rest : List UInt8}
    {result : β} : (reader >>= next).run data = .ok (result, rest) ↔
      ∃ value middle, reader.run data = .ok (value, middle) ∧ (next value).run middle = .ok (result, rest) := by
  rw [StateT.run_bind]
  cases read : reader.run data with
  | error failure => simp [bind, Except.bind]
  | ok pair =>
    obtain ⟨value, middle⟩ := pair
    simp [bind, Except.bind]

section reads

def Reads (reader : Reader Failure α) (bytes : List UInt8) (value : α) : Prop :=
  ∀ rest, reader.run (bytes ++ rest) = .ok (value, rest)

variable {reader : Reader Failure α} {next : α → Reader Failure β} {failure : Failure} {bytes others : List UInt8}
  {value : α} {result : β}

theorem reads_pure (value : α) : Reads (pure value : Reader Failure α) [] value := fun _ => rfl

theorem Reads.bind (former : Reads reader bytes value) (latter : Reads (next value) others result) :
    Reads (reader >>= next) (bytes ++ others) result := by
  intro rest
  rw [List.append_assoc]
  exact run_bind_eq_ok.mpr ⟨value, others ++ rest, former _, latter rest⟩

theorem Reads.finish (former : Reads reader bytes value) (latter : Reads (next value) [] result) :
    Reads (reader >>= next) bytes result := by
  have whole := former.bind latter
  rwa [List.append_nil] at whole

theorem Reads.return (former : Reads reader bytes value) (make : α → β) :
    Reads (reader >>= fun read => pure (make read)) bytes (make value) :=
  former.finish (reads_pure _)

theorem reads_exactly (sized : bytes.length = count) : Reads (exactly failure count) bytes bytes := by
  subst sized
  intro rest
  simp [exactly, StateT.run]

theorem reads_byte (value : UInt8) : Reads (byte failure) [value] value :=
  (reads_exactly List.length_singleton).return _

theorem reads_number (fits : n < 256 ^ width) :
    Reads (number failure width) (BigEndian.encode width n) n := by
  have read := (reads_exactly (BigEndian.length_encode width n) : Reads (exactly failure width) _ _).return
    BigEndian.decode
  rwa [BigEndian.decode_encode fits] at read

theorem reads_array (bytes : Vector UInt8 count) : Reads (array failure count) bytes.toList bytes := by
  have same : (Vector.ofFn fun i : Fin count => bytes.toList.getD i 0) = bytes := by
    ext i bound
    simp
  have read := (reads_exactly (Vector.length_toList : bytes.toList.length = count) :
    Reads (exactly failure count) _ _).return fun read => Vector.ofFn fun i : Fin count => read.getD i 0
  rwa [same] at read

theorem reads_times (each : ∀ value ∈ values, Reads reader (encode value) value) :
    Reads (times reader values.length) (values.flatMap encode) values := by
  induction values with
  | nil => exact reads_pure []
  | cons value values ih =>
    have later := ih fun other listed => each other (List.mem_cons_of_mem _ listed)
    rw [List.flatMap_cons]
    exact (each value List.mem_cons_self).bind (later.return (value :: ·))

theorem Reads.run' (read : Reads reader bytes value) : StateT.run' reader bytes = .ok value := by
  have whole := read []
  rw [List.append_nil] at whole
  rw [StateT.run'_eq, whole]
  rfl

end reads

section returns

def Returns (good : α → Prop) (reader : Reader Failure α) : Prop :=
  ∀ data value rest, reader.run data = .ok (value, rest) → good value

variable {reader : Reader Failure α} {next : α → Reader Failure β} {failure : Failure} {good : α → Prop}
  {fine : β → Prop}

theorem returns_pure (holds : good value) : Returns good (pure value : Reader Failure α) := by
  intro data other rest read
  cases read
  exact holds

theorem returns_throw (failure : Failure) : Returns good (throw failure : Reader Failure α) := by
  intro data value rest read
  cases read

theorem returns_throw_bind (failure : Failure) : Returns fine (throw failure >>= next : Reader Failure β) := by
  intro data value rest read
  cases read

theorem Returns.bind (former : Returns good reader) (latter : ∀ value, good value → Returns fine (next value)) :
    Returns fine (reader >>= next) := by
  intro data result rest read
  obtain ⟨value, middle, first, second⟩ := run_bind_eq_ok.mp read
  exact latter value (former data value middle first) middle result rest second

theorem returns_bind (latter : ∀ value, Returns fine (next value)) : Returns fine (reader >>= next) := by
  intro data result rest read
  obtain ⟨value, middle, -, second⟩ := run_bind_eq_ok.mp read
  exact latter value middle result rest second

theorem Returns.mono (returns : Returns good reader) (implied : ∀ value, good value → wider value) :
    Returns wider reader :=
  fun data value rest read => implied value (returns data value rest read)

theorem returns_exactly (failure : Failure) (count : Nat) :
    Returns (fun bytes => bytes.length = count) (exactly failure count) := by
  intro data bytes rest read
  simp only [exactly, StateT.run] at read
  split at read
  · cases read
  · rename_i enough
    cases read
    rw [List.length_take]
    omega

theorem returns_number (failure : Failure) (width : Nat) :
    Returns (fun n => n < 256 ^ width) (number failure width) :=
  (returns_exactly failure width).bind fun bytes sized => returns_pure (sized ▸ BigEndian.decode_lt bytes)

theorem returns_times (each : Returns good reader) (count : Nat) :
    Returns (fun values => values.length = count ∧ ∀ value ∈ values, good value) (times reader count) := by
  induction count with
  | zero => exact returns_pure ⟨rfl, fun value listed => absurd listed List.not_mem_nil⟩
  | succ count ih =>
    refine each.bind fun value holds => ih.bind fun values later => returns_pure ⟨?_, ?_⟩
    · rw [List.length_cons, later.1]
    · exact List.forall_mem_cons.mpr ⟨holds, later.2⟩

theorem Returns.run' (returns : Returns good reader) (read : StateT.run' reader data = .ok value) : good value := by
  rw [StateT.run'_eq] at read
  cases first : reader.run data with
  | error failure =>
    rw [first] at read
    cases read
  | ok pair =>
    obtain ⟨other, rest⟩ := pair
    rw [first] at read
    cases read
    exact returns data _ rest first

end returns

section takes

/-- The reader takes so many bytes, or fails where there are fewer. -/
structure Takes (reader : Reader Failure α) (count : Nat) : Prop where
  short : ∀ {data : List UInt8}, data.length < count → ∃ failure, reader.run data = .error failure
  enough : ∀ {data : List UInt8}, count ≤ data.length → ∃ value, reader.run data = .ok (value, data.drop count)

variable {reader : Reader Failure α} {next : α → Reader Failure β} {count more : Nat}

theorem takes_exactly (failure : Failure) (count : Nat) : Takes (exactly failure count) count where
  short := fun few => ⟨failure, if_pos few⟩
  enough := fun many => ⟨_, if_neg (Nat.not_lt.mpr many)⟩

theorem takes_pure (value : α) : Takes (pure value : Reader Failure α) 0 where
  short := fun few => absurd few (Nat.not_lt_zero _)
  enough := fun _ => ⟨value, rfl⟩

theorem Takes.suffix (takes : Takes reader count) (read : reader.run data = .ok (value, rest)) : rest <:+ data := by
  by_cases many : count ≤ data.length
  · obtain ⟨other, taken⟩ := takes.enough many
    rw [taken] at read
    cases read
    exact List.drop_suffix count data
  · obtain ⟨failure, failed⟩ := takes.short (Nat.lt_of_not_le many)
    rw [failed] at read
    cases read

theorem Takes.bind (former : Takes reader count) (latter : ∀ value, Takes (next value) more) :
    Takes (reader >>= next) (count + more) where
  short := by
    intro data few
    by_cases many : count ≤ data.length
    · obtain ⟨value, read⟩ := former.enough many
      have rest : (data.drop count).length < more := by
        rw [List.length_drop]
        omega
      obtain ⟨failure, failed⟩ := (latter value).short rest
      refine ⟨failure, ?_⟩
      rw [StateT.run_bind, read]
      exact failed
    · obtain ⟨failure, failed⟩ := former.short (Nat.lt_of_not_le many)
      refine ⟨failure, ?_⟩
      rw [StateT.run_bind, failed]
      rfl
  enough := by
    intro data many
    obtain ⟨value, read⟩ := former.enough (Nat.le_trans (Nat.le_add_right count more) many)
    have rest : more ≤ (data.drop count).length := by
      rw [List.length_drop]
      omega
    obtain ⟨result, onward⟩ := (latter value).enough rest
    refine ⟨result, run_bind_eq_ok.mpr ⟨value, _, read, ?_⟩⟩
    rw [onward, List.drop_drop]

end takes

end ByteReader
