import Mathlib.Data.List.Flatten
import Mathlib.Data.List.Infix

/-! A reader that takes one chunk from a stream before it looks at its buffer. -/

namespace ChunkReader

universe u v w

variable {Symbol : Type u} {Output : Type v} (parse : List Symbol → Option (Output × List Symbol))

/-- One call: the value, unless the stream has ended, with the buffer and the chunks left. -/
def next (buffer : List Symbol) : List (List Symbol) → Option Output × List Symbol × List (List Symbol)
  | [] => (none, buffer, [])
  | chunk :: rest =>
    match parse (buffer ++ chunk) with
    | some (output, left) => (some output, left, rest)
    | none => next (buffer ++ chunk) rest

def calls : Nat → List Symbol → List (List Symbol) → List (Option Output)
  | 0, _, _ => []
  | count + 1, buffer, chunks =>
    let (result, left, rest) := next parse buffer chunks
    result :: calls count left rest

theorem next_spec (buffer : List Symbol) (chunks : List (List Symbol)) :
    (∀ output, (next parse buffer chunks).1 = some output → ∃ whole left, parse whole = some (output, left)) ∧
      (next parse buffer chunks).2.2 <:+ chunks := by
  induction chunks generalizing buffer with
  | nil => exact ⟨fun output returned => (by cases returned), List.suffix_refl _⟩
  | cons chunk rest ih =>
    rw [next]
    split
    · rename_i output left parsed
      refine ⟨fun other returned => ?_, List.suffix_cons chunk rest⟩
      cases returned
      exact ⟨_, _, parsed⟩
    · obtain ⟨parsed, suffix⟩ := ih (buffer ++ chunk)
      exact ⟨parsed, suffix.trans (List.suffix_cons chunk rest)⟩

theorem parsed_of_mem_calls (returned : some output ∈ calls parse count buffer chunks) :
    ∃ whole left, parse whole = some (output, left) := by
  induction count generalizing buffer chunks with
  | zero => cases returned
  | succ count ih =>
    rcases List.mem_cons.mp returned with now | later
    · exact (next_spec parse buffer chunks).1 output now.symm
    · exact ih later

def lastChunks (room : Nat) : List (List Symbol) → List (List Symbol)
  | [] => []
  | chunk :: rest => if (chunk :: rest).flatten.length ≤ room then chunk :: rest else lastChunks room rest

theorem lastChunks_of_le (fits : chunks.flatten.length ≤ room) :
    lastChunks room chunks = chunks := by
  cases chunks with
  | nil => rfl
  | cons chunk rest => exact if_pos fits

theorem lastChunks_suffix (room : Nat) (chunks : List (List Symbol)) : lastChunks room chunks <:+ chunks := by
  induction chunks with
  | nil => exact List.suffix_refl _
  | cons chunk rest ih =>
    rw [lastChunks]
    split
    · exact List.suffix_refl _
    · exact ih.trans (List.suffix_cons chunk rest)

theorem lastChunks_lastChunks (narrow : room ≤ wider) (chunks : List (List Symbol)) :
    lastChunks room (lastChunks wider chunks) = lastChunks room chunks := by
  induction chunks with
  | nil => rfl
  | cons chunk rest ih =>
    by_cases fits : (chunk :: rest).flatten.length ≤ wider
    · rw [lastChunks_of_le fits]
    · have tight : ¬ (chunk :: rest).flatten.length ≤ room := fun small => fits (small.trans narrow)
      rw [lastChunks, if_neg fits, ih, lastChunks, if_neg tight]

theorem lastChunks_cons (room : Nat) (chunk : List Symbol) (rest : List (List Symbol)) :
    lastChunks room (chunk :: rest) = lastChunks room rest ∨
      (lastChunks room (chunk :: rest) = chunk :: rest ∧ lastChunks room rest = rest) := by
  by_cases fits : (chunk :: rest).flatten.length ≤ room
  · right
    refine ⟨lastChunks_of_le fits, lastChunks_of_le ?_⟩
    simp only [List.flatten_cons, List.length_append] at fits
    omega
  · left
    rw [lastChunks, if_neg fits]

section stream

variable {Frame : Type w} (encode : Frame → List Symbol) (output : Frame → Output)

def Paced (frames : List Frame) (chunks : List (List Symbol)) : Prop :=
  ∀ rest, rest <:+ frames → rest.length ≤ (lastChunks (rest.flatMap encode).length chunks).length

variable {encode} {frame : Frame} {frames : List Frame} {buffer tail : List Symbol} {chunk : List Symbol}
  {chunks : List (List Symbol)}

theorem length_flatMap_le_of_suffix (suffix : rest <:+ frames) :
    (rest.flatMap encode).length ≤ (frames.flatMap encode).length := by
  obtain ⟨first, rfl⟩ := suffix
  simp

theorem paced_cons_iff (fits : (chunk :: chunks).flatten.length ≤ ((frame :: frames).flatMap encode).length) :
    Paced encode (frame :: frames) (chunk :: chunks) ↔
      Paced encode frames (lastChunks (frames.flatMap encode).length chunks) := by
  constructor
  · intro paced rest suffix
    rw [lastChunks_lastChunks (length_flatMap_le_of_suffix suffix)]
    have whole := paced (frame :: frames) (List.suffix_refl _)
    rw [lastChunks_of_le fits] at whole
    have enough := paced rest (suffix.trans (List.suffix_cons frame frames))
    rcases lastChunks_cons (rest.flatMap encode).length chunk chunks with same | ⟨-, all⟩
    · rwa [same] at enough
    · rw [all]
      exact suffix.length_le.trans (Nat.le_of_succ_le_succ whole)
  · intro paced rest suffix
    rcases List.suffix_cons_iff.mp suffix with rfl | shorter
    · have enough := paced frames (List.suffix_refl _)
      rw [lastChunks_lastChunks (Nat.le_refl _)] at enough
      rw [lastChunks_of_le fits]
      exact Nat.succ_le_succ (enough.trans (lastChunks_suffix _ _).length_le)
    · have enough := paced rest shorter
      rw [lastChunks_lastChunks (length_flatMap_le_of_suffix shorter)] at enough
      rcases lastChunks_cons (rest.flatMap encode).length chunk chunks with same | ⟨all, allLeft⟩
      · rwa [same]
      · rw [all]
        rw [allLeft] at enough
        exact Nat.le_succ_of_le enough

variable {parse} {output}
  (complete : ∀ frame tail, parse (encode frame ++ tail) = some (output frame, tail))
  (incomplete : ∀ frame buffer, buffer <+: encode frame → buffer ≠ encode frame → parse buffer = none)

include complete in
theorem next_of_complete (filled : buffer ++ chunk = encode frame ++ left) :
    next parse buffer (chunk :: chunks) = (some (output frame), left, chunks) := by
  rw [next, filled, complete]

include complete incomplete in
theorem next_cons (cut : buffer ++ (chunk :: chunks).flatten = encode frame ++ tail) :
    ∃ left, next parse buffer (chunk :: chunks) = (some (output frame), left, lastChunks tail.length chunks) ∧
      left ++ (lastChunks tail.length chunks).flatten = tail := by
  induction chunks generalizing buffer chunk with
  | nil =>
    have filled : buffer ++ chunk = encode frame ++ tail := by simpa using cut
    exact ⟨tail, next_of_complete complete filled, by simp [lastChunks]⟩
  | cons following rest ih =>
    have onward : (buffer ++ chunk) ++ (following :: rest).flatten = encode frame ++ tail := by
      simpa using cut
    rcases List.append_eq_append_iff.mp onward with ⟨missing, short, arriving⟩ | ⟨left, filled, later⟩
    · by_cases done : missing = []
      · subst done
        have all : lastChunks tail.length (following :: rest) = following :: rest :=
          lastChunks_of_le (by simp [arriving])
        rw [all]
        exact ⟨[], next_of_complete complete (by simp [short]), by simpa using arriving⟩
      · have waiting : parse (buffer ++ chunk) = none := by
          refine incomplete frame _ ⟨missing, short.symm⟩ fun same => done ?_
          rw [same] at short
          simpa using short
        have crowded : ¬ (following :: rest).flatten.length ≤ tail.length := by
          have := List.length_pos_iff.mpr done
          rw [arriving, List.length_append]
          omega
        rw [next, waiting, lastChunks, if_neg crowded]
        exact ih onward
    · have all : lastChunks tail.length (following :: rest) = following :: rest :=
        lastChunks_of_le (by simp [later])
      rw [all]
      exact ⟨left, next_of_complete complete filled, later.symm⟩

include complete incomplete in
theorem calls_eq_iff {expected : Frame → Output} (solid : ∀ chunk ∈ chunks, chunk ≠ [])
    (cut : buffer ++ chunks.flatten = frames.flatMap encode) :
    calls parse (frames.length + 1) buffer chunks = (frames.map fun frame => some (expected frame)) ++ [none] ↔
      Paced encode frames chunks ∧ ∀ frame ∈ frames, output frame = expected frame := by
  induction frames generalizing buffer chunks with
  | nil =>
    have exhausted : chunks = [] := by
      have flat : chunks.flatten = [] := (List.append_eq_nil_iff.mp cut).2
      rw [List.flatten_eq_nil_iff] at flat
      exact List.eq_nil_iff_forall_not_mem.mpr fun chunk listed => solid chunk listed (flat chunk listed)
    subst exhausted
    simp [calls, next, Paced]
  | cons frame frames ih =>
    cases chunks with
    | nil =>
      constructor
      · intro same
        cases (List.cons.inj same).1
      · rintro ⟨paced, -⟩
        have whole := paced (frame :: frames) (List.suffix_refl _)
        simp [lastChunks] at whole
    | cons chunk chunks =>
      have shape : (frame :: frames).flatMap encode = encode frame ++ frames.flatMap encode := List.flatMap_cons
      rw [shape] at cut
      have fits : (chunk :: chunks).flatten.length ≤ ((frame :: frames).flatMap encode).length := by
        rw [shape, ← cut]
        simp
      obtain ⟨left, returned, onward⟩ := next_cons complete incomplete cut
      have solid' : ∀ other ∈ lastChunks (frames.flatMap encode).length chunks, other ≠ [] := fun other listed =>
        solid other (List.mem_cons_of_mem _ ((lastChunks_suffix _ _).mem listed))
      have first : calls parse ((frame :: frames).length + 1) buffer (chunk :: chunks) = some (output frame) ::
          calls parse (frames.length + 1) left (lastChunks (frames.flatMap encode).length chunks) := by
        rw [List.length_cons, calls, returned]
      rw [first, List.map_cons, List.cons_append, List.cons.injEq, Option.some.injEq, ih solid' onward,
        paced_cons_iff fits, List.forall_mem_cons]
      exact and_left_comm

section pushed

/-- A call on a reader into which the stream is pushed: more of the stream, or a look for a value. -/
inductive Call (Symbol : Type u) where
  | feed (chunk : List Symbol)
  | take

def fed : List (Call Symbol) → List Symbol
  | [] => []
  | .feed chunk :: calls => chunk ++ fed calls
  | .take :: calls => fed calls

def pushed (parse : List Symbol → Option (Output × List Symbol)) (buffer : List Symbol) :
    List (Call Symbol) → List Output × List Symbol
  | [] => ([], buffer)
  | .feed chunk :: calls => pushed parse (buffer ++ chunk) calls
  | .take :: calls =>
    match parse buffer with
    | some (output, left) => (output :: (pushed parse left calls).1, (pushed parse left calls).2)
    | none => pushed parse buffer calls

theorem pushed_append (calls more : List (Call Symbol)) :
    pushed parse buffer (calls ++ more) =
      ((pushed parse buffer calls).1 ++ (pushed parse (pushed parse buffer calls).2 more).1,
        (pushed parse (pushed parse buffer calls).2 more).2) := by
  induction calls generalizing buffer with
  | nil => rfl
  | cons call calls ih =>
    cases call with
    | feed chunk => exact ih
    | take =>
      simp only [List.cons_append, pushed]
      split
      · rw [ih]
        rfl
      · exact ih

def Unfinished (encode : Frame → List Symbol) (tail : List Symbol) : Prop :=
  ∃ frame, tail <+: encode frame ∧ tail ≠ encode frame

include complete incomplete in
theorem parse_of_cut (cut : buffer ++ later = encode frame ++ tail) :
    (∃ left, parse buffer = some (output frame, left) ∧ left ++ later = tail) ∨ parse buffer = none := by
  rcases List.append_eq_append_iff.mp cut with ⟨missing, short, -⟩ | ⟨left, filled, later⟩
  · by_cases done : missing = []
    · subst done
      rw [List.append_nil] at short
      refine .inl ⟨[], ?_, by simpa [short] using cut⟩
      have whole := complete frame []
      rwa [List.append_nil, short] at whole
    · refine .inr (incomplete frame _ ⟨missing, short.symm⟩ fun same => done ?_)
      rw [same] at short
      simpa using short
  · exact .inl ⟨left, by rw [filled, complete], later.symm⟩

include incomplete in
theorem parse_of_unfinished (unfinished : Unfinished encode tail) (begun : buffer <+: tail) : parse buffer = none := by
  obtain ⟨frame, short, different⟩ := unfinished
  refine incomplete frame buffer (begun.trans short) fun same => different ?_
  subst same
  exact short.eq_of_length (Nat.le_antisymm short.length_le begun.length_le)

include complete incomplete in
theorem pushed_eq {calls : List (Call Symbol)} (unfinished : Unfinished encode tail)
    (cut : buffer ++ fed calls = frames.flatMap encode ++ tail) :
    ∃ found rest, frames = found ++ rest ∧
      pushed parse buffer calls = (found.map output, rest.flatMap encode ++ tail) := by
  induction calls generalizing buffer frames with
  | nil =>
    rw [fed, List.append_nil] at cut
    exact ⟨[], frames, rfl, by rw [pushed, cut]; rfl⟩
  | cons call calls ih =>
    cases call with
    | feed chunk =>
      rw [fed, ← List.append_assoc] at cut
      exact ih cut
    | take =>
      rw [fed] at cut
      cases frames with
      | nil =>
        have waiting : parse buffer = none :=
          parse_of_unfinished incomplete unfinished ⟨fed calls, by simpa using cut⟩
        rw [pushed, waiting]
        exact ih cut
      | cons frame frames =>
        rw [List.flatMap_cons, List.append_assoc] at cut
        rcases parse_of_cut complete incomplete cut with ⟨left, parsed, onward⟩ | waiting
        · obtain ⟨found, rest, rfl, later⟩ := ih onward
          refine ⟨frame :: found, rest, rfl, ?_⟩
          simp [pushed, parsed, later, List.map_cons]
        · rw [pushed, waiting]
          exact ih (by rwa [List.flatMap_cons, List.append_assoc])

include complete incomplete in
theorem pushed_takes (unfinished : Unfinished encode tail) (enough : frames.length ≤ count) :
    pushed parse (frames.flatMap encode ++ tail) (List.replicate count .take) = (frames.map output, tail) := by
  induction count generalizing frames with
  | zero =>
    have nothing : frames = [] := List.length_eq_zero_iff.mp (Nat.le_zero.mp enough)
    subst nothing
    rfl
  | succ count ih =>
    cases frames with
    | nil =>
      have waiting : parse ([].flatMap encode ++ tail) = none :=
        parse_of_unfinished incomplete unfinished (List.prefix_refl tail)
      rw [List.replicate_succ, pushed, waiting]
      exact ih (Nat.zero_le _)
    | cons frame frames =>
      have onward := ih (Nat.le_of_succ_le_succ enough)
      simp [List.replicate_succ, List.flatMap_cons, List.append_assoc, pushed, complete, onward, List.map_cons]

include complete incomplete in
theorem pushed_all {calls : List (Call Symbol)} {count : Nat} (unfinished : Unfinished encode tail)
    (cut : buffer ++ fed calls = frames.flatMap encode ++ tail) (enough : frames.length ≤ count) :
    pushed parse buffer (calls ++ List.replicate count .take) = (frames.map output, tail) := by
  obtain ⟨found, rest, rfl, during⟩ := pushed_eq complete incomplete unfinished cut
  have few : rest.length ≤ count := by
    rw [List.length_append] at enough
    omega
  rw [pushed_append, during, pushed_takes complete incomplete unfinished few, List.map_append]

end pushed

end stream

end ChunkReader
