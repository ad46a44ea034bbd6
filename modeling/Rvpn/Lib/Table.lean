import Mathlib.Data.List.Nodup

/-! A finite map as the list of its entries, in the order in which it is iterated. -/

structure Table (Key Value : Type) where
  entries : List (Key × Value)
  nodup : (entries.map Prod.fst).Nodup

namespace Table

variable {Key Value : Type}

def empty : Table Key Value := ⟨[], List.nodup_nil⟩

def keys (table : Table Key Value) : List Key := table.entries.map Prod.fst

def filter (keep : Key → Value → Bool) (table : Table Key Value) : Table Key Value where
  entries := table.entries.filter fun entry => keep entry.1 entry.2
  nodup := table.nodup.sublist (List.filter_sublist.map _)

def mapValues (change : Key → Value → Value) (table : Table Key Value) : Table Key Value where
  entries := table.entries.map fun entry => (entry.1, change entry.1 entry.2)
  nodup := by simpa [Function.comp_def] using table.nodup

def find? (test : Key → Value → Bool) (table : Table Key Value) : Option (Key × Value) :=
  table.entries.find? fun entry => test entry.1 entry.2

theorem keys_nodup (table : Table Key Value) : table.keys.Nodup := table.nodup

@[simp] theorem keys_mapValues (table : Table Key Value) :
    (table.mapValues change).keys = table.keys := by
  simp [keys, mapValues, Function.comp_def]

theorem keys_filter_perm (table : Table Key Value) (keep : Key → Value → Bool) :
    ((table.filter keep).keys ++ (table.filter fun key value => !keep key value).keys).Perm table.keys := by
  simp only [keys, filter, ← List.map_append]
  exact (List.filter_append_perm _ _).map _

variable [DecidableEq Key]

def lookup (key : Key) (table : Table Key Value) : Option Value :=
  (table.entries.find? fun entry => entry.1 = key).map Prod.snd

def erase (key : Key) (table : Table Key Value) : Table Key Value := table.filter fun other _ => other ≠ key

def insert (key : Key) (value : Value) (table : Table Key Value) : Table Key Value where
  entries := (key, value) :: (table.erase key).entries
  nodup := by
    rw [List.map_cons, List.nodup_cons]
    refine ⟨?_, (table.erase key).nodup⟩
    simp [erase, filter]

variable {table : Table Key Value} {key other : Key} {value : Value}

theorem lookup_eq_some_iff : table.lookup key = some value ↔ (key, value) ∈ table.entries := by
  constructor
  · intro found
    obtain ⟨⟨other, stored⟩, first, rfl⟩ := Option.map_eq_some_iff.mp found
    have same : other = key := by simpa using List.find?_some first
    exact same ▸ List.mem_of_find?_eq_some first
  · intro member
    have present : (table.entries.find? fun entry => entry.1 = key).isSome = true :=
      List.find?_isSome.mpr ⟨_, member, by simp⟩
    obtain ⟨⟨other, stored⟩, first⟩ := Option.isSome_iff_exists.mp present
    have same : other = key := by simpa using List.find?_some first
    have unique := List.inj_on_of_nodup_map table.nodup (List.mem_of_find?_eq_some first) member same
    rw [lookup, first, unique]
    rfl

theorem lookup_filter :
    (table.filter keep).lookup key = (table.lookup key).filter (keep key) := by
  ext stored
  rw [Option.filter_eq_some_iff, lookup_eq_some_iff, lookup_eq_some_iff]
  exact List.mem_filter

theorem lookup_mapValues :
    (table.mapValues change).lookup key = (table.lookup key).map (change key) := by
  ext stored
  rw [Option.map_eq_some_iff, lookup_eq_some_iff]
  constructor
  · intro member
    obtain ⟨⟨other, old⟩, listed, same⟩ := List.mem_map.mp member
    obtain ⟨rfl, rfl⟩ := Prod.mk.inj same
    exact ⟨old, lookup_eq_some_iff.mpr listed, rfl⟩
  · rintro ⟨old, found, rfl⟩
    exact List.mem_map.mpr ⟨(key, old), lookup_eq_some_iff.mp found, rfl⟩

theorem lookup_erase : (table.erase key).lookup other = if other = key then none else table.lookup other := by
  rw [erase, lookup_filter]
  by_cases same : other = key
  · cases table.lookup other <;> simp [same]
  · cases table.lookup other <;> simp [same]

theorem lookup_insert : (table.insert key value).lookup other =
    if other = key then some value else table.lookup other := by
  by_cases same : other = key
  · subst same
    simp [lookup, insert]
  · have kept : (table.erase key).lookup other = table.lookup other := by rw [lookup_erase, if_neg same]
    rw [if_neg same, ← kept]
    simp [lookup, insert, Ne.symm same]

theorem of_lookup_erase (present : (table.erase key).lookup other = some value) :
    other ≠ key ∧ table.lookup other = some value := by
  rw [lookup_erase] at present
  split at present
  · cases present
  · rename_i different
    exact ⟨different, present⟩

theorem of_lookup_insert (present : (table.insert key value).lookup other = some found) :
    (other = key ∧ found = value) ∨ (other ≠ key ∧ table.lookup other = some found) := by
  rw [lookup_insert] at present
  split at present
  · rename_i same
    exact .inl ⟨same, (Option.some.inj present).symm⟩
  · rename_i different
    exact .inr ⟨different, present⟩

theorem lookup_of_find? (found : table.find? test = some (key, value)) :
    table.lookup key = some value ∧ test key value = true := by
  refine ⟨lookup_eq_some_iff.mpr (List.mem_of_find?_eq_some found), ?_⟩
  obtain ⟨passed, -⟩ := List.find?_eq_some_iff_append.mp found
  exact passed

theorem mem_keys_iff : key ∈ table.keys ↔ ∃ value, table.lookup key = some value := by
  simp [keys, lookup_eq_some_iff]

theorem lookup_eq_none_iff : table.lookup key = none ↔ key ∉ table.keys := by
  rw [mem_keys_iff, Option.eq_none_iff_forall_ne_some, not_exists]

theorem keys_insert_of_fresh (fresh : table.lookup key = none) :
    (table.insert key value).keys = key :: table.keys := by
  have absent : ∀ entry ∈ table.entries, entry.1 ≠ key := by
    rintro ⟨other, stored⟩ member rfl
    rw [lookup_eq_some_iff.mpr member] at fresh
    cases fresh
  have unchanged : (table.erase key).entries = table.entries :=
    List.filter_eq_self.mpr fun entry member => by simpa using absent entry member
  simp [keys, insert, unchanged]

theorem keys_erase_perm (present : table.lookup key = some value) :
    (key :: (table.erase key).keys).Perm table.keys := by
  have removed : (table.erase key).keys = table.keys.erase key := by
    rw [table.keys_nodup.erase_eq_filter]
    simp [keys, erase, filter, List.filter_map, Function.comp_def, bne, BEq.beq]
  rw [removed]
  exact (List.perm_cons_erase (mem_keys_iff.mpr ⟨value, present⟩)).symm

end Table
