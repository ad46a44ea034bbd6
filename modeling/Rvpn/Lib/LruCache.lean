import Mathlib.Data.List.Nodup

/-! A bounded least-recently-used map: the entries are kept most recent first,
and an insertion into a full map forgets the last one. -/

universe u v

/-- The two fields after `entries` are the map's well-formedness: no more
entries than the capacity, and one entry for each key. -/
structure LruCache (Key : Type u) (Value : Type v) where
  cap : Nat
  entries : List (Key × Value)
  bounded : entries.length ≤ cap
  distinct : (entries.map Prod.fst).Nodup

namespace LruCache

variable {Key : Type u} {Value : Type v} [DecidableEq Key]

omit [DecidableEq Key] in
@[ext] theorem ext {first second : LruCache Key Value} (cap : first.cap = second.cap)
    (entries : first.entries = second.entries) : first = second := by
  cases first
  cases second
  cases cap
  cases entries
  rfl

omit [DecidableEq Key] in
private theorem keys_nodup_of_sublist {entries rest : List (Key × Value)}
    (distinct : (entries.map Prod.fst).Nodup) (kept : rest.Sublist entries) :
    (rest.map Prod.fst).Nodup :=
  distinct.sublist (kept.map Prod.fst)

def new (cap : Nat) : LruCache Key Value := ⟨cap, [], Nat.zero_le _, List.nodup_nil⟩

def isEmpty (cache : LruCache Key Value) : Bool := cache.entries.isEmpty

def contains (cache : LruCache Key Value) (key : Key) : Bool :=
  cache.entries.any fun entry => entry.1 = key

/-- Insert in front, replacing the key's old entry and evicting the last one
when the map was full. -/
def put (cache : LruCache Key Value) (key : Key) (value : Value) : LruCache Key Value where
  cap := cache.cap
  entries := ((key, value) :: cache.entries.filter (fun entry => entry.1 ≠ key)).take cache.cap
  bounded := List.length_take_le _ _
  distinct := by
    refine keys_nodup_of_sublist ?_ (List.take_sublist _ _)
    rw [List.map_cons, List.nodup_cons]
    refine ⟨?_, keys_nodup_of_sublist cache.distinct List.filter_sublist⟩
    intro member
    obtain ⟨entry, present, same⟩ := List.mem_map.mp member
    have other := (List.mem_filter.mp present).2
    simp [same] at other

def pop (cache : LruCache Key Value) (key : Key) : Option Value × LruCache Key Value :=
  ((cache.entries.find? fun entry => entry.1 = key).map Prod.snd,
    { cap := cache.cap
      entries := cache.entries.filter fun entry => entry.1 ≠ key
      bounded := Nat.le_trans (List.length_filter_le _ _) cache.bounded
      distinct := keys_nodup_of_sublist cache.distinct List.filter_sublist })

theorem contains_iff (cache : LruCache Key Value) (key : Key) :
    cache.contains key = true ↔ ∃ value, (key, value) ∈ cache.entries := by
  simp only [contains, List.any_eq_true, decide_eq_true_eq]
  constructor
  · rintro ⟨⟨found, value⟩, member, same⟩
    exact ⟨value, same ▸ member⟩
  · rintro ⟨value, member⟩
    exact ⟨(key, value), member, rfl⟩

theorem forall_key_put {property : Key → Prop} {cache : LruCache Key Value} {key : Key}
    {value : Value} (stored : ∀ entry ∈ cache.entries, property entry.1) (added : property key) :
    ∀ entry ∈ (cache.put key value).entries, property entry.1 := by
  intro entry member
  rcases List.mem_cons.mp (List.mem_of_mem_take member) with same | old
  · exact same ▸ added
  · exact stored entry (List.mem_of_mem_filter old)

theorem contains_eq_false {property : Key → Prop} {cache : LruCache Key Value} {key : Key}
    (stored : ∀ entry ∈ cache.entries, property entry.1) (outside : ¬ property key) :
    cache.contains key = false := by
  apply Bool.eq_false_iff.mpr
  intro present
  obtain ⟨value, member⟩ := (cache.contains_iff key).mp present
  exact outside (stored _ member)

theorem pop_of_contains {cache : LruCache Key Value} (present : cache.contains key = true) :
    (∃ value, (cache.pop key).1 = some value) ∧ (cache.pop key).2 ≠ cache := by
  obtain ⟨value, member⟩ := (cache.contains_iff key).mp present
  constructor
  · cases found : cache.entries.find? (fun entry => entry.1 = key) with
    | none => simpa using List.find?_eq_none.mp found _ member
    | some entry => exact ⟨entry.2, by simp [pop, found]⟩
  · intro same
    have kept : (key, value) ∈ (cache.pop key).2.entries := by
      rw [same]
      exact member
    simpa using (List.mem_filter.mp kept).2

end LruCache
