/-!
# Maps in the order of their keys

A map from texts whose entries are kept in increasing order of their keys, so that two maps with
the same entries are the same value. `get?_put_self` and `get?_put_of_ne` say what a new entry
changes.
-/

namespace ScreenSynthesis

/-- Entries with increasing keys. -/
structure SortedMap (α : Type) where
  entries : List (String × α) := []
  sorted : entries.Pairwise (fun a b => a.1 < b.1) := by exact .nil

namespace SortedMap

variable {α : Type}

/-- The map without entries. -/
def empty : SortedMap α := {}

instance : Inhabited (SortedMap α) := ⟨empty⟩

/-- The value under a key. -/
def get? (m : SortedMap α) (key : String) : Option α := m.entries.lookup key

/-- The keys in increasing order. -/
def keys (m : SortedMap α) : List String := m.entries.map (·.1)

/-- How many entries there are. -/
def size (m : SortedMap α) : Nat := m.entries.length

/-- The entries with a value put under a key. -/
def putEntry (key : String) (value : α) : List (String × α) → List (String × α)
  | [] => [(key, value)]
  | (k, v) :: rest =>
    if key < k then (key, value) :: (k, v) :: rest
    else if key = k then (key, value) :: rest
    else (k, v) :: putEntry key value rest

theorem mem_putEntry {key : String} {value : α} {entries : List (String × α)} {e : String × α}
    (h : e ∈ putEntry key value entries) : e = (key, value) ∨ e ∈ entries := by
  induction entries with
  | nil => simpa [putEntry] using h
  | cons entry rest ih =>
    obtain ⟨k, v⟩ := entry
    rw [putEntry] at h
    split at h
    · simpa using h
    · split at h
      · rcases List.mem_cons.1 h with h | h
        · exact Or.inl h
        · exact Or.inr (by simp [h])
      · rcases List.mem_cons.1 h with h | h
        · exact Or.inr (by simp [h])
        · rcases ih h with h | h
          · exact Or.inl h
          · exact Or.inr (by simp [h])

theorem sorted_putEntry {key : String} {value : α} {entries : List (String × α)}
    (h : entries.Pairwise (fun a b => a.1 < b.1)) :
    (putEntry key value entries).Pairwise (fun a b => a.1 < b.1) := by
  induction entries with
  | nil => simp [putEntry]
  | cons entry rest ih =>
    obtain ⟨k, v⟩ := entry
    obtain ⟨hk, hrest⟩ := List.pairwise_cons.1 h
    rw [putEntry]
    split
    · rename_i hlt
      -- the new key stands in front of the first greater one, and so of all behind that
      refine List.pairwise_cons.2 ⟨fun e he => ?_, h⟩
      rcases List.mem_cons.1 he with rfl | he
      · exact hlt
      · exact String.lt_trans hlt (hk e he)
    · split
      · rename_i heq
        subst heq
        exact List.pairwise_cons.2 ⟨hk, hrest⟩
      · rename_i hlt hne
        refine List.pairwise_cons.2 ⟨fun e he => ?_, ih hrest⟩
        rcases mem_putEntry he with rfl | he
        · -- the new key is neither less than the old one nor equal to it
          have hle : k ≤ key := String.not_lt.1 hlt
          by_cases hgt : k < key
          · exact hgt
          · exact absurd (String.le_antisymm (String.not_lt.1 hgt) hle) hne
        · exact hk e he

/-- The map with a value put under a key, in place of what was there. -/
def put (m : SortedMap α) (key : String) (value : α) : SortedMap α where
  entries := putEntry key value m.entries
  sorted := sorted_putEntry m.sorted

theorem lookup_putEntry_self (key : String) (value : α) (entries : List (String × α)) :
    (putEntry key value entries).lookup key = some value := by
  induction entries with
  | nil => simp [putEntry]
  | cons entry rest ih =>
    obtain ⟨k, v⟩ := entry
    rw [putEntry]
    split
    · simp
    · split
      · simp
      · rename_i hne
        have hkey : (key == k) = false := by simpa using hne
        simp [List.lookup_cons, hkey, ih]

theorem lookup_putEntry_of_ne {key other : String} (value : α) (h : other ≠ key)
    (entries : List (String × α)) :
    (putEntry key value entries).lookup other = entries.lookup other := by
  have hother : (other == key) = false := by simpa using h
  induction entries with
  | nil => simp [putEntry, List.lookup_cons, hother]
  | cons entry rest ih =>
    obtain ⟨k, v⟩ := entry
    rw [putEntry]
    split
    · simp [List.lookup_cons, hother]
    · split
      · -- the value that is replaced stood under another key than `other`
        rename_i heq
        subst heq
        simp [List.lookup_cons, hother]
      · simp [List.lookup_cons, ih]

/-- The new entry is found under its key. -/
theorem get?_put_self (m : SortedMap α) (key : String) (value : α) :
    (m.put key value).get? key = some value :=
  lookup_putEntry_self key value m.entries

/-- Other keys keep their values. -/
theorem get?_put_of_ne (m : SortedMap α) {key other : String} (value : α) (h : other ≠ key) :
    (m.put key value).get? other = m.get? other :=
  lookup_putEntry_of_ne value h m.entries

end SortedMap

end ScreenSynthesis
