import ScreenSynthesis.Lineage

/-!
# Lookups in lists of entries

Indexes and memories are lists of entries, each a key with a value. A lookup finds the first entry
of a key. Where keys do not repeat it finds all that there is, in whatever order the entries stand.

## Key results

- `lookup_eq_some_iff_of_nodup`: what a lookup finds among distinct keys
- `lookup_eq_of_perm`: among distinct keys the order makes no difference
- `isSome_lookup_iff`: a lookup finds something exactly if the key is there
-/

namespace ScreenSynthesis

variable {α β : Type} [BEq α] [LawfulBEq α] {a : α} {b : β} {entries entries' : List (α × β)}

/-- `lookup` finds the value of an entry if all entries with its key have this value. -/
theorem lookup_eq_some_of_mem (h : (a, b) ∈ entries) (hunique : ∀ b', (a, b') ∈ entries → b' = b) :
    entries.lookup a = some b := by
  -- the entry is there, so that something is found
  cases hlookup : entries.lookup a with
  | none =>
    have hne := List.lookup_eq_none_iff.1 hlookup _ h
    simp at hne
  | some b' => rw [hunique b' (Lineage.mem_of_lookup hlookup)]

/-- `lookup` finds just the entry with the key if no two entries have one key. -/
theorem lookup_eq_some_iff_of_nodup (hnodup : (entries.map Prod.fst).Nodup) :
    entries.lookup a = some b ↔ (a, b) ∈ entries := by
  refine ⟨Lineage.mem_of_lookup, fun hmem => lookup_eq_some_of_mem hmem fun b' hmem' => ?_⟩
  obtain ⟨i, hb⟩ := List.mem_iff_getElem?.1 hmem
  obtain ⟨j, hb'⟩ := List.mem_iff_getElem?.1 hmem'
  have hkey : (entries.map Prod.fst)[i]? = some a := by rw [List.getElem?_map, hb, Option.map_some]
  have hkey' : (entries.map Prod.fst)[j]? = some a := by
    rw [List.getElem?_map, hb', Option.map_some]
  -- entries with the same key stand at the same position
  have hlt := (List.getElem?_eq_some_iff.1 hkey).1
  obtain rfl : i = j := (List.getElem?_inj hlt hnodup).1 (hkey.trans hkey'.symm)
  exact congrArg Prod.snd (Option.some.inj (hb'.symm.trans hb))

/-- `lookup` does not depend on the order of the entries if no two have one key. -/
theorem lookup_eq_of_perm (hperm : entries'.Perm entries) (hnodup : (entries.map Prod.fst).Nodup)
    (a : α) : entries'.lookup a = entries.lookup a := by
  have hnodup' : (entries'.map Prod.fst).Nodup := (hperm.map Prod.fst).nodup_iff.2 hnodup
  -- what is found is a matter of membership on both sides
  refine Option.ext fun b => ?_
  rw [lookup_eq_some_iff_of_nodup hnodup', lookup_eq_some_iff_of_nodup hnodup, hperm.mem_iff]

/-- `lookup` finds something exactly if some entry has the key. -/
theorem isSome_lookup_iff : (entries.lookup a).isSome ↔ a ∈ entries.map Prod.fst := by
  simp only [List.lookup_isSome_iff, List.mem_map, beq_iff_eq]
  exact exists_congr fun entry => and_congr_right fun _ => eq_comm

theorem lookup_eq_none_iff_not_mem : entries.lookup a = none ↔ a ∉ entries.map Prod.fst := by
  rw [← isSome_lookup_iff, Option.not_isSome_iff_eq_none]

/-- `lookup` finds nothing behind a new entry if the key is another one and was free before. -/
theorem lookup_cons_eq_none_iff {entry : α × β} :
    (entry :: entries).lookup a = none ↔ a ≠ entry.1 ∧ entries.lookup a = none := by
  rw [lookup_eq_none_iff_not_mem, lookup_eq_none_iff_not_mem, List.map_cons, List.mem_cons, not_or]

end ScreenSynthesis
