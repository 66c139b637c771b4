import ScreenSynthesis.Error
import ScreenSynthesis.Proofs.CandidateScan
import ScreenSynthesis.Proofs.Lookup
import ScreenSynthesis.Result

/-!
# The names of a unit

A name belongs to one entry of a unit at most, so looking it up by a scan of the entries finds the
same as an index in which the names are entered one by one, each with the place of its entry. The
index refuses the first name that it has already. That is the name for which a source is refused.

## Key results

- `firstRepeat?_eq_some_iff`: the first element that was there before
- `NameIndex.foldlM_enter`: entering names one by one stops at the first repeat
- `NameIndex.lookup?_ofUnit`, `NameIndex.supertypes?_ofUnit`: an index answers like the unit
- `CompilationUnit.ofSource_accepts_nodup_and_finds_entries`: which sources are units, and what a
  unit knows about a name
-/

namespace ScreenSynthesis

/-! ## The first name that is there already -/

section

variable {α : Type} [DecidableEq α] {seen xs : List α} {x : α}

/-- `firstRepeat?` looks at the elements one by one, and those in front count as `seen` for the
others. -/
private theorem firstRepeat?_append (seen xs ys : List α) :
    firstRepeat? seen (xs ++ ys) =
      (firstRepeat? seen xs).or (firstRepeat? (xs.reverse ++ seen) ys) := by
  induction xs generalizing seen with
  | nil => rfl
  | cons x xs ih =>
    rw [List.cons_append, firstRepeat?, firstRepeat?, List.reverse_cons, List.append_assoc]
    split
    · rfl
    · exact ih (x :: seen)

/-- What `firstRepeat?` finds stands behind elements none of which is a repeat. -/
private theorem exists_of_firstRepeat?_eq_some (h : firstRepeat? seen xs = some x) :
    ∃ before after, xs = before ++ x :: after ∧ firstRepeat? seen before = none ∧
      (x ∈ before ∨ x ∈ seen) := by
  fun_induction firstRepeat? seen xs with
  | case1 seen => exact nomatch h
  | case2 seen y ys hy =>
    obtain rfl : y = x := Option.some.inj h
    exact ⟨[], ys, rfl, rfl, Or.inr hy⟩
  | case3 seen y ys hy ih =>
    obtain ⟨before, after, rfl, hnone, hx⟩ := ih h
    refine ⟨y :: before, after, rfl, by rw [firstRepeat?, if_neg hy, hnone], ?_⟩
    -- for the rest, `y` is among those that were seen
    simpa only [List.mem_cons, or_left_comm, or_assoc] using hx

/-- `firstRepeat?` finds the first element that is `seen` or stands behind its like: all elements in
front of it are new and distinct. -/
theorem firstRepeat?_eq_some_iff :
    firstRepeat? seen xs = some x ↔
      ∃ before after, xs = before ++ x :: after ∧ before.Nodup ∧ (∀ y ∈ before, y ∉ seen) ∧
        (x ∈ before ∨ x ∈ seen) := by
  constructor
  · intro h
    obtain ⟨before, after, heq, hnone, hx⟩ := exists_of_firstRepeat?_eq_some h
    obtain ⟨hnodup, hnew⟩ := firstRepeat?_eq_none_iff.1 hnone
    exact ⟨before, after, heq, hnodup, hnew, hx⟩
  · rintro ⟨before, after, rfl, hnodup, hnew, hx⟩
    have hnone := firstRepeat?_eq_none_iff.2 ⟨hnodup, hnew⟩
    have hmem : x ∈ before.reverse ++ seen := by simpa using hx
    rw [firstRepeat?_append, hnone, Option.none_or, firstRepeat?, if_pos hmem]

end

/-! ## The index -/

/-- The place of an entry: among the classes, or on the classpath. -/
inductive EntryPlace where
  | declared (id : DeclId)
  | external (position : Nat)

/-- The entries of a unit under their names, the classes first. -/
def UnitSource.places (s : UnitSource) : List (QualifiedName × EntryPlace) :=
  s.classes.mapIdx (fun i d => (d.qualifiedName, .declared ⟨i⟩)) ++
    s.classpath.mapIdx (fun i t => (t.name, .external i))

/-- `places` lists the names in the order of `entryNames`. -/
private theorem UnitSource.map_fst_places (s : UnitSource) :
    s.places.map Prod.fst = s.entryNames := by
  rw [places, entryNames, List.map_append]
  congr 1 <;> exact List.ext_getElem (by simp) fun i _ _ => by simp

/-- A name is under `.declared id` in `places` if the class at this position has the name. -/
private theorem UnitSource.mem_places_declared_iff {s : UnitSource} {name : QualifiedName}
    {id : DeclId} : (name, .declared id) ∈ s.places ↔
      ∃ d, s.classes[id.index]? = some d ∧ d.qualifiedName = name := by
  simp only [places, List.mem_append, List.mem_mapIdx, Prod.mk.injEq, reduceCtorEq, and_false,
    exists_false, or_false, EntryPlace.declared.injEq, List.getElem?_eq_some_iff]
  constructor
  · rintro ⟨i, hi, hname, rfl⟩
    exact ⟨s.classes[i], ⟨hi, rfl⟩, hname⟩
  · rintro ⟨d, ⟨hi, rfl⟩, hname⟩
    exact ⟨id.index, hi, hname, rfl⟩

/-- A name is under `.external i` in `places` if the type at this position of the classpath has
it. -/
private theorem UnitSource.mem_places_external_iff {s : UnitSource} {name : QualifiedName}
    {i : Nat} : (name, .external i) ∈ s.places ↔ ∃ t, s.classpath[i]? = some t ∧ t.name = name := by
  simp only [places, List.mem_append, List.mem_mapIdx, Prod.mk.injEq, reduceCtorEq, and_false,
    exists_false, false_or, EntryPlace.external.injEq, List.getElem?_eq_some_iff]
  constructor
  · rintro ⟨j, hj, hname, rfl⟩
    exact ⟨s.classpath[j], ⟨hj, rfl⟩, hname⟩
  · rintro ⟨t, ⟨hi, rfl⟩, hname⟩
    exact ⟨i, hi, hname, rfl⟩

/-- Names with the places of their entries, the latest first. -/
structure NameIndex where
  places : List (QualifiedName × EntryPlace) := []

namespace NameIndex

/-- The place of the entry with a name. -/
def find? (ix : NameIndex) (name : QualifiedName) : Option EntryPlace := ix.places.lookup name

/-- Enters a name, unless it is there already. -/
def enter (ix : NameIndex) (entry : QualifiedName × EntryPlace) : Except QualifiedName NameIndex :=
  if (ix.find? entry.1).isSome then .error entry.1 else .ok { places := entry :: ix.places }

/-- Enters the names of all classes and then those of the classpath. -/
def ofSource (s : UnitSource) : Except QualifiedName NameIndex := do
  let ix ← (s.classes.mapIdx fun i d => (d.qualifiedName, EntryPlace.declared ⟨i⟩)).foldlM enter {}
  (s.classpath.mapIdx fun i t => (t.name, EntryPlace.external i)).foldlM enter ix

/-- The position of the class with this name. -/
def lookup? (ix : NameIndex) (name : QualifiedName) : Option DeclId :=
  match ix.find? name with
  | some (.declared id) => some id
  | _ => none

/-- Whether some entry has this name. -/
def contains (ix : NameIndex) (name : QualifiedName) : Bool := (ix.find? name).isSome

/-- The direct supertypes of the entry with this name, which is found in its source. -/
def supertypes? (ix : NameIndex) (s : UnitSource) (name : QualifiedName) :
    Option (List QualifiedName) :=
  match ix.find? name with
  | some (.declared id) => s.classes[id.index]?.map (·.supertypes)
  | some (.external position) => s.classpath[position]?.map (·.supertypes)
  | none => none

/-- Folding `enter` over entries fails with the `firstRepeat?` of their names, and else puts all of
them in front of the index, the last one first. -/
theorem foldlM_enter (ix : NameIndex) (entries : List (QualifiedName × EntryPlace)) :
    entries.foldlM enter ix =
      match firstRepeat? (ix.places.map Prod.fst) (entries.map Prod.fst) with
      | some name => .error name
      | none => .ok { places := entries.reverse ++ ix.places } := by
  -- the names of the index are those that count as seen for the entries ahead
  induction entries generalizing ix with
  | nil => rfl
  | cons entry rest ih =>
    rw [List.foldlM_cons, List.map_cons, firstRepeat?, enter, find?]
    by_cases hseen : entry.1 ∈ ix.places.map Prod.fst
    · rw [if_pos (isSome_lookup_iff.2 hseen), if_pos hseen]
      rfl
    · rw [if_neg (mt isSome_lookup_iff.1 hseen), if_neg hseen]
      refine (ih { places := entry :: ix.places }).trans ?_
      simp

/-- `NameIndex.ofSource` is refused for the `firstRepeat?` of the `entryNames`, and else has all
`places`. -/
private theorem ofSource_eq (s : UnitSource) :
    ofSource s =
      match firstRepeat? [] s.entryNames with
      | some name => .error name
      | none => .ok { places := s.places.reverse } := by
  have hfold : ofSource s = s.places.foldlM enter {} := List.foldlM_append.symm
  rw [hfold, foldlM_enter, s.map_fst_places]
  simp

end NameIndex

/-! ## What a unit knows about a name -/

namespace CompilationUnit

variable {s : UnitSource} {u : CompilationUnit} {name : QualifiedName}

/-- `CompilationUnit.ofSource` fails with the `firstRepeat?` of the `entryNames`. -/
private theorem ofSource_eq_error_iff :
    ofSource s = .error name ↔ firstRepeat? [] s.entryNames = some name := by
  unfold ofSource
  split
  · rename_i name' hrepeat
    rw [hrepeat, Except.error.injEq, Option.some.injEq]
  · rename_i hnone
    exact ⟨nofun, fun hsome => nomatch hsome.symm.trans hnone⟩

/-- `CompilationUnit.ofSource` keeps the source that it accepts as it is. -/
private theorem source_of_ofSource (h : ofSource s = .ok u) : u.source = s := by
  unfold ofSource at h
  split at h
  · exact nomatch h
  · rw [← Except.ok.inj h]

/-- `CompilationUnit.ofSource` accepts exactly the sources whose `entryNames` do not repeat. -/
private theorem exists_ofSource_iff : (∃ u, ofSource s = .ok u) ↔ s.entryNames.Nodup := by
  constructor
  · rintro ⟨u, hu⟩
    rw [← source_of_ofSource hu]
    exact u.nodup_entryNames
  · intro hnodup
    exact ⟨_, ofSource_eq_ok hnodup⟩

/-- `lookup?` leads from a name to a class exactly if it is the `qualifiedName` of the class. -/
private theorem lookup?_eq_some_iff {id : DeclId} :
    u.lookup? name = some id ↔ ∃ d, u.declaration? id = some d ∧ d.qualifiedName = name := by
  constructor
  · exact declaration?_of_lookup?
  · rintro ⟨d, hd, rfl⟩
    exact lookup?_of_declaration? hd

/-- `lookup?` finds no class for the name of a type of the classpath, as `entryNames` has both. -/
private theorem lookup?_of_mem_classpath {t : ExternalType} (h : t ∈ u.classpath) :
    u.lookup? t.name = none := by
  rw [Option.eq_none_iff_forall_ne_some]
  intro id hid
  obtain ⟨d, hd, hname⟩ := lookup?_eq_some_iff.1 hid
  -- the name would stand in both halves of the names, which are distinct
  have hdisjoint := (List.nodup_append.1 u.nodup_entryNames).2.2
  exact hdisjoint _ (List.mem_map_of_mem (List.mem_of_getElem? hd)) _ (List.mem_map_of_mem h) hname

/-- The `graph` of a unit has its entries under the `entryNames` of the source. -/
theorem map_fst_entries_graph (u : CompilationUnit) :
    u.graph.entries.map Prod.fst = u.source.entryNames := by
  simp only [graph, UnitSource.entryNames, List.map_append, List.map_map]
  rfl

/-- `contains` holds for the `entryNames` of the source. -/
private theorem contains_iff : u.contains name ↔ name ∈ u.source.entryNames := by
  rw [← u.map_fst_entries_graph]
  exact isSome_lookup_iff

/-- `supertypes?` gives the supertypes of the one class or type of the classpath that has the
name. -/
private theorem supertypes?_eq_some_iff {supers : List QualifiedName} :
    u.supertypes? name = some supers ↔
      (∃ d ∈ u.classes, d.qualifiedName = name ∧ d.supertypes = supers) ∨
      ∃ t ∈ u.classpath, t.name = name ∧ t.supertypes = supers := by
  have hnodup : (u.graph.entries.map Prod.fst).Nodup :=
    u.map_fst_entries_graph ▸ u.nodup_entryNames
  rw [supertypes?, TypeGraph.supertypes?, lookup_eq_some_iff_of_nodup hnodup, graph,
    List.mem_append, List.mem_map, List.mem_map]
  simp only [Prod.mk.injEq]

/-- `supertypes?` has no answer exactly for the names that the unit does not contain. -/
private theorem supertypes?_eq_none_iff : u.supertypes? name = none ↔ u.contains name = false := by
  rw [contains, TypeGraph.contains, Option.isSome_eq_false_iff, Option.isNone_iff_eq_none]
  rfl

end CompilationUnit

/-! ## A unit and its index -/

namespace NameIndex

variable {u : CompilationUnit}

/-- The index of all names of a unit. -/
def ofUnit (u : CompilationUnit) : NameIndex := { places := u.source.places.reverse }

/-- `find?` finds a name in `ofUnit u` at its place among the `places` of the source. -/
private theorem find?_ofUnit_eq_some_iff {name : QualifiedName} {place : EntryPlace} :
    (ofUnit u).find? name = some place ↔ (name, place) ∈ u.source.places := by
  have hnodup : (u.source.places.map Prod.fst).Nodup := by
    rw [UnitSource.map_fst_places]
    exact u.nodup_entryNames
  -- the index has the latest entry in front, which makes no difference under distinct names
  rw [find?, ofUnit, lookup_eq_of_perm (List.reverse_perm _) hnodup,
    lookup_eq_some_iff_of_nodup hnodup]

/-- The index of a unit answers `contains` like the unit. -/
private theorem contains_ofUnit (u : CompilationUnit) (name : QualifiedName) :
    (ofUnit u).contains name = u.contains name := by
  rw [Bool.eq_iff_iff, CompilationUnit.contains_iff, contains, find?, isSome_lookup_iff, ofUnit,
    List.map_reverse, List.mem_reverse, UnitSource.map_fst_places]

/-- The index of a unit answers `lookup?` like the unit, whose answer is found by a scan. -/
theorem lookup?_ofUnit (u : CompilationUnit) (name : QualifiedName) :
    (ofUnit u).lookup? name = u.lookup? name := by
  refine Option.ext fun id => ?_
  -- the index knows places, and only one kind of them is a class
  have hindex : (ofUnit u).lookup? name = some id ↔
      (ofUnit u).find? name = some (.declared id) := by
    rw [lookup?]
    split <;> simp_all
  rw [hindex, find?_ofUnit_eq_some_iff, UnitSource.mem_places_declared_iff,
    CompilationUnit.lookup?_eq_some_iff]
  rfl

/-- The index of a unit answers `supertypes?` like the unit: it leads to the entry whose supertypes
the `graph` has under the name. -/
theorem supertypes?_ofUnit (u : CompilationUnit) (name : QualifiedName) :
    (ofUnit u).supertypes? u.source name = u.supertypes? name := by
  rw [supertypes?]
  cases hplace : (ofUnit u).find? name with
  | none =>
    -- a name without a place is the name of no entry
    have hunknown : u.contains name = false := by
      rw [← contains_ofUnit, contains, hplace]
      rfl
    exact (CompilationUnit.supertypes?_eq_none_iff.2 hunknown).symm
  | some place =>
    have hmem := find?_ofUnit_eq_some_iff.1 hplace
    cases place with
    | declared id =>
      obtain ⟨d, hd, hname⟩ := UnitSource.mem_places_declared_iff.1 hmem
      have hsupers : u.supertypes? name = some d.supertypes :=
        CompilationUnit.supertypes?_eq_some_iff.2
          (Or.inl ⟨d, List.mem_of_getElem? hd, hname, rfl⟩)
      simp only [hd, hsupers, Option.map_some]
    | external i =>
      obtain ⟨t, ht, hname⟩ := UnitSource.mem_places_external_iff.1 hmem
      have hsupers : u.supertypes? name = some t.supertypes :=
        CompilationUnit.supertypes?_eq_some_iff.2
          (Or.inr ⟨t, List.mem_of_getElem? ht, hname, rfl⟩)
      simp only [ht, hsupers, Option.map_some]

/-- `NameIndex.ofSource` succeeds exactly if `CompilationUnit.ofSource` does, and then makes
`ofUnit`. -/
private theorem ofSource_eq_map (s : UnitSource) :
    ofSource s = (CompilationUnit.ofSource s).map ofUnit := by
  rw [ofSource_eq]
  cases hrepeat : firstRepeat? [] s.entryNames with
  | none =>
    rw [CompilationUnit.ofSource_eq_ok (firstRepeat?_eq_none_iff.1 hrepeat).1]
    rfl
  | some name =>
    rw [CompilationUnit.ofSource_eq_error_iff.2 hrepeat]
    rfl

end NameIndex

namespace CompilationUnit

/-- `ofSource` accepts a source exactly if its classes and the types of its classpath have distinct
names; otherwise `duplicateDeclaration` reports the first name that an earlier entry has, the
classes coming before the types. For a unit, `lookup?` leads from a name to the class that has it,
and never to a type of the classpath. `contains` holds for the names of all entries, and
`supertypes?` gives what the entry of the name has. A `NameIndex` into which the names are entered
one by one is refused for the same name, and answers all these questions in the same way. -/
theorem ofSource_accepts_nodup_and_finds_entries (s : UnitSource) :
    ((∃ u, ofSource s = .ok u) ↔ s.entryNames.Nodup) ∧
    (∀ e, (ofSource s).mapError SynthesisError.duplicateDeclaration = .error e ↔
      ∃ before name after, s.entryNames = before ++ name :: after ∧ before.Nodup ∧
        name ∈ before ∧ e = .duplicateDeclaration name) ∧
    NameIndex.ofSource s = (ofSource s).map NameIndex.ofUnit ∧
    ∀ u, ofSource s = .ok u → u.source = s ∧ (∀ t ∈ s.classpath, u.lookup? t.name = none) ∧
      ∀ name,
        (∀ id, u.lookup? name = some id ↔
          ∃ d, s.classes[id.index]? = some d ∧ d.qualifiedName = name) ∧
        (u.contains name ↔
          (∃ d ∈ s.classes, d.qualifiedName = name) ∨ ∃ t ∈ s.classpath, t.name = name) ∧
        (∀ supers, u.supertypes? name = some supers ↔
          (∃ d ∈ s.classes, d.qualifiedName = name ∧ d.supertypes = supers) ∨
          ∃ t ∈ s.classpath, t.name = name ∧ t.supertypes = supers) ∧
        (u.supertypes? name = none ↔ u.contains name = false) ∧
        (NameIndex.ofUnit u).lookup? name = u.lookup? name ∧
        (NameIndex.ofUnit u).contains name = u.contains name ∧
        (NameIndex.ofUnit u).supertypes? s name = u.supertypes? name := by
  refine ⟨exists_ofSource_iff, fun e => ?_, NameIndex.ofSource_eq_map s, ?_⟩
  · rw [Result.mapError_eq_error_iff]
    constructor
    · rintro ⟨name, hname, rfl⟩
      obtain ⟨before, after, hnames, hnodup, -, hmem⟩ :=
        firstRepeat?_eq_some_iff.1 (ofSource_eq_error_iff.1 hname)
      exact ⟨before, name, after, hnames, hnodup, hmem.resolve_right List.not_mem_nil, rfl⟩
    · rintro ⟨before, name, after, hnames, hnodup, hmem, rfl⟩
      -- the names in front are distinct, so none of them is reported instead
      have hrepeat := firstRepeat?_eq_some_iff.2
        ⟨before, after, hnames, hnodup, fun _ _ => List.not_mem_nil, Or.inl hmem⟩
      exact ⟨name, ofSource_eq_error_iff.2 hrepeat, rfl⟩
  · intro u hu
    obtain rfl : u.source = s := source_of_ofSource hu
    refine ⟨rfl, fun t ht => lookup?_of_mem_classpath ht, fun name => ?_⟩
    refine ⟨fun id => lookup?_eq_some_iff, ?_, fun supers => supertypes?_eq_some_iff,
      supertypes?_eq_none_iff, NameIndex.lookup?_ofUnit u name, NameIndex.contains_ofUnit u name,
      NameIndex.supertypes?_ofUnit u name⟩
    rw [contains_iff, UnitSource.entryNames, List.mem_append, List.mem_map, List.mem_map]

/-- A package and a name can be joined to the same as another package and another name, and then the
second class repeats the first. Without it the source is a unit, in which only the class can be
looked up, while the supertypes of its base are known, too. -/
theorem ofSource_accepts_nodup_and_finds_entries_joined :
    let first : ClassDecl := { package := "app.ui", name := "Home", supertypes := [⟨"lib.Base"⟩] }
    let second : ClassDecl := { package := "app", name := "ui.Home" }
    let base : ExternalType := { name := ⟨"lib.Base"⟩ }
    (ofSource { classes := [first, second], classpath := [base] }).mapError
        SynthesisError.duplicateDeclaration = .error (.duplicateDeclaration ⟨"app.ui.Home"⟩) ∧
      ∃ u, ofSource { classes := [first], classpath := [base] } = .ok u ∧
        u.lookup? ⟨"app.ui.Home"⟩ = some ⟨0⟩ ∧ u.lookup? base.name = none ∧
        u.supertypes? base.name = some [] := by
  intro first second base
  obtain ⟨-, hrefused, -⟩ := ofSource_accepts_nodup_and_finds_entries
    { classes := [first, second], classpath := [base] }
  obtain ⟨haccepted, -, -, hunit⟩ := ofSource_accepts_nodup_and_finds_entries
    { classes := [first], classpath := [base] }
  obtain ⟨u, hu⟩ := haccepted.2 (by decide)
  obtain ⟨-, hclasspath, hnames⟩ := hunit u hu
  obtain ⟨hlookup, -⟩ := hnames ⟨"app.ui.Home"⟩
  obtain ⟨-, -, hsupers, -⟩ := hnames base.name
  refine ⟨(hrefused _).2 ?_, u, hu, ?_, ?_, ?_⟩
  · -- the second class has the joined name again, and the base comes after both
    exact ⟨[⟨"app.ui.Home"⟩], ⟨"app.ui.Home"⟩, [base.name], by decide, by decide, by decide, rfl⟩
  · exact (hlookup ⟨0⟩).2 ⟨first, rfl, by decide⟩
  · exact hclasspath base List.mem_cons_self
  · exact (hsupers []).2 (Or.inr ⟨base, List.mem_cons_self, rfl, rfl⟩)

end CompilationUnit

end ScreenSynthesis
