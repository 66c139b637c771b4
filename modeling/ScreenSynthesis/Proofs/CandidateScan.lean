import ScreenSynthesis.Candidate

/-!
# Declarations and their candidates

A declaration is known by its position, so no two entries of a unit's list share it, and neither do
two candidates: the declaration decides which candidate it is, and so do the candidate's own
position and the name of its owner.

## Key results

- `CompilationUnit.declaration?_of_lookup?`, `CompilationUnit.lookup?_of_declaration?`: a name leads
  to the declaration that has it
- `CompilationUnit.eq_of_qualifiedName_eq`: a name belongs to one declaration at most
- `CandidateIndex.exists_declaration`, `CandidateIndex.exists_marker`,
  `CandidateIndex.exists_candidate`: candidates stand for the declarations with a marker
- `CandidateIndex.eq_of_decl_eq`, `CandidateIndex.eq_of_id_eq`, `CandidateIndex.eq_of_owner_eq`:
  what decides which candidate it is
-/

namespace ScreenSynthesis

/-- A `filter` that takes all of one list and nothing of the others gives this list back from a
`flatMap`. -/
theorem filter_flatMap_eq {α β : Type} {l : List α} {f : α → List β} {p : β → Bool} {a : α}
    (hnodup : l.Nodup) (ha : a ∈ l) (hself : ∀ b ∈ f a, p b = true)
    (hother : ∀ a' ∈ l, a' ≠ a → ∀ b ∈ f a', p b = false) : (l.flatMap f).filter p = f a := by
  induction l with
  | nil => exact nomatch ha
  | cons x rest ih =>
    obtain ⟨hx, hrest⟩ := List.nodup_cons.1 hnodup
    rw [List.flatMap_cons, List.filter_append]
    -- the list itself is all that is taken, or it stands further behind
    by_cases hxa : x = a
    · subst hxa
      have hnil : (rest.flatMap f).filter p = [] := by
        refine List.filter_eq_nil_iff.2 fun b hb => ?_
        obtain ⟨a', ha', hb⟩ := List.mem_flatMap.1 hb
        have hne : a' ≠ x := fun heq => hx (heq ▸ ha')
        simp [hother a' (List.mem_cons_of_mem x ha') hne b hb]
      rw [hnil, List.append_nil, List.filter_eq_self.2 hself]
    · have hnil : (f x).filter p = [] := by
        refine List.filter_eq_nil_iff.2 fun b hb => ?_
        simp [hother x List.mem_cons_self hxa b hb]
      have hmem : a ∈ rest := (List.mem_cons.1 ha).resolve_left fun heq => hxa heq.symm
      rw [hnil, List.nil_append]
      exact ih hrest hmem fun a' ha' => hother a' (List.mem_cons_of_mem x ha')

namespace CompilationUnit

variable {u : CompilationUnit}

/-- `declarations` pairs every class with its position, and `declaration?` finds it there. -/
theorem mem_declarations_iff {decl : DeclId} {d : ClassDecl} :
    (decl, d) ∈ u.declarations ↔ u.declaration? decl = some d := by
  simp only [declarations, List.mem_mapIdx, declaration?, Prod.mk.injEq]
  constructor
  · rintro ⟨i, hi, rfl, rfl⟩
    exact List.getElem?_eq_getElem hi
  · intro h
    obtain ⟨hi, hd⟩ := List.getElem?_eq_some_iff.1 h
    exact ⟨decl.index, hi, rfl, hd⟩

/-- No two entries of `declarations` share their position. -/
private theorem pairwise_declarations : u.declarations.Pairwise (fun a b => a.1 ≠ b.1) := by
  refine List.pairwise_iff_getElem.2 fun i j hi hj hij heq => ?_
  simp only [declarations, List.getElem_mapIdx, DeclId.mk.injEq] at heq
  omega

/-- `lookup?` leads from a name to a declaration that has it. -/
theorem declaration?_of_lookup? {name : QualifiedName} {decl : DeclId}
    (h : u.lookup? name = some decl) :
    ∃ d, u.declaration? decl = some d ∧ d.qualifiedName = name := by
  obtain ⟨i, hi, rfl⟩ := Option.map_eq_some_iff.1 h
  obtain ⟨hlt, hname, -⟩ := List.findIdx?_eq_some_iff_getElem.1 hi
  exact ⟨u.classes[i], List.getElem?_eq_getElem hlt, by simpa using hname⟩

/-- A `qualifiedName` belongs to one declaration at most, because `entryNames` do not repeat. -/
theorem eq_of_qualifiedName_eq {decl decl' : DeclId} {d d' : ClassDecl}
    (h : u.declaration? decl = some d) (h' : u.declaration? decl' = some d')
    (hname : d.qualifiedName = d'.qualifiedName) : decl = decl' := by
  have hnodup : (u.classes.map ClassDecl.qualifiedName).Nodup :=
    (List.nodup_append.1 u.nodup_entryNames).1
  have hi : (u.classes.map ClassDecl.qualifiedName)[decl.index]? = some d.qualifiedName := by
    rw [List.getElem?_map, show u.classes[decl.index]? = some d from h, Option.map_some]
  have hj : (u.classes.map ClassDecl.qualifiedName)[decl'.index]? = some d.qualifiedName := by
    rw [List.getElem?_map, show u.classes[decl'.index]? = some d' from h', Option.map_some, hname]
  -- the same name stands at two positions of a list without repetitions
  have hlt := (List.getElem?_eq_some_iff.1 hi).1
  exact congrArg DeclId.mk ((List.getElem?_inj hlt hnodup).1 (hi.trans hj.symm))

/-- `lookup?` leads from the `qualifiedName` of a declaration to this declaration. -/
theorem lookup?_of_declaration? {decl : DeclId} {d : ClassDecl}
    (h : u.declaration? decl = some d) : u.lookup? d.qualifiedName = some decl := by
  cases hlookup : u.lookup? d.qualifiedName with
  | none =>
    have hnone := List.findIdx?_eq_none_iff.1 (Option.map_eq_none_iff.1 hlookup) d
      (List.mem_of_getElem? h)
    simp at hnone
  | some decl' =>
    -- the first declaration of the name is the only one
    obtain ⟨d', hd', hname⟩ := declaration?_of_lookup? hlookup
    rw [eq_of_qualifiedName_eq hd' h hname]

end CompilationUnit

namespace CandidateIndex

variable {u : CompilationUnit} {c c' : Candidate}

/-- `marked` are the declarations for which `Marker.find?` finds something, each with what is
found. -/
private theorem mem_marked_iff {decl : DeclId} {d : ClassDecl} {a : AttributeLiteral} :
    (decl, d, a) ∈ marked u ↔ u.declaration? decl = some d ∧ Marker.find? d = some a := by
  -- an entry is a declaration of the unit with what the marker search finds in it
  simp only [marked, List.mem_filterMap]
  constructor
  · rintro ⟨⟨decl', d'⟩, hmem, hmap⟩
    obtain ⟨a', ha', heq⟩ := Option.map_eq_some_iff.1 hmap
    obtain ⟨rfl, rfl, rfl⟩ : decl' = decl ∧ d' = d ∧ a' = a := by simpa using heq
    exact ⟨CompilationUnit.mem_declarations_iff.1 hmem, ha'⟩
  · rintro ⟨hd, ha⟩
    exact ⟨(decl, d), CompilationUnit.mem_declarations_iff.2 hd, by rw [ha, Option.map_some]⟩

/-- No two entries of `marked` share their position. -/
private theorem pairwise_marked (u : CompilationUnit) :
    (marked u).Pairwise (fun a b => a.1 ≠ b.1) := by
  refine List.pairwise_filterMap.2 (CompilationUnit.pairwise_declarations.imp ?_)
  rintro ⟨decl, d⟩ ⟨decl', d'⟩ hne b hb b' hb'
  obtain ⟨a, -, rfl⟩ := Option.map_eq_some_iff.1 hb
  obtain ⟨a', -, rfl⟩ := Option.map_eq_some_iff.1 hb'
  exact hne

/-- No two candidates of a `scan` have the same declaration. -/
theorem pairwise_candidates (u : CompilationUnit) :
    (scan u).candidates.Pairwise (fun a b => a.decl ≠ b.decl) := by
  refine List.pairwise_iff_getElem.2 fun i j hi hj hij => ?_
  -- a candidate stands where its declaration stands among the marked ones
  simp only [scan, List.length_mapIdx] at hi hj
  simp only [scan, List.getElem_mapIdx]
  exact List.pairwise_iff_getElem.1 (pairwise_marked u) i j hi hj hij

/-- Candidates of a `scan` are equal if their declarations are. -/
theorem eq_of_decl_eq (h : c ∈ (scan u).candidates) (h' : c' ∈ (scan u).candidates)
    (hdecl : c.decl = c'.decl) : c = c' := by
  obtain ⟨i, hi, rfl⟩ := List.mem_mapIdx.1 h
  obtain ⟨j, hj, rfl⟩ := List.mem_mapIdx.1 h'
  -- candidates stand at the positions of their marked declarations
  have hmarked := List.pairwise_iff_getElem.1 (pairwise_marked u)
  obtain hlt | rfl | hgt := Nat.lt_trichotomy i j
  · exact absurd hdecl (hmarked i j hi hj hlt)
  · rfl
  · exact absurd hdecl.symm (hmarked j i hj hi hgt)

/-- A `scan` lists no candidate twice. -/
theorem nodup_candidates (u : CompilationUnit) : (scan u).candidates.Nodup :=
  (pairwise_candidates u).imp fun hne heq => hne (congrArg Candidate.decl heq)

/-- Candidates of a `scan` are equal if their positions are. -/
theorem eq_of_id_eq (h : c ∈ (scan u).candidates) (h' : c' ∈ (scan u).candidates)
    (hid : c.id = c'.id) : c = c' := by
  obtain ⟨i, hi, rfl⟩ := List.mem_mapIdx.1 h
  obtain ⟨j, hj, rfl⟩ := List.mem_mapIdx.1 h'
  -- the position that a candidate has is the one where it stands
  obtain rfl : i = j := congrArg CandidateId.index hid
  rfl

/-- A candidate of a `scan` stands for a declaration with a marker, and repeats what is written
there. -/
theorem exists_declaration (h : c ∈ (scan u).candidates) :
    ∃ d a, u.declaration? c.decl = some d ∧ Marker.find? d = some a ∧
      c.owner = d.qualifiedName ∧ c.marker = .ofAttribute a ∧ c.location = d.location := by
  obtain ⟨i, hi, rfl⟩ := List.mem_mapIdx.1 h
  obtain ⟨hd, ha⟩ := mem_marked_iff.1 (List.getElem_mem hi)
  exact ⟨_, _, hd, ha, rfl, rfl, rfl⟩

/-- If the declaration of a candidate is known, then it is the one of `exists_declaration`. -/
theorem exists_marker {d : ClassDecl} (h : c ∈ (scan u).candidates)
    (hd : u.declaration? c.decl = some d) :
    ∃ a, Marker.find? d = some a ∧ c.owner = d.qualifiedName ∧ c.marker = .ofAttribute a ∧
      c.location = d.location := by
  obtain ⟨d', a, hd', hwritten⟩ := exists_declaration h
  obtain rfl : d = d' := Option.some.inj (hd.symm.trans hd')
  exact ⟨a, hwritten⟩

/-- A `scan` has a candidate for every declaration with a marker. -/
theorem exists_candidate {decl : DeclId} {d : ClassDecl} {a : AttributeLiteral}
    (hd : u.declaration? decl = some d) (ha : Marker.find? d = some a) :
    ∃ c ∈ (scan u).candidates, c.decl = decl := by
  obtain ⟨i, hi, hmarked⟩ := List.getElem_of_mem (mem_marked_iff.2 ⟨hd, ha⟩)
  exact ⟨_, List.mem_mapIdx.2 ⟨i, hi, rfl⟩, by rw [hmarked]⟩

/-- Candidates of a `scan` are equal if the names of their owners are. -/
theorem eq_of_owner_eq (h : c ∈ (scan u).candidates) (h' : c' ∈ (scan u).candidates)
    (howner : c.owner = c'.owner) : c = c' := by
  obtain ⟨d, -, hd, -, hname, -, -⟩ := exists_declaration h
  obtain ⟨d', -, hd', -, hname', -, -⟩ := exists_declaration h'
  have hnames : d.qualifiedName = d'.qualifiedName := hname.symm.trans (howner.trans hname')
  exact eq_of_decl_eq h h' (CompilationUnit.eq_of_qualifiedName_eq hd hd' hnames)

/-- `forDeclaration?` finds the candidate that has the declaration. -/
theorem forDeclaration?_eq_some_iff {decl : DeclId} :
    (scan u).forDeclaration? decl = some c ↔ c ∈ (scan u).candidates ∧ c.decl = decl := by
  constructor
  · intro hfind
    exact ⟨List.mem_of_find?_eq_some hfind, by simpa using List.find?_some hfind⟩
  · rintro ⟨hc, rfl⟩
    -- something is found, and no other candidate has this declaration
    cases hfind : (scan u).forDeclaration? c.decl with
    | none =>
      have hnot := List.find?_eq_none.1 hfind c hc
      simp at hnot
    | some c' =>
      have hdecl : c'.decl = c.decl := by simpa using List.find?_some hfind
      rw [eq_of_decl_eq (List.mem_of_find?_eq_some hfind) hc hdecl]

/-- `isMatched` holds for the declaration of a candidate. -/
theorem isMatched_of_mem {index : CandidateIndex} (h : c ∈ index.candidates) :
    index.isMatched c.decl = true :=
  List.any_eq_true.2 ⟨c, h, decide_eq_true rfl⟩

end CandidateIndex

end ScreenSynthesis
