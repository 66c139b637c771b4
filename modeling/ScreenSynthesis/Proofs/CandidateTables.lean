import Mathlib.Data.List.Induction
import ScreenSynthesis.Proofs.CandidateScan
import ScreenSynthesis.Proofs.Lookup

/-!
# Candidates, one declaration after the other

The candidates of a unit can be listed in one pass over its declarations, together with a table that
leads from a declaration to the position of its candidate. Declarations without a marker are passed
over, so the two kinds of positions drift apart; the table keeps track of them. What it answers is
what a search in the list of candidates finds.

## Key results

- `Marker.find?_eq_some_iff`: the first marker of a class
- `CandidateIndex.map_decl_candidatesOf`: the candidates stand in source order
- `CandidateIndex.get?_eq_some_iff`: the candidate at a position
- `CandidateTable.holds_enter`, `CandidateTable.holds_foldl`: what the table holds after some
  declarations
- `CandidateIndex.scan_lists_first_markers`: what the candidates of a unit are, and how they are
  found
-/

namespace ScreenSynthesis

/-! ## Markers -/

/-- Whether a class carries an annotation of the name `markerName`. -/
def ClassDecl.HasMarker (d : ClassDecl) : Prop := ∃ a ∈ d.annotations, a.name.text = markerName

instance (d : ClassDecl) : Decidable d.HasMarker :=
  inferInstanceAs (Decidable (∃ a ∈ d.annotations, a.name.text = markerName))

namespace Marker

variable {d : ClassDecl}

/-- `Marker.find?` finds the first of the annotations that has the name of the marker. -/
theorem find?_eq_some_iff {a : AttributeLiteral} :
    find? d = some a ↔
      ∃ before after, d.annotations = before ++ a :: after ∧ a.name.text = markerName ∧
        ∀ other ∈ before, other.name.text ≠ markerName := by
  rw [find?, List.find?_eq_some_iff_append]
  constructor
  · rintro ⟨hname, before, after, heq, hbefore⟩
    exact ⟨before, after, heq, by simpa using hname, fun other hother => by
      simpa using hbefore other hother⟩
  · rintro ⟨before, after, heq, hname, hbefore⟩
    exact ⟨by simpa using hname, before, after, heq, fun other hother => by
      simpa using hbefore other hother⟩

private theorem isSome_find? (d : ClassDecl) : (find? d).isSome = decide d.HasMarker := by
  rw [Bool.eq_iff_iff, find?, List.find?_isSome, decide_eq_true_iff]
  simp [ClassDecl.HasMarker]

end Marker

namespace CandidateIndex

variable {u : CompilationUnit} {c : Candidate}

/-! ## Positions -/

/-- The candidates for some declarations: what `scan` makes of all of them. -/
def candidatesOf (entries : List (DeclId × ClassDecl)) : List Candidate :=
  (entries.filterMap fun (id, d) => (Marker.find? d).map fun a => (id, d, a)).mapIdx
    fun i (id, d, a) =>
      { id := ⟨i⟩, decl := id, owner := d.qualifiedName, marker := .ofAttribute a,
        location := d.location }

private theorem candidates_scan (u : CompilationUnit) :
    (scan u).candidates = candidatesOf u.declarations := rfl

/-- `candidatesOf` has a candidate for a further declaration behind the others, if it has a
marker. -/
private theorem candidatesOf_concat (entries : List (DeclId × ClassDecl)) (decl : DeclId)
    (d : ClassDecl) :
    candidatesOf (entries ++ [(decl, d)]) =
      candidatesOf entries ++ (Marker.find? d).toList.map fun a =>
        { id := ⟨(candidatesOf entries).length⟩, decl, owner := d.qualifiedName,
          marker := .ofAttribute a, location := d.location } := by
  rw [candidatesOf, List.filterMap_append]
  -- without a marker there is nothing to add
  cases hfind : Marker.find? d with
  | none => simp [candidatesOf, hfind]
  | some a => simp [candidatesOf, hfind]

/-- `candidatesOf` stand for the declarations that `HasMarker` holds for, in the order of these. -/
theorem map_decl_candidatesOf (entries : List (DeclId × ClassDecl)) :
    (candidatesOf entries).map Candidate.decl =
      (entries.filter fun entry => entry.2.HasMarker).map Prod.fst := by
  -- on the last declaration, because the position of its candidate counts those in front of it
  induction entries using List.reverseRecOn with
  | nil => rfl
  | append_singleton entries entry ih =>
    obtain ⟨decl, d⟩ := entry
    rw [candidatesOf_concat, List.map_append, ih, List.filter_append, List.map_append]
    congr 1
    -- the last declaration counts on the right exactly if it has a candidate on the left
    cases hfind : Marker.find? d with
    | none =>
      have hmarker : decide d.HasMarker = false := by rw [← Marker.isSome_find?, hfind]; rfl
      simp [hmarker]
    | some a =>
      have hmarker : decide d.HasMarker = true := by rw [← Marker.isSome_find?, hfind]; rfl
      simp [hmarker]

private theorem id_of_getElem? {i : Nat} (h : (scan u).candidates[i]? = some c) : c.id = ⟨i⟩ := by
  obtain ⟨hi, rfl⟩ := List.getElem?_eq_some_iff.1 h
  simp [scan]

/-- `get?` finds the candidate that has the position. -/
theorem get?_eq_some_iff {id : CandidateId} :
    (scan u).get? id = some c ↔ c ∈ (scan u).candidates ∧ c.id = id := by
  constructor
  · intro h
    exact ⟨List.mem_of_getElem? h, id_of_getElem? h⟩
  · rintro ⟨hc, rfl⟩
    -- where the candidate stands is its own position
    obtain ⟨i, hi⟩ := List.mem_iff_getElem?.1 hc
    rw [get?, id_of_getElem? hi, hi]

/-- `isMatched` holds for the declarations of candidates, and for no others. -/
theorem isMatched_iff {index : CandidateIndex} {decl : DeclId} :
    index.isMatched decl = true ↔ ∃ c ∈ index.candidates, c.decl = decl := by
  simp [isMatched]

/-- The candidates of a `scan` are for the declarations that `HasMarker` holds for. -/
private theorem exists_candidate_iff {decl : DeclId} :
    (∃ c ∈ (scan u).candidates, c.decl = decl) ↔
      ∃ d, u.declaration? decl = some d ∧ d.HasMarker := by
  constructor
  · rintro ⟨c, hc, rfl⟩
    obtain ⟨d, a, hd, ha, -⟩ := exists_declaration hc
    exact ⟨d, hd, by simpa [ha] using Marker.isSome_find? d⟩
  · rintro ⟨d, hd, hmarker⟩
    have hsome : (Marker.find? d).isSome = true := by simpa [hmarker] using Marker.isSome_find? d
    obtain ⟨a, ha⟩ := Option.isSome_iff_exists.1 hsome
    exact exists_candidate hd ha

end CandidateIndex

/-! ## The table -/

/-- Candidates, and where the candidate of each declaration stands among them. -/
structure CandidateTable where
  candidates : List Candidate := []
  places : List (DeclId × CandidateId) := []

namespace CandidateTable

/-- Adds a candidate for a declaration with a marker, and enters its place. -/
def enter (t : CandidateTable) (entry : DeclId × ClassDecl) : CandidateTable :=
  match Marker.find? entry.2 with
  | some a =>
    let id : CandidateId := ⟨t.candidates.length⟩
    { candidates := t.candidates ++
        [{ id, decl := entry.1, owner := entry.2.qualifiedName, marker := .ofAttribute a,
           location := entry.2.location }]
      places := (entry.1, id) :: t.places }
  | none => t

/-- The table after `enter` for all declarations of a unit, one after the other. -/
def ofUnit (u : CompilationUnit) : CandidateTable := u.declarations.foldl enter {}

/-- Whether there is a place for a declaration. -/
def isMatched (t : CandidateTable) (decl : DeclId) : Bool := (t.places.lookup decl).isSome

/-- The candidate at the place of a declaration. -/
def forDeclaration? (t : CandidateTable) (decl : DeclId) : Option Candidate :=
  (t.places.lookup decl).bind fun id => t.candidates[id.index]?

/-- What a table holds after some declarations: their `candidatesOf`, each at the place that is
entered for its declaration. -/
structure Holds (t : CandidateTable) (entries : List (DeclId × ClassDecl)) : Prop where
  candidates_eq : t.candidates = CandidateIndex.candidatesOf entries
  places_eq : t.places = (t.candidates.map fun c => (c.decl, c.id)).reverse

variable {t : CandidateTable} {entries : List (DeclId × ClassDecl)} {u : CompilationUnit}

/-- `enter` preserves `Holds`, with one declaration more. -/
theorem holds_enter (h : t.Holds entries) (entry : DeclId × ClassDecl) :
    (t.enter entry).Holds (entries ++ [entry]) := by
  obtain ⟨decl, d⟩ := entry
  cases hfind : Marker.find? d with
  | none =>
    have henter : t.enter (decl, d) = t := by simp [enter, hfind]
    rw [henter]
    refine ⟨?_, h.places_eq⟩
    rw [h.candidates_eq, CandidateIndex.candidatesOf_concat, hfind]
    simp
  | some a =>
    refine ⟨?_, ?_⟩
    · -- the new candidate has the next position, and its place is entered in front
      rw [CandidateIndex.candidatesOf_concat, ← h.candidates_eq]
      simp [enter, hfind]
    · simp [enter, hfind, h.places_eq]

/-- `Holds` after any number of declarations, by `holds_enter`. -/
theorem holds_foldl (h : t.Holds entries) (more : List (DeclId × ClassDecl)) :
    (more.foldl enter t).Holds (entries ++ more) := by
  induction more generalizing t entries with
  | nil => simpa using h
  | cons entry more ih => simpa using ih (holds_enter h entry)

/-- `ofUnit` holds the candidates of all `declarations` of the unit. -/
private theorem holds_ofUnit (u : CompilationUnit) : (ofUnit u).Holds u.declarations := by
  have hempty : ({} : CandidateTable).Holds [] := ⟨rfl, rfl⟩
  exact holds_foldl hempty u.declarations

private theorem candidates_ofUnit (u : CompilationUnit) :
    (ofUnit u).candidates = (CandidateIndex.scan u).candidates := by
  rw [(holds_ofUnit u).candidates_eq, CandidateIndex.candidates_scan]

/-- The places of `ofUnit` lead from a declaration to the position of the candidate that
`forDeclaration?` finds for it. -/
private theorem lookup_places_ofUnit (u : CompilationUnit) (decl : DeclId) :
    (ofUnit u).places.lookup decl =
      ((CandidateIndex.scan u).forDeclaration? decl).map Candidate.id := by
  have hplaces := (holds_ofUnit u).places_eq
  rw [candidates_ofUnit] at hplaces
  -- no two candidates have the same declaration, so it does not matter which place is found first
  have hnodup : (((CandidateIndex.scan u).candidates.map fun c => (c.decl, c.id)).map
      Prod.fst).Nodup := by
    rw [List.map_map]
    exact List.pairwise_map.2 (CandidateIndex.pairwise_candidates u)
  refine Option.ext fun id => ?_
  rw [hplaces, lookup_eq_of_perm (List.reverse_perm _) hnodup, lookup_eq_some_iff_of_nodup hnodup,
    List.mem_map, Option.map_eq_some_iff]
  simp only [Prod.mk.injEq, CandidateIndex.forDeclaration?_eq_some_iff, and_assoc]

private theorem isMatched_ofUnit (u : CompilationUnit) (decl : DeclId) :
    (ofUnit u).isMatched decl = (CandidateIndex.scan u).isMatched decl := by
  rw [isMatched, lookup_places_ofUnit, Option.isSome_map, Bool.eq_iff_iff,
    CandidateIndex.isMatched_iff, Option.isSome_iff_exists]
  simp only [CandidateIndex.forDeclaration?_eq_some_iff]

private theorem forDeclaration?_ofUnit (u : CompilationUnit) (decl : DeclId) :
    (ofUnit u).forDeclaration? decl = (CandidateIndex.scan u).forDeclaration? decl := by
  rw [forDeclaration?, lookup_places_ofUnit, candidates_ofUnit]
  cases hfind : (CandidateIndex.scan u).forDeclaration? decl with
  | none => rfl
  | some c =>
    -- the place leads to a position, and there this candidate stands
    have hmem : c ∈ (CandidateIndex.scan u).candidates :=
      (CandidateIndex.forDeclaration?_eq_some_iff.1 hfind).1
    exact CandidateIndex.get?_eq_some_iff.2 ⟨hmem, rfl⟩

end CandidateTable

namespace CandidateIndex

/-- A `scan` has a candidate for each declaration with a marker, in source order, and each has the
position at which it stands. A candidate repeats the name, the location and the first marker of its
declaration. `isMatched` holds exactly for the declarations with a marker. `forDeclaration?` finds
the candidate that has the declaration, and nothing for other declarations; it and `get?` undo each
other. The `CandidateTable` that is filled in one pass over the declarations has the same candidates
and gives the same answers. -/
theorem scan_lists_first_markers (u : CompilationUnit) :
    (scan u).candidates.map Candidate.decl =
      (u.declarations.filter fun entry => entry.2.HasMarker).map Prod.fst ∧
    (∀ (i : Nat) (c : Candidate), (scan u).candidates[i]? = some c → c.id = ⟨i⟩ ∧
      ∃ d before a after, u.declaration? c.decl = some d ∧
        d.annotations = before ++ a :: after ∧ a.name.text = markerName ∧
        (∀ other ∈ before, other.name.text ≠ markerName) ∧
        c.owner = d.qualifiedName ∧ c.location = d.location ∧ c.marker = .ofAttribute a) ∧
    (∀ decl, (scan u).isMatched decl = true ↔
      ∃ d, u.declaration? decl = some d ∧ d.HasMarker) ∧
    (∀ decl,
      (∀ c, (scan u).forDeclaration? decl = some c ↔
        c ∈ (scan u).candidates ∧ c.decl = decl) ∧
      ((scan u).forDeclaration? decl = none ↔ (scan u).isMatched decl = false)) ∧
    (∀ c,
      (∀ decl, (scan u).forDeclaration? decl = some c ↔
        (scan u).get? c.id = some c ∧ c.decl = decl) ∧
      (∀ id, (scan u).get? id = some c ↔
        (scan u).forDeclaration? c.decl = some c ∧ c.id = id)) ∧
    (CandidateTable.ofUnit u).candidates = (scan u).candidates ∧
    ∀ decl, (CandidateTable.ofUnit u).isMatched decl = (scan u).isMatched decl ∧
      (CandidateTable.ofUnit u).forDeclaration? decl = (scan u).forDeclaration? decl := by
  refine ⟨?_, fun i c hc => ⟨id_of_getElem? hc, ?_⟩,
    fun decl => isMatched_iff.trans exists_candidate_iff,
    fun decl => ⟨fun c => forDeclaration?_eq_some_iff, ?_⟩,
    fun c => ⟨fun decl => ?_, fun id => ?_⟩, CandidateTable.candidates_ofUnit u,
    fun decl => ⟨CandidateTable.isMatched_ofUnit u decl,
      CandidateTable.forDeclaration?_ofUnit u decl⟩⟩
  · rw [candidates_scan, map_decl_candidatesOf]
  · obtain ⟨d, a, hd, ha, howner, hmarker, hlocation⟩ :=
      exists_declaration (List.mem_of_getElem? hc)
    obtain ⟨before, after, hannotations, hname, hbefore⟩ := Marker.find?_eq_some_iff.1 ha
    exact ⟨d, before, a, after, hd, hannotations, hname, hbefore, howner, hlocation, hmarker⟩
  · rw [Option.eq_none_iff_forall_ne_some, ← Bool.not_eq_true, isMatched_iff, not_exists]
    exact forall_congr' fun c => not_congr forDeclaration?_eq_some_iff
  · rw [forDeclaration?_eq_some_iff, get?_eq_some_iff]
    simp
  · rw [forDeclaration?_eq_some_iff, get?_eq_some_iff]
    simp

end CandidateIndex

end ScreenSynthesis
