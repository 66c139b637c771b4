import ScreenSynthesis.Proofs.ScreenMembers

/-!
# Failed checks and what they leave alone

What is on record about a candidate, what is reported about it and which symbols it gets are kept in
three places, and all candidates share them, as they share the lineage that the checks consult. The
three tell the same story nevertheless, and a candidate's part of it is the same in any two sessions
that have its declaration and agree on the types that it names, whatever becomes of the others.

## Key results

- `Reachable.symbols_forOwner`: the symbols of a candidate, without their positions
- `symbols_congr`: sessions that have judged a candidate alike give it the same symbols
- `faults_reported_and_isolated`: what is reported, what is on record, and that no failure spreads
-/

namespace ScreenSynthesis

namespace Session

open Validation

variable {s s' : Session} {c c' : Candidate}

/-! ## Two sessions with the same declaration -/

/-- `forOwner` lists for a candidate what it has `wanted`, with bodies in the last phase. -/
theorem Reachable.symbols_forOwner (h : s.Reachable) (hc : c ∈ s.candidates.candidates) :
    (s.symbols.forOwner c.decl).map (fun symbol => (symbol.signature, symbol.body)) =
      if Phase.signaturesSynthesized.rank ≤ s.phase.rank then
        (s.wanted c).map fun signature =>
          (signature,
            if s.phase = .bodiesSynthesized then
              (s.unit.declaration? c.decl).map (Bodies.bodyFor signature)
            else none)
      else [] := by
  split
  · -- the signatures are known by then, and the bodies follow from them
    rename_i hphase
    rw [← h.signatures_forOwner hphase hc, List.map_map]
    refine List.map_congr_left fun symbol hsymbol => ?_
    obtain ⟨hmem, howner⟩ := List.mem_filter.1 hsymbol
    rw [h.body_eq hmem, of_decide_eq_true howner]
    rfl
  · rename_i hphase
    rw [h.wellFormed.symbols_eq (Nat.lt_of_not_le hphase)]
    rfl

/-- Candidates of the same declaration in two sessions differ in their positions at most. -/
private theorem Reachable.eq_of_declaration_eq (h : s.Reachable) (h' : s'.Reachable)
    (hc : c ∈ s.candidates.candidates) (hc' : c' ∈ s'.candidates.candidates)
    (hdecl : c'.decl = c.decl) (hd : s'.unit.declaration? c.decl = s.unit.declaration? c.decl) :
    c' = { c with id := c'.id } := by
  obtain ⟨d, a, hd₁, ha, howner, hmarker, hlocation⟩ :=
    CandidateIndex.exists_declaration (h.mem_scan hc)
  obtain ⟨d', a', hd₁', ha', howner', hmarker', hlocation'⟩ :=
    CandidateIndex.exists_declaration (h'.mem_scan hc')
  rw [hdecl, hd] at hd₁'
  obtain rfl : d = d' := Option.some.inj (hd₁.symm.trans hd₁')
  obtain rfl : a = a' := Option.some.inj (ha.symm.trans ha')
  -- both candidates repeat what is written at the declaration
  have howners : c'.owner = c.owner := howner'.trans howner.symm
  have hmarkers : c'.marker = c.marker := hmarker'.trans hmarker.symm
  have hlocations : c'.location = c.location := hlocation'.trans hlocation.symm
  show c' = ⟨c'.id, c.decl, c.owner, c.marker, c.location⟩
  rw [← hdecl, ← howners, ← hmarkers, ← hlocations]

/-- A declaration that has a candidate in one session has one in every session that has come as
far. -/
private theorem Reachable.exists_candidate_of_declaration_eq (h : s.Reachable) (h' : s'.Reachable)
    (hphase : Phase.scanned.rank ≤ s'.phase.rank) (hc : c ∈ s.candidates.candidates)
    (hd : s'.unit.declaration? c.decl = s.unit.declaration? c.decl) :
    ∃ c' ∈ s'.candidates.candidates, c'.decl = c.decl := by
  obtain ⟨d, a, hd₁, ha, -⟩ := CandidateIndex.exists_declaration (h.mem_scan hc)
  obtain ⟨c', hc', hdecl⟩ := CandidateIndex.exists_candidate (hd.trans hd₁) ha
  rw [← h'.candidates_eq hphase] at hc'
  exact ⟨c', hc', hdecl⟩

/-- `wanted` asks for the same for candidates of the same declaration that were judged alike. -/
private theorem wanted_congr {id : CandidateId} {v : Validation} (hconfig : s'.config = s.config)
    (hknows : s'.knows = s.knows)
    (hd : s'.unit.declaration? c.decl = s.unit.declaration? c.decl)
    (hv : s.validation? c.id = some v) (hv' : s'.validation? id = some v) :
    s'.wanted { c with id } = s.wanted c := by
  unfold wanted
  simp only [hv, hv', hd, hconfig, hknows]
  rfl

/-- `forOwner` lists the same in sessions that have judged a candidate alike, apart from
positions. -/
theorem symbols_congr {id : CandidateId} {v : Validation} (h : s.Reachable) (h' : s'.Reachable)
    (hconfig : s'.config = s.config) (hknows : s'.knows = s.knows) (hphase : s'.phase = s.phase)
    (hd : s'.unit.declaration? c.decl = s.unit.declaration? c.decl)
    (hc : c ∈ s.candidates.candidates) (hc' : { c with id } ∈ s'.candidates.candidates)
    (hv : s.validation? c.id = some v) (hv' : s'.validation? id = some v) :
    (s'.symbols.forOwner c.decl).map (fun symbol => (symbol.signature, symbol.body)) =
      (s.symbols.forOwner c.decl).map fun symbol => (symbol.signature, symbol.body) := by
  have hsymbols := h'.symbols_forOwner hc'
  -- apart from the outcome on record all that counts is shared: phase, settings and declaration
  rw [wanted_congr hconfig hknows hd hv hv', hphase] at hsymbols
  rw [hsymbols, h.symbols_forOwner hc]
  simp only [hd]

/-! ## Failures -/

/-- Once the candidates are checked, whatever the lineage was asked before and since, the
diagnostics are the `faults` of the candidates, one candidate after the other. A candidate has
failed exactly if something is reported about its owner, and then it has no symbols. `hasFatal`
holds exactly if some candidate has failed. Whether others have failed makes no difference: a
session that has come to the same phase, has the same declaration and agrees about its candidate
(`AgreeAbout`) has the same on record for it, reports the same and has the same symbols. -/
theorem faults_reported_and_isolated (hs : s.Reachable)
    (hphase : Phase.validated.rank ≤ s.phase.rank) :
    s.candidates = CandidateIndex.scan s.unit ∧
      s.diagnostics.entries = s.candidates.candidates.flatMap (faults s.unit.graph) ∧
      (s.hasFatal = true ↔
        ∃ c ∈ s.candidates.candidates, ∃ v, s.validation? c.id = some v ∧ v.fatal = true) ∧
      ∀ c ∈ s.candidates.candidates, ∃ v, s.validation? c.id = some v ∧
        (v.onController = true ↔
          s.unit.graph.Reachable c.owner ⟨"androidx.fragment.app.Fragment"⟩) ∧
        v.argument = resolveArgument s.unit.graph c.owner c.marker.argument ∧
        (v.fatal = true ↔ s.diagnostics.forOwner c.owner ≠ []) ∧
        (v.fatal = true → s.symbols.forOwner c.decl = []) ∧
        ∀ s' : Session, s'.Reachable → s'.config = s.config → s'.knows = s.knows →
          s'.phase = s.phase → s'.unit.declaration? c.decl = s.unit.declaration? c.decl →
          AgreeAbout s.unit.graph s'.unit.graph c →
          ∃ c' ∈ s'.candidates.candidates, c'.decl = c.decl ∧ s'.validation? c'.id = some v ∧
            s'.diagnostics.forOwner c.owner = s.diagnostics.forOwner c.owner ∧
            (s'.symbols.forOwner c.decl).map (fun symbol => (symbol.signature, symbol.body)) =
              (s.symbols.forOwner c.decl).map fun symbol => (symbol.signature, symbol.body) := by
  refine ⟨hs.candidates_eq (Nat.le_trans (by decide) hphase), hs.judged.diagnostics_eq hphase,
    hs.hasFatal_iff, fun c hc => ?_⟩
  have hv := hs.validation?_eq hphase hc
  refine ⟨_, hv, decide_eq_true_iff, rfl, hs.fatal_iff_forOwner hc hv,
    hs.forOwner_eq_nil_of_fatal hc hv, fun s' hs' hconfig hknows hsame hd hagree => ?_⟩
  -- the other session has come as far, so that its candidate is judged as well
  have hphase' : Phase.validated.rank ≤ s'.phase.rank := hsame ▸ hphase
  obtain ⟨c', hc', hdecl⟩ :=
    hs.exists_candidate_of_declaration_eq hs' (Nat.le_trans (by decide) hphase') hc hd
  have heq := hs.eq_of_declaration_eq hs' hc hc' hdecl hd
  -- the position of a candidate has no part in its judgement
  have hv' : s'.validation? c'.id = some (judge s.unit.graph c) := by
    rw [hs'.validation?_eq hphase' hc', judge_congr hagree, heq]
    rfl
  refine ⟨c', hc', hdecl, hv', ?_, ?_⟩
  · have hdiagnostics := hs'.forOwner_diagnostics hphase' hc'
    rw [heq] at hdiagnostics
    rw [hs.forOwner_diagnostics hphase hc, faults_congr hagree]
    exact hdiagnostics
  · exact symbols_congr hs hs' hconfig hknows hsame hd hc (heq ▸ hc') hv hv'

/-- A class with a marker that is no screen, and that cannot be its own argument either. -/
def stray : ClassDecl where
  package := "app"
  name := "Stray"
  annotations := [{ name := ⟨markerName⟩, arguments := [⟨none, .classRef "Stray"⟩] }]
  location := { file := "Stray.kt", line := 4, column := 2 }

/-- The stray fails both checks and the editor none. Had the stray passed, the editor would have got
the same symbols. The lineage has been asked about both before. -/
theorem faults_reported_and_isolated_stray :
    let knows := fun _ : QualifiedName => true
    let asked := ((new ⟨{ classes := [stray, draft, editor] }, by decide⟩ {} knows).isDerived
      ⟨"app.Editor"⟩ ⟨"app.Stray"⟩).2
    let s := (asked.call .runAll).2
    let stray' : ClassDecl :=
      { stray with
        supertypes := [⟨"androidx.fragment.app.Fragment"⟩, ⟨"android.os.Parcelable"⟩] }
    let s' := ((new ⟨{ classes := [stray', draft, editor] }, by decide⟩ {} knows).call .runAll).2
    Phase.validated.rank ≤ s.phase.rank ∧
      s.diagnostics.entries =
        [{ kind :=
            { code := "NOT_ON_CONTROLLER"
              severity := .error
              message := "@Screen can only be applied to classes deriving from " ++
                "androidx.fragment.app.Fragment" }
           owner := ⟨"app.Stray"⟩
           subject := "app.Stray"
           location := { file := "Stray.kt", line := 4, column := 2 } },
         { kind :=
            { code := "ARG_NOT_SERIALIZABLE"
              severity := .error
              message := "@Screen argument type must implement android.os.Parcelable" }
           owner := ⟨"app.Stray"⟩
           subject := "app.Stray"
           location := { file := "Stray.kt", line := 4, column := 2 } }] ∧
      s.hasFatal = true ∧ s'.hasFatal = false ∧
      (s.symbols.forOwner ⟨2⟩).length = 2 ∧
      (s'.symbols.forOwner ⟨2⟩).map (fun symbol => (symbol.signature, symbol.body)) =
        (s.symbols.forOwner ⟨2⟩).map fun symbol => (symbol.signature, symbol.body) := by
  intro knows asked s stray' s'
  have hs : s.Reachable := .call (.isDerived (.new _ _ _) _ _) _
  have hs' : s'.Reachable := .call (.new _ _ _) _
  have hphase : Phase.validated.rank ≤ s.phase.rank := by decide +kernel
  obtain ⟨hunit, hconfig, hknows⟩ : s.unit = asked.unit ∧ s.config = asked.config ∧
    s.knows = asked.knows := inputs_call asked .runAll
  obtain ⟨hunit', hconfig', hknows'⟩ : s'.unit = ⟨{ classes := [stray', draft, editor] }, _⟩ ∧
    s'.config = {} ∧ s'.knows = knows := inputs_call (new _ _ _) .runAll
  let c : Candidate :=
    { id := ⟨1⟩
      decl := ⟨2⟩
      owner := ⟨"app.Editor"⟩
      marker := ⟨.unqualified "Draft", true⟩
      location := {} }
  have hc : c ∈ s.candidates.candidates := by decide +kernel
  -- the two graphs differ in the supertypes of the stray only
  have hothers : ∀ u, u ≠ ⟨"app.Stray"⟩ →
      s.unit.graph.supertypes? u = s'.unit.graph.supertypes? u := by
    intro u hu
    have hstray : (u == ⟨"app.Stray"⟩) = false := beq_eq_false_iff_ne.2 hu
    rw [hunit, hunit']
    show List.lookup u ((⟨"app.Stray"⟩, []) :: _) = List.lookup u ((⟨"app.Stray"⟩, _) :: _)
    rw [List.lookup_cons, List.lookup_cons, hstray]
    rfl
  have hnamed : namedArgument c.owner c.marker.argument = some ⟨"app.Draft"⟩ := by decide +kernel
  -- neither the editor nor its draft derives from the stray
  have hagree : AgreeAbout s.unit.graph s'.unit.graph c := by
    refine ⟨TypeGraph.agreeOn_of_not_reachable hothers (by decide +kernel), fun type htype => ?_⟩
    obtain rfl : ⟨"app.Draft"⟩ = type := Option.some.inj (hnamed.symm.trans htype)
    exact TypeGraph.agreeOn_of_not_reachable hothers (by decide +kernel)
  obtain ⟨-, hentries, -, hcandidates⟩ := faults_reported_and_isolated hs hphase
  obtain ⟨v, -, -, -, -, -, hother⟩ := hcandidates c hc
  obtain ⟨c', -, -, -, -, hsymbols⟩ :=
    hother s' hs' (hconfig'.trans hconfig.symm) (hknows'.trans hknows.symm) (by decide +kernel)
      (by decide +kernel) hagree
  exact ⟨hphase, hentries.trans (by decide +kernel), by decide +kernel, by decide +kernel,
    by decide +kernel, hsymbols⟩

end Session

end ScreenSynthesis
