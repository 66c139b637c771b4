import ScreenSynthesis.Proofs.FailureIsolation
import ScreenSynthesis.Proofs.NameIndex

/-!
# What becomes of a declaration

All declarations of a unit go through the phases together: they share the index of candidates, the
record of checks, the log of diagnostics, the symbol table and the lineage. Still what becomes of
one of them can be told from the declaration itself, the type graph and the settings. So it does not
matter where the declaration stands, which others are there, and what is written in them.

## Key results

- `Reachable.outcome_eq`: what becomes of a declaration, in terms of the declaration alone
- `ClassDecl.outcome_congr`: type graphs that agree on every name lead to the same
- `CompilationUnit.supertypes?_eq_of_perm`: the order of classes makes no difference to the type
  graph
- `outcome_local`: the same declaration in different units, and the classes of a unit in another
  order
-/

namespace ScreenSynthesis

/-! ## Outcomes -/

/-- What a symbol is, apart from the positions in it: its own and that of its declaration. -/
structure SymbolContent where
  ownerName : QualifiedName
  scope : Scope
  name : String
  kind : SymbolKind
  declaredType : Option TypeRef
  parameters : List Parameter
  visibility : Visibility
  body : Option Body
deriving DecidableEq, Repr

/-- The content of a symbol with this signature and a body. -/
def Signature.content (s : Signature) (body : Option Body) : SymbolContent where
  ownerName := s.ownerName
  scope := s.scope
  name := s.name
  kind := s.kind
  declaredType := s.declaredType
  parameters := s.parameters
  visibility := s.visibility
  body := body

/-- The content of a symbol: all of it but the positions. -/
def Symbol.content (s : Symbol) : SymbolContent := s.signature.content s.body

/-- What becomes of a declaration: the outcome of its checks, if it was checked, the diagnostics
about it, and its new members. -/
structure Outcome where
  validation : Option Validation
  diagnostics : List Diagnostic
  members : List SymbolContent
deriving DecidableEq, Repr

/-- The candidate that stands for a declaration, with positions that say nothing. -/
def ClassDecl.candidate (d : ClassDecl) (a : AttributeLiteral) : Candidate where
  id := ⟨0⟩
  decl := ⟨0⟩
  owner := d.qualifiedName
  marker := .ofAttribute a
  location := d.location

open Validation in
/-- What is bound to become of a declaration, whatever stands beside it. -/
def ClassDecl.outcome (d : ClassDecl) (g : TypeGraph) (config : ScreenConfig)
    (knows : QualifiedName → Bool) : Outcome :=
  match Marker.find? d with
  | none => { validation := none, diagnostics := [], members := [] }
  | some a =>
    let c := d.candidate a
    let v := judge g c
    { validation := some v
      diagnostics := faults g c
      members :=
        if v.fatal then []
        else (Stubs.wanted c d v ++ Binding.wanted config knows c d v).map fun signature =>
          signature.content (some (Bodies.bodyFor signature d)) }

namespace Session

/-- What has become of the declaration at a position. -/
def outcome (s : Session) (decl : DeclId) : Outcome where
  validation := (s.candidates.forDeclaration? decl).bind fun c => s.validation? c.id
  diagnostics :=
    match s.unit.declaration? decl with
    | some d => s.diagnostics.forOwner d.qualifiedName
    | none => []
  members := (s.symbols.forOwner decl).map Symbol.content

/-- What has become of all declarations, in source order. -/
def outcomes (s : Session) : List (ClassDecl × Outcome) :=
  s.unit.declarations.map fun (decl, d) => (d, s.outcome decl)

end Session

/-! ## One declaration -/

/-- `Stubs.wanted` asks for the same content wherever the declaration stands. -/
private theorem Stubs.map_content_wanted (c : Candidate) (d : ClassDecl) (v : Validation)
    (id : CandidateId) (decl : DeclId) :
    ((wanted { c with id, decl } d v).map fun s => s.content (some (Bodies.bodyFor s d))) =
      (wanted c d v).map fun s => s.content (some (Bodies.bodyFor s d)) := by
  simp only [wanted, List.map_append, apply_ite (List.map _), List.map_map]
  rfl

/-- `Binding.wanted` asks for the same content wherever the declaration stands. -/
private theorem Binding.map_content_wanted (config : ScreenConfig) (knows : QualifiedName → Bool)
    (c : Candidate) (d : ClassDecl) (v : Validation) (id : CandidateId) (decl : DeclId) :
    ((wanted config knows { c with id, decl } d v).map fun s =>
      s.content (some (Bodies.bodyFor s d))) =
      (wanted config knows c d v).map fun s => s.content (some (Bodies.bodyFor s d)) := by
  simp only [wanted, apply_ite (List.map _), List.map_map]
  rfl

namespace Session

open Validation

variable {s : Session} {decl : DeclId} {d : ClassDecl}

/-- The candidate of a declaration is `ClassDecl.candidate`, up to its positions. -/
private theorem Reachable.eq_candidate (h : s.Reachable) {c : Candidate} {a : AttributeLiteral}
    (hc : c ∈ s.candidates.candidates) (hd : s.unit.declaration? c.decl = some d)
    (ha : Marker.find? d = some a) : c = { d.candidate a with id := c.id, decl := c.decl } := by
  obtain ⟨a', ha', howner, hmarker, hlocation⟩ := CandidateIndex.exists_marker (h.mem_scan hc) hd
  obtain rfl : a = a' := Option.some.inj (ha.symm.trans ha')
  -- all fields but the positions are written in the declaration
  obtain ⟨id, decl, owner, marker, location⟩ := c
  obtain rfl : owner = d.qualifiedName := howner
  obtain rfl : marker = .ofAttribute a := hmarker
  obtain rfl : location = d.location := hlocation
  rfl

/-- `forOwner` lists no diagnostics for a declaration without a marker. -/
private theorem Reachable.forOwner_diagnostics_eq_nil (h : s.Reachable)
    (hd : s.unit.declaration? decl = some d) (hnone : Marker.find? d = none) :
    s.diagnostics.forOwner d.qualifiedName = [] := by
  refine List.filter_eq_nil_iff.2 fun diagnostic hmem howner => ?_
  have hphase : Phase.validated.rank ≤ s.phase.rank := by
    refine Nat.le_of_not_lt fun hlt => ?_
    rw [(h.judged.blank hlt).2] at hmem
    exact nomatch hmem
  rw [h.judged.diagnostics_eq hphase] at hmem
  obtain ⟨c, hc, hfault⟩ := List.mem_flatMap.1 hmem
  -- a candidate with something to report about this name would be that of the declaration
  obtain ⟨d', a, hd', ha, hname, -⟩ := CandidateIndex.exists_declaration (h.mem_scan hc)
  have hnames : d'.qualifiedName = d.qualifiedName :=
    hname.symm.trans ((owner_of_mem_faults hfault).1.symm.trans (of_decide_eq_true howner))
  rw [CompilationUnit.eq_of_qualifiedName_eq hd' hd hnames] at hd'
  obtain rfl : d = d' := Option.some.inj (hd.symm.trans hd')
  rw [hnone] at ha
  exact nomatch ha

/-- The `outcome` of a declaration without a marker is empty. -/
private theorem Reachable.outcome_of_unmarked (h : s.Reachable)
    (hd : s.unit.declaration? decl = some d) (hnone : Marker.find? d = none) :
    s.outcome decl = { validation := none, diagnostics := [], members := [] } := by
  -- a candidate at this position would have found a marker there
  have hno : ∀ c ∈ s.candidates.candidates, c.decl ≠ decl := by
    rintro c hc rfl
    obtain ⟨a, ha, -⟩ := CandidateIndex.exists_marker (h.mem_scan hc) hd
    rw [hnone] at ha
    exact nomatch ha
  have hfind : s.candidates.forDeclaration? decl = none :=
    List.find?_eq_none.2 fun c hc => by simpa using hno c hc
  simp only [outcome, hfind, hd, h.forOwner_eq_nil hno, h.forOwner_diagnostics_eq_nil hd hnone]
  rfl

/-- In the last phase the members of a declaration are what its candidate has `wanted`, with
bodies. -/
private theorem Reachable.map_content_forOwner (h : s.Reachable)
    (hphase : s.phase = .bodiesSynthesized) {c : Candidate} (hc : c ∈ s.candidates.candidates)
    (hd : s.unit.declaration? c.decl = some d) :
    (s.symbols.forOwner c.decl).map Symbol.content =
      (s.wanted c).map fun signature => signature.content (some (Bodies.bodyFor signature d)) := by
  have hadded : Phase.signaturesSynthesized.rank ≤ s.phase.rank := by rw [hphase]; decide
  have hsymbols := h.symbols_forOwner hc
  simp only [if_pos hadded, if_pos hphase, hd, Option.map_some] at hsymbols
  -- the content of a symbol is made of its signature and its body
  have hcontents := congrArg (List.map fun p : Signature × Option Body => p.1.content p.2) hsymbols
  rwa [List.map_map, List.map_map] at hcontents

/-- In the last phase the `outcome` at a position is the `ClassDecl.outcome` of the declaration
there, which is told from the declaration, the type graph and the settings. -/
theorem Reachable.outcome_eq (h : s.Reachable) (hphase : s.phase = .bodiesSynthesized)
    (hd : s.unit.declaration? decl = some d) :
    s.outcome decl = d.outcome s.unit.graph s.config s.knows := by
  have hvalidated : Phase.validated.rank ≤ s.phase.rank := by rw [hphase]; decide
  cases ha : Marker.find? d with
  | none =>
    rw [h.outcome_of_unmarked hd ha]
    simp only [ClassDecl.outcome, ha]
  | some a =>
    have hscan : s.candidates = CandidateIndex.scan s.unit :=
      h.candidates_eq (Nat.le_trans (by decide) hvalidated)
    obtain ⟨c, hc, rfl⟩ := CandidateIndex.exists_candidate hd ha
    have hfind : s.candidates.forDeclaration? c.decl = some c := by
      rw [hscan]
      exact CandidateIndex.forDeclaration?_eq_some_iff.2 ⟨hc, rfl⟩
    rw [← hscan] at hc
    have heq := h.eq_candidate hc hd ha
    have hv := h.validation?_eq hvalidated hc
    -- the checks do not look at the positions of a candidate
    have hjudge : judge s.unit.graph c = judge s.unit.graph (d.candidate a) := by rw [heq]; rfl
    have hfaults : s.diagnostics.forOwner d.qualifiedName =
        faults s.unit.graph (d.candidate a) := by
      have hreported := h.forOwner_diagnostics hvalidated hc
      rw [heq] at hreported
      exact hreported
    have hstubs := Stubs.map_content_wanted (d.candidate a) d
      (judge s.unit.graph (d.candidate a)) c.id c.decl
    have hbinding := Binding.map_content_wanted s.config s.knows (d.candidate a) d
      (judge s.unit.graph (d.candidate a)) c.id c.decl
    rw [← heq] at hstubs hbinding
    simp only [outcome, ClassDecl.outcome, ha, hfind, hd, Option.bind_some, hv, hfaults,
      h.map_content_forOwner hphase hc hd, wanted_eq hv hd, hjudge]
    -- the members are left: both sides ask the same judgement whether there are any
    congr 1
    split
    · rfl
    · rw [List.map_append, List.map_append, hstubs, hbinding]

end Session

/-! ## Units with the same type graph -/

namespace CompilationUnit

variable {u u' : CompilationUnit}

/-- `supertypes?` does not depend on the order of the entries of a unit. -/
theorem supertypes?_eq_of_perm (hclasses : u'.classes.Perm u.classes)
    (hclasspath : u'.classpath.Perm u.classpath) (name : QualifiedName) :
    u'.supertypes? name = u.supertypes? name := by
  have hentries : u'.graph.entries.Perm u.graph.entries :=
    (hclasses.map _).append (hclasspath.map _)
  exact lookup_eq_of_perm hentries (u.map_fst_entries_graph ▸ u.nodup_entryNames) name

/-- `contains` holds for the names for which `supertypes?` has an answer. -/
private theorem contains_eq_of_supertypes?_eq
    (h : ∀ name, u'.supertypes? name = u.supertypes? name) :
    u'.contains = u.contains :=
  funext fun name => congrArg Option.isSome (h name)

end CompilationUnit

open Validation in
/-- `ClassDecl.outcome` is the same in type graphs that give the same answers for all names. -/
theorem ClassDecl.outcome_congr {g g' : TypeGraph} (d : ClassDecl) (config : ScreenConfig)
    (knows : QualifiedName → Bool) (h : ∀ name, g'.supertypes? name = g.supertypes? name) :
    d.outcome g' config knows = d.outcome g config knows := by
  have hagree : ∀ name, g'.AgreeOn g name := fun _ name _ => h name
  unfold outcome
  split
  · rfl
  · rename_i a _
    -- the checks ask the graph about the owner and the argument only
    have habout : AgreeAbout g' g (d.candidate a) := ⟨hagree _, fun name _ => hagree name⟩
    simp only [judge_congr habout, faults_congr habout]

namespace Session

variable {u u' : CompilationUnit} {config : ScreenConfig} {knows : QualifiedName → Bool}
  {decl : DeclId} {d : ClassDecl}

/-- `runAll` brings a new session to the last phase. -/
private theorem phase_runAll (u : CompilationUnit) (config : ScreenConfig)
    (knows : QualifiedName → Bool) :
    ((new u config knows).call .runAll).2.phase = .bodiesSynthesized :=
  congrArg (·.2.phase) (call_runAll rfl)

/-- `runAll` brings a new session to the `ClassDecl.outcome` at every position. -/
private theorem outcome_runAll (hd : u.declaration? decl = some d) :
    ((new u config knows).call .runAll).2.outcome decl = d.outcome u.graph config knows := by
  obtain ⟨hunit, hconfig, hknows⟩ := inputs_call (new u config knows) .runAll
  have houtcome := (Reachable.call (.new u config knows) .runAll).outcome_eq
    (phase_runAll u config knows) ((congrArg (·.declaration? decl) hunit).trans hd)
  rw [houtcome, hunit, hconfig, hknows]
  rfl

/-- `runAll` brings a new session to the `ClassDecl.outcome` of all classes, in source order. -/
private theorem outcomes_runAll (u : CompilationUnit) (config : ScreenConfig)
    (knows : QualifiedName → Bool) :
    ((new u config knows).call .runAll).2.outcomes =
      u.classes.map fun d => (d, d.outcome u.graph config knows) := by
  obtain ⟨hunit, -, -⟩ := inputs_call (new u config knows) .runAll
  have hclasses : u.declarations.map Prod.snd = u.classes :=
    List.ext_getElem (by simp [CompilationUnit.declarations]) fun i _ _ => by
      simp [CompilationUnit.declarations]
  rw [outcomes, hunit, ← hclasses, List.map_map]
  refine List.map_congr_left fun entry hmem => ?_
  obtain ⟨decl, d⟩ := entry
  have hd : u.declaration? decl = some d := CompilationUnit.mem_declarations_iff.1 hmem
  have houtcome : ((new u config knows).call .runAll).2.outcome decl =
      d.outcome u.graph config knows := outcome_runAll hd
  exact congrArg (d, ·) houtcome

/-- Two units go through `runAll`, with the same configuration and the same known types, or each
with its own. If their type graphs give the same answers, a declaration that both have gets the same
`outcome`, whatever its positions and whatever else the units declare: its check has the same
outcome, if it has a marker, the same is reported about it, and it gets the same members with the
same bodies in the same order. If one unit has the classes of the other in another order, so are the
`outcomes` of its declarations those of the other in another order. -/
theorem outcome_local (u u' : CompilationUnit) (config : ScreenConfig)
    (knows knows' : QualifiedName → Bool)
    (hknows : knows' = knows ∨ knows = u.contains ∧ knows' = u'.contains) :
    let s := ((new u config knows).call .runAll).2
    let s' := ((new u' config knows').call .runAll).2
    s.phase = .bodiesSynthesized ∧ s'.phase = .bodiesSynthesized ∧
      ((∀ name, u'.supertypes? name = u.supertypes? name) →
        ∀ d decl decl', u.declaration? decl = some d → u'.declaration? decl' = some d →
          s'.outcome decl' = s.outcome decl ∧
          (Marker.find? d ≠ none → (s.outcome decl).validation ≠ none)) ∧
      (u'.classes.Perm u.classes → u'.classpath.Perm u.classpath →
        s'.outcomes.Perm s.outcomes) := by
  intro s s'
  -- units with the same type graph know the same types
  have hsame : (∀ name, u'.supertypes? name = u.supertypes? name) → knows' = knows := by
    intro hgraph
    rcases hknows with hknows | ⟨rfl, rfl⟩
    · exact hknows
    · exact CompilationUnit.contains_eq_of_supertypes?_eq hgraph
  refine ⟨phase_runAll u config knows, phase_runAll u' config knows',
    fun hgraph d decl decl' hd hd' => ⟨?_, ?_⟩, fun hclasses hclasspath => ?_⟩
  · have houtcome : s.outcome decl = d.outcome u.graph config knows := outcome_runAll hd
    have houtcome' : s'.outcome decl' = d.outcome u'.graph config knows' := outcome_runAll hd'
    rw [houtcome, houtcome', hsame hgraph, d.outcome_congr config knows hgraph]
  · intro hmarked
    obtain ⟨a, ha⟩ := Option.ne_none_iff_exists'.1 hmarked
    have houtcome : s.outcome decl = d.outcome u.graph config knows := outcome_runAll hd
    rw [houtcome]
    simp [ClassDecl.outcome, ha]
  · have hgraph := CompilationUnit.supertypes?_eq_of_perm hclasses hclasspath
    have houtcomes : s.outcomes = u.classes.map fun d => (d, d.outcome u.graph config knows) :=
      outcomes_runAll u config knows
    have houtcomes' : s'.outcomes = u'.classes.map fun d => (d, d.outcome u'.graph config knows') :=
      outcomes_runAll u' config knows'
    have hcongr : ∀ d : ClassDecl,
        d.outcome u'.graph config knows = d.outcome u.graph config knows := fun d =>
      d.outcome_congr config knows hgraph
    rw [houtcomes, houtcomes', hsame hgraph]
    simp only [hcongr]
    exact hclasses.map _

/-- The editor stands in another place, beside a stray without a marker and a draft that has become
a screen, and still has a layout to be bound. Nothing changes for it. If the classes of its unit are
put in the opposite order, so are their outcomes. -/
theorem outcome_local_editor :
    let layout : Delegation := { arguments := [.path "R.layout.editor"] }
    let editor : ClassDecl := { editor with delegation := some layout }
    let bound : ExternalType := { name := ⟨"app.EditorBinding"⟩ }
    let u : CompilationUnit :=
      ⟨{ classes := [stray, draft, editor], classpath := [bound] }, by decide⟩
    let u' : CompilationUnit :=
      ⟨{ classes := [editor, { draft with annotations := stray.annotations },
          { stray with annotations := [], members := [{ name := argName }] }],
         classpath := [bound] }, by decide⟩
    let u'' : CompilationUnit :=
      ⟨{ classes := [editor, draft, stray], classpath := [bound] }, by decide⟩
    let config : ScreenConfig := { appNamespace := some "app", bindingPackage := "" }
    let s := ((new u config u.contains).call .runAll).2
    let s' := ((new u' config u'.contains).call .runAll).2
    let s'' := ((new u'' config u''.contains).call .runAll).2
    ((s.outcome ⟨2⟩).members.map (·.name) = [keyName, argName, bindingName] ∧
      s'.outcome ⟨0⟩ = s.outcome ⟨2⟩) ∧ s''.outcomes.Perm s.outcomes := by
  intro layout editor bound u u' u'' config s s' s''
  -- the same entries, in another order
  have hentries : u'.graph.entries.Perm u.graph.entries := by decide
  have hgraph : ∀ name, u'.supertypes? name = u.supertypes? name :=
    lookup_eq_of_perm hentries (by decide)
  obtain ⟨-, -, hlocal, -⟩ :=
    outcome_local u u' config u.contains u'.contains (Or.inr ⟨rfl, rfl⟩)
  obtain ⟨-, -, -, hperm⟩ :=
    outcome_local u u'' config u.contains u''.contains (Or.inr ⟨rfl, rfl⟩)
  exact ⟨⟨by decide +kernel, (hlocal hgraph editor ⟨2⟩ ⟨0⟩ rfl rfl).1⟩,
    hperm (by decide) (.refl _)⟩

end Session

end ScreenSynthesis
