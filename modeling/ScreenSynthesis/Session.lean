import ScreenSynthesis.Binding
import ScreenSynthesis.Bodies
import ScreenSynthesis.Error
import ScreenSynthesis.Text.Quoted

/-!
# Sessions

A session takes one unit through the phases: candidates are found, then checked, then given stubs,
then the stubs are filled. Each phase needs the one before it; the two that synthesize may be
repeated. A call that comes at the wrong time is an error and leaves the session as it was.
-/

namespace ScreenSynthesis

/-- A unit on its way through the phases. -/
structure Session where
  unit : CompilationUnit
  config : ScreenConfig
  /-- Which types exist for the sake of bindings. -/
  knows : QualifiedName → Bool
  lineage : Lineage unit.graph := .empty unit.graph
  candidates : CandidateIndex := {}
  /-- What was found out about the candidates, the latest first. -/
  validations : List (CandidateId × Validation) := []
  diagnostics : DiagnosticLog := {}
  symbols : SymbolTable := {}
  phase : Phase := .created

/-- How much each phase of a whole run has produced. -/
structure Summary where
  candidates : Nat
  diagnostics : Nat
  signatures : Nat
  bodies : Nat
deriving DecidableEq, Repr, Inhabited

namespace Session

/-- A new session. Unless it is told otherwise, the types that exist are those of the unit. -/
def new (unit : CompilationUnit) (config : ScreenConfig)
    (knows : QualifiedName → Bool := unit.contains) : Session :=
  { unit, config, knows }

/-- Whether the session is in the phase an operation starts from, or in the one it ends in if it
may be repeated. -/
def expectPhase (s : Session) (operation : Operation) (start rerun : Phase) :
    Except SynthesisError Unit :=
  if s.phase = start ∨ s.phase = rerun then .ok ()
  else .error (.phaseOrder operation start s.phase)

/-- Whether the session has come far enough for an operation. -/
def requireAtLeast (s : Session) (operation : Operation) (phase : Phase) :
    Except SynthesisError Unit :=
  if phase.rank ≤ s.phase.rank then .ok () else .error (.phaseOrder operation phase s.phase)

/-- Finds the candidates, and counts them. -/
def scan (s : Session) : Except SynthesisError (Nat × Session) := do
  s.expectPhase .scan .created .created
  let candidates := CandidateIndex.scan s.unit
  return (candidates.size, { s with candidates, phase := .scanned })

/-- Checks the candidates, and counts the diagnostics. -/
def validate (s : Session) : Except SynthesisError (Nat × Session) := do
  s.expectPhase .validate .scanned .scanned
  let candidates := s.candidates.candidates
  let (found, reported, lineage) := Validation.checkAll s.lineage candidates
  -- a lookup finds the latest entry first
  let validations := ((candidates.map (·.id)).zip found).reverse ++ s.validations
  let diagnostics := s.diagnostics.append reported
  return (diagnostics.size, { s with validations, diagnostics, lineage, phase := .validated })

/-- What was found out about a candidate. -/
def validation? (s : Session) (id : CandidateId) : Option Validation := s.validations.lookup id

/-- Adds the stubs and the binding of a candidate: none if it failed its checks. -/
def addSymbols (s : Session) (t : SymbolTable) (c : Candidate) : List SymbolId × SymbolTable :=
  match s.validation? c.id with
  | none => ([], t)
  | some v =>
    if v.fatal then ([], t)
    else
      match s.unit.declaration? c.decl with
      | none => ([], t)
      | some d =>
        -- the binding is offered to a table that has the stubs already
        let (stubs, t) := Stubs.add t c d v
        let (binding, t) := Binding.add s.config s.knows t c d v
        (stubs ++ binding, t)

/-- Adds the symbols of candidates, one candidate after the other. -/
def addAllSymbols (s : Session) (t : SymbolTable) : List Candidate → List SymbolId × SymbolTable
  | [] => ([], t)
  | c :: rest =>
    let (ids, t) := s.addSymbols t c
    let (more, t) := s.addAllSymbols t rest
    (ids ++ more, t)

/-- Adds the symbols of all candidates, and counts those that are new. -/
def synthesizeSignatures (s : Session) : Except SynthesisError (Nat × Session) := do
  s.expectPhase .synthesizeSignatures .validated .signaturesSynthesized
  let (new, symbols) := s.addAllSymbols s.symbols s.candidates.candidates
  return (new.length, { s with symbols, phase := .signaturesSynthesized })

/-- Fills the stubs, and counts those that were filled. -/
def synthesizeBodies (s : Session) : Except SynthesisError (Nat × Session) := do
  s.expectPhase .synthesizeBodies .signaturesSynthesized .bodiesSynthesized
  let (filled, symbols) := Bodies.fill s.unit s.symbols
  return (filled, { s with symbols, phase := .bodiesSynthesized })

/-- Runs every phase of a new session. -/
def runAll (s : Session) : Except SynthesisError (Summary × Session) := do
  let (candidates, s) ← s.scan
  let (diagnostics, s) ← s.validate
  let (signatures, s) ← s.synthesizeSignatures
  let (bodies, s) ← s.synthesizeBodies
  return ({ candidates, diagnostics, signatures, bodies }, s)

/-- The candidate with a name. -/
def candidate? (s : Session) (owner : QualifiedName) : Option Candidate :=
  (s.unit.lookup? owner).bind s.candidates.forDeclaration?

/-- Whether some diagnostic is fatal. -/
def hasFatal (s : Session) : Bool := s.diagnostics.hasFatal

/-- Whether one type derives from another in the unit. -/
def isDerived (s : Session) (t target : QualifiedName) : Bool × Session :=
  let (answer, lineage) := s.lineage.isDerived t target
  (answer, { s with lineage })

/-- The session on one line, for a look at it. -/
def summary (s : Session) : String :=
  "CompilationSession \x7b unit: " ++ Text.quote s.unit.name ++ ", phase: " ++ s.phase.identifier ++
    ", candidates: " ++ toString s.candidates.size ++ ", diagnostics: " ++
    toString s.diagnostics.size ++ ", symbols: " ++ toString s.symbols.size ++ ", .. \x7d"

end Session

end ScreenSynthesis
