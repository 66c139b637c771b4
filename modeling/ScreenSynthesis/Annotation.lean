import ScreenSynthesis.Session

/-!
# Line annotations

Editors mark the line of every candidate with the key that its screen has or will have. The
annotations of a session depend on its candidates alone, and so stay the same in all later phases.
-/

namespace ScreenSynthesis

/-- A mark beside the line of a declaration. -/
structure LineAnnotation where
  owner : QualifiedName
  location : SourceLocation
  key : String
  tooltip : String
deriving DecidableEq, Repr, Inhabited

namespace Session

/-- The annotation of a candidate. -/
def annotate (s : Session) (c : Candidate) : Option LineAnnotation :=
  (s.unit.declaration? c.decl).map fun d =>
    let key := d.lookupKey
    { owner := c.owner
      location := c.location
      key
      tooltip := "Screen generated constants:\n" ++ keyName ++ " = \"" ++ key ++ "\"" }

/-- The annotations of all candidates, in source order. -/
def annotations (s : Session) : Except SynthesisError (List LineAnnotation) := do
  s.requireAtLeast .annotations .scanned
  return s.candidates.candidates.filterMap s.annotate

end Session

end ScreenSynthesis
