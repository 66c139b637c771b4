import ScreenSynthesis.Marker
import ScreenSynthesis.Unit

/-!
# Candidates

A candidate is a declaration that carries the marker. The index of a unit lists its candidates in
source order, each with its position in that list, and finds the candidate of a declaration.
-/

namespace ScreenSynthesis

/-- The position of a candidate in its index. -/
structure CandidateId where
  index : Nat
deriving DecidableEq, Repr, Inhabited

/-- A declaration that carries the marker. -/
structure Candidate where
  id : CandidateId
  decl : DeclId
  owner : QualifiedName
  marker : Marker
  location : SourceLocation
deriving DecidableEq, Repr, Inhabited

/-- The candidates of a unit. -/
structure CandidateIndex where
  candidates : List Candidate := []
deriving DecidableEq, Repr, Inhabited

namespace CandidateIndex

/-- The declarations of a unit that carry the marker, each with its first marker. -/
def marked (u : CompilationUnit) : List (DeclId × ClassDecl × AttributeLiteral) :=
  u.declarations.filterMap fun (id, c) => (Marker.find? c).map fun a => (id, c, a)

/-- The candidates of a unit, in source order. -/
def scan (u : CompilationUnit) : CandidateIndex where
  candidates := (marked u).mapIdx fun i (id, c, a) =>
    { id := ⟨i⟩
      decl := id
      owner := c.qualifiedName
      marker := .ofAttribute a
      location := c.location }

/-- The candidate at a position. -/
def get? (index : CandidateIndex) (id : CandidateId) : Option Candidate :=
  index.candidates[id.index]?

/-- The candidate of a declaration. -/
def forDeclaration? (index : CandidateIndex) (decl : DeclId) : Option Candidate :=
  index.candidates.find? (·.decl = decl)

/-- Whether a declaration is a candidate. -/
def isMatched (index : CandidateIndex) (decl : DeclId) : Bool :=
  index.candidates.any (·.decl = decl)

/-- How many candidates there are. -/
def size (index : CandidateIndex) : Nat := index.candidates.length

end CandidateIndex

end ScreenSynthesis
