import ScreenSynthesis.Candidate
import ScreenSynthesis.Diagnostic
import ScreenSynthesis.Lineage

/-!
# Validation

A candidate is sound when its owner derives from the controller base and the type of its argument,
as far as it is known, can be transported. Both checks are made for every candidate, and each that
fails reports a fatal diagnostic at the owner.
-/

namespace ScreenSynthesis

/-- The type that every owner of a marker must derive from. -/
def controllerBase : QualifiedName := ⟨"androidx.fragment.app.Fragment"⟩

/-- The capability that the type of an argument must have. -/
def transportCapability : QualifiedName := ⟨"android.os.Parcelable"⟩

/-- What the checks found out about a candidate. -/
structure Validation where
  /-- The owner derives from the controller base. -/
  onController : Bool
  /-- The type of the argument, `none` when there is none or its bare name is not found. -/
  argument : Option QualifiedName
  /-- Some check failed, so that nothing is synthesized. -/
  fatal : Bool
deriving DecidableEq, Repr, Inhabited

namespace Validation

/-- The type that a marker on `owner` names as its argument. A bare name is looked for in the
owner's package and nowhere else. -/
def resolveArgument (g : TypeGraph) (owner : QualifiedName) : ArgumentRef → Option QualifiedName
  | .qualified name => some name
  | .unqualified short =>
    let guess := QualifiedName.inPackage owner.package short
    if g.contains guess then some guess else none
  | .noArgument | .absent => none

/-- Whether the type of an argument fails to be transportable. A type that the graph does not know
is given the benefit of the doubt. -/
def lacksCapability {g : TypeGraph} (l : Lineage g) (argument : Option QualifiedName) :
    Bool × Lineage g :=
  match argument with
  | some type =>
    if g.contains type then
      let (derived, l) := l.isDerived type transportCapability
      (!derived, l)
    else (false, l)
  | none => (false, l)

/-- Checks a candidate: what was found out, and what there is to report. -/
def check {g : TypeGraph} (l : Lineage g) (c : Candidate) :
    Validation × List Diagnostic × Lineage g :=
  let (onController, l) := l.isDerived c.owner controllerBase
  let argument := resolveArgument g c.owner c.marker.argument
  -- both checks are made, also if the first one has failed
  let (lacking, l) := lacksCapability l argument
  let misplaced :=
    if onController then [] else [DiagnosticKind.notOnController.report c.owner c.location c.owner.text]
  let unfit :=
    match argument with
    | some type =>
      if lacking then [DiagnosticKind.argNotSerializable.report c.owner c.location type.text] else []
    | none => []
  ({ onController, argument, fatal := !onController || lacking }, misplaced ++ unfit, l)

/-- Checks candidates one after the other. -/
def checkAll {g : TypeGraph} (l : Lineage g) :
    List Candidate → List Validation × List Diagnostic × Lineage g
  | [] => ([], [], l)
  | c :: rest =>
    let (v, ds, l) := check l c
    let (vs, more, l) := checkAll l rest
    (v :: vs, ds ++ more, l)

end Validation

end ScreenSynthesis
