import ScreenSynthesis.Fault
import ScreenSynthesis.Name

/-!
# Errors of the synthesis

What can go wrong in the synthesis itself, as opposed to diagnostics about the user's code. The
phases of a session are strictly ordered; most errors say that something was asked for too early.
-/

namespace ScreenSynthesis

/-- How far a session has come. -/
inductive Phase where
  | created
  | scanned
  | validated
  | signaturesSynthesized
  | bodiesSynthesized
deriving DecidableEq, Repr, Inhabited

namespace Phase

/-- The place of a phase in the order of phases. -/
def rank : Phase → Nat
  | .created => 0
  | .scanned => 1
  | .validated => 2
  | .signaturesSynthesized => 3
  | .bodiesSynthesized => 4

/-- The name of a phase in a message. -/
def text : Phase → String
  | .created => "created"
  | .scanned => "scanned"
  | .validated => "validated"
  | .signaturesSynthesized => "signatures synthesized"
  | .bodiesSynthesized => "bodies synthesized"

/-- The name of a phase in a summary. -/
def identifier : Phase → String
  | .created => "Created"
  | .scanned => "Scanned"
  | .validated => "Validated"
  | .signaturesSynthesized => "SignaturesSynthesized"
  | .bodiesSynthesized => "BodiesSynthesized"

end Phase

/-- What can be asked of a session. -/
inductive Operation where
  | scan
  | validate
  | synthesizeSignatures
  | synthesizeBodies
  | execute
  | render
  | annotations
deriving DecidableEq, Repr

/-- The name of an operation in a message. -/
def Operation.text : Operation → String
  | .scan => "scan"
  | .validate => "validate"
  | .synthesizeSignatures => "synthesize_signatures"
  | .synthesizeBodies => "synthesize_bodies"
  | .execute => "execute"
  | .render => "render"
  | .annotations => "annotations"

/-- An error of the synthesis. -/
inductive SynthesisError where
  | duplicateDeclaration (name : QualifiedName)
  | phaseOrder (operation : Operation) (expected actual : Phase)
  | invalidIdentifier (name : String)
  | renderCollision (name : String) (first second : QualifiedName)
  | unknownOwner (owner : QualifiedName)
  | memberNotSynthesized (owner : QualifiedName) (member : String)
  | bodyNotFilled (owner : QualifiedName) (member : String)
  | unexpectedArgument (owner : QualifiedName)
  | argumentRequired (owner : QualifiedName)
  | argumentType (owner expected : QualifiedName) (found : String)
  /-- A fault of the member that was executed. -/
  | fault (cause : MemberFault)
deriving DecidableEq, Repr

/-- The wording of an error. -/
def SynthesisError.message : SynthesisError → String
  | .duplicateDeclaration name =>
    "duplicate declaration '" ++ name.text ++ "' in compilation unit"
  | .phaseOrder operation expected actual =>
    "cannot run " ++ operation.text ++ " in phase '" ++ actual.text ++ "', expected '" ++
      expected.text ++ "'"
  | .invalidIdentifier name => "'" ++ name ++ "' is not a valid Rust identifier"
  | .renderCollision name first second =>
    "'" ++ first.text ++ "' and '" ++ second.text ++ "' would both render as 'impl " ++ name ++ "'"
  | .unknownOwner owner =>
    "'" ++ owner.text ++ "' is not a matched declaration of this session"
  | .memberNotSynthesized owner member =>
    "'" ++ owner.text ++ "' has no synthesized member '" ++ member ++ "'"
  | .bodyNotFilled owner member =>
    "body of '" ++ owner.text ++ "." ++ member ++ "' has not been filled"
  | .unexpectedArgument owner => "createScreen of '" ++ owner.text ++ "' takes no argument"
  | .argumentRequired owner => "createScreen of '" ++ owner.text ++ "' requires an argument"
  | .argumentType owner expected found =>
    "createScreen of '" ++ owner.text ++ "' expects '" ++ expected.text ++ "', got '" ++ found ++
      "'"
  | .fault cause => cause.message

end ScreenSynthesis
