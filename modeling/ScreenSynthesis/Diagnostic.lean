import ScreenSynthesis.Declaration

/-!
# Diagnostics

What is reported to the user about a declaration. The catalog lists every kind of diagnostic with
its severity and wording; a log collects the diagnostics of one session in the order in which they
were reported.
-/

namespace ScreenSynthesis

/-- How serious a diagnostic is. -/
inductive Severity where
  | error
  | warning
deriving DecidableEq, Repr, Inhabited

/-- The word for a severity. -/
def Severity.text : Severity → String
  | .error => "error"
  | .warning => "warning"

/-- A kind of diagnostic. -/
structure DiagnosticKind where
  code : String
  severity : Severity
  message : String
deriving DecidableEq, Repr, Inhabited

/-- A diagnostic about `owner`; `subject` is the type that is at fault. -/
structure Diagnostic where
  kind : DiagnosticKind
  owner : QualifiedName
  subject : String
  location : SourceLocation
deriving DecidableEq, Repr, Inhabited

namespace DiagnosticKind

/-- Errors are fatal: nothing is synthesized for their owner. -/
def isFatal (k : DiagnosticKind) : Bool := k.severity = .error

/-- The owner of a marker is no controller. -/
def notOnController : DiagnosticKind where
  code := "NOT_ON_CONTROLLER"
  severity := .error
  message := "@Screen can only be applied to classes deriving from androidx.fragment.app.Fragment"

/-- The type of an argument cannot be transported. -/
def argNotSerializable : DiagnosticKind where
  code := "ARG_NOT_SERIALIZABLE"
  severity := .error
  message := "@Screen argument type must implement android.os.Parcelable"

/-- The layout of a screen could not be determined. No phase reports it. -/
def missingLayout : DiagnosticKind where
  code := "MISSING_LAYOUT"
  severity := .warning
  message := "Could not determine the layout for view binding generation"

/-- Every kind of diagnostic. -/
def catalog : List DiagnosticKind := [notOnController, argNotSerializable, missingLayout]

/-- The kind with a code. -/
def lookup? (code : String) : Option DiagnosticKind := catalog.find? (·.code = code)

/-- A diagnostic of this kind. -/
def report (k : DiagnosticKind) (owner : QualifiedName) (location : SourceLocation)
    (subject : String) : Diagnostic :=
  { kind := k, owner, subject, location }

end DiagnosticKind

namespace Diagnostic

/-- Whether the diagnostic is an error. -/
def isFatal (d : Diagnostic) : Bool := d.kind.isFatal

/-- The diagnostic on one line: `file:line:column: severity[code]: message [subject]`. -/
def text (d : Diagnostic) : String :=
  d.location.text ++ ": " ++ d.kind.severity.text ++ "[" ++ d.kind.code ++ "]: " ++
    d.kind.message ++ " [" ++ d.subject ++ "]"

end Diagnostic

/-- The diagnostics of a session, in the order of their reports. -/
structure DiagnosticLog where
  entries : List Diagnostic := []
deriving DecidableEq, Repr, Inhabited

namespace DiagnosticLog

/-- Adds diagnostics at the end. -/
def append (log : DiagnosticLog) (ds : List Diagnostic) : DiagnosticLog := ⟨log.entries ++ ds⟩

/-- Whether some diagnostic is fatal. -/
def hasFatal (log : DiagnosticLog) : Bool := log.entries.any Diagnostic.isFatal

/-- The diagnostics about one owner. -/
def forOwner (log : DiagnosticLog) (owner : QualifiedName) : List Diagnostic :=
  log.entries.filter (·.owner = owner)

/-- How many diagnostics there are. -/
def size (log : DiagnosticLog) : Nat := log.entries.length

end DiagnosticLog

end ScreenSynthesis
