import ScreenSynthesis.Codec.Results
import ScreenSynthesis.Json.Printer
import ScreenSynthesis.Rendering.Source

/-!
# Reports

What a run has to say about each unit. Reports are printed for people, with colours if they are
wanted, or as one value of the interchange format.
-/

namespace ScreenSynthesis.CommandLine

/-- The outcome for one unit file. -/
structure UnitReport where
  path : String
  unit : String
  candidates : Nat
  diagnostics : List Diagnostic
  symbols : List Symbol
  annotations : List LineAnnotation := []
  /-- The source of the synthesized members, if it was asked for. -/
  rendered : Option String := none
  /-- Some diagnostic is fatal. -/
  fatal : Bool
deriving Repr

namespace UnitReport

/-- The report on a session. -/
def ofSession (path : String) (s : Session) (annotate emitSource : Bool) :
    Except SynthesisError UnitReport := do
  let annotations ← if annotate then s.annotations else pure []
  let rendered ← if emitSource then some <$> s.render else pure none
  return {
    path
    unit := s.unit.name
    candidates := s.candidates.size
    diagnostics := s.diagnostics.entries
    symbols := s.symbols.symbols
    annotations
    rendered
    fatal := s.hasFatal }

/-- The value of a report. Annotations and source are left out if there are none. -/
def toJson (r : UnitReport) : Json :=
  let annotations : List (String × Json) :=
    if r.annotations.isEmpty then []
    else [("annotations", .array (r.annotations.map LineAnnotation.toJson))]
  let rendered : List (String × Json) :=
    r.rendered.toList.map fun source => ("rendered", .string source)
  .object ([("path", .string r.path), ("unit", .string r.unit), ("candidates", .nat r.candidates),
    ("diagnostics", .array (r.diagnostics.map Diagnostic.toJson)),
    ("symbols", .array (r.symbols.map Symbol.toJson))] ++ annotations ++ rendered ++
    [("fatal", .bool r.fatal)])

end UnitReport

/-- How many reports are fatal. -/
def failures (rs : List UnitReport) : Nat := rs.countP (·.fatal)

/-- The value of some reports. -/
def reportsToJson (rs : List UnitReport) : Json :=
  .object [("units", .nat rs.length), ("failed", .nat (failures rs)),
    ("ok", .bool (failures rs = 0)), ("reports", .array (rs.map UnitReport.toJson))]

/-- The reports as a value, over several lines. -/
def printJson (rs : List UnitReport) : String :=
  Json.pretty .any 0 (reportsToJson rs) ++ "\n"

/-! ## Reports for people -/

/-- How a piece of text stands out. -/
inductive Style where
  | bold
  | dimmed
  | cyan
  | red
  | yellow
  | green
  | boldRed
  | boldGreen
deriving DecidableEq, Repr

/-- The number that a terminal knows a style by. -/
def Style.code : Style → String
  | .bold => "1"
  | .dimmed => "2"
  | .cyan => "36"
  | .red => "31"
  | .yellow => "33"
  | .green => "32"
  | .boldRed => "1;31"
  | .boldGreen => "1;32"

/-- The sequence that ends a style. -/
def resetSequence : List Char := ['\x1b', '[', '0', 'm']

/-- The sequence that starts a style. -/
def Style.sequence (style : Style) : List Char := ['\x1b', '['] ++ style.code.toList ++ ['m']

/-- A text in which a style goes on behind every place where it would end. -/
def restyle (style : Style) : List Char → List Char
  | [] => []
  | '\x1b' :: '[' :: '0' :: 'm' :: cs => resetSequence ++ style.sequence ++ restyle style cs
  | c :: cs => c :: restyle style cs

/-- A text in a style, if the output is coloured. -/
def paint (coloured : Bool) (style : Style) (s : String) : String :=
  if coloured then String.ofList (style.sequence ++ restyle style s.toList ++ resetSequence) else s

/-- The word for a kind of symbols. -/
def kindLabel : SymbolKind → String
  | .container => "container"
  | .constant => "constant"
  | .accessorProperty => "accessor"
  | .factoryFunction => "factory"
  | .conditionalAccessorProperty => "binding"

/-- A symbol on one line. -/
def symbolLine (coloured : Bool) (s : Symbol) : String :=
  let place := match s.signature.scope with
    | .owner => s.signature.ownerName.text ++ "." ++ s.signature.name
    | .container => s.signature.ownerName.text ++ ".<container>." ++ s.signature.name
  let state := if s.isFilled then paint coloured .green "filled" else paint coloured .yellow "stub"
  "+ " ++ place ++ " [" ++ kindLabel s.signature.kind ++ "] " ++ state

/-- A diagnostic on one line. -/
def diagnosticLine (coloured : Bool) (d : Diagnostic) : String :=
  match d.kind.severity with
  | .error => paint coloured .red d.text
  | .warning => paint coloured .yellow d.text

/-- A line annotation on one line. -/
def markLine (coloured : Bool) (a : LineAnnotation) : String :=
  let tooltip := a.tooltip.toList.map fun c => if c = '\n' then ' ' else c
  a.location.text ++ ": " ++ paint coloured .dimmed (String.ofList tooltip)

/-- The line around the heading of a report. -/
def rule : String := String.ofList (List.replicate 80 '=')

/-- A report for people. An empty line ends it. -/
def reportText (coloured : Bool) (r : UnitReport) : String :=
  let heading :=
    [rule, paint coloured .bold "UNIT" ++ " " ++ paint coloured .cyan r.unit ++ " (" ++ r.path ++ ")",
      rule]
  let details :=
    ["Marked declarations: " ++ toString r.candidates] ++
      r.diagnostics.map (diagnosticLine coloured) ++ r.symbols.map (symbolLine coloured) ++
      r.annotations.map (markLine coloured)
  let lines := heading ++ details.map ("  " ++ ·)
  -- The source brings its own line breaks.
  let rendered := match r.rendered with
    | some source => "\n" ++ source
    | none => ""
  String.join (lines.map (· ++ "\n")) ++ rendered ++ "\n"

/-- What the last line says about the whole run. -/
def verdict (coloured : Bool) (rs : List UnitReport) : String :=
  if failures rs = 0 then
    paint coloured .boldGreen "OK" ++ " " ++ toString rs.length ++ " unit(s) processed"
  else
    paint coloured .boldRed "FAILED" ++ " " ++ toString (failures rs) ++ " of " ++
      toString rs.length ++ " unit(s) have errors"

/-- The reports for people. -/
def printHuman (coloured : Bool) (rs : List UnitReport) : String :=
  String.join (rs.map (reportText coloured)) ++ verdict coloured rs ++ "\n"

end ScreenSynthesis.CommandLine
