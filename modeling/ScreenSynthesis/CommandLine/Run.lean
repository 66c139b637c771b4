import ScreenSynthesis.CommandLine.Arguments
import ScreenSynthesis.CommandLine.Files
import ScreenSynthesis.CommandLine.Report
import ScreenSynthesis.CommandLine.Settings

/-!
# Runs

A run loads its settings, then takes one unit file after the other through the phases that its
command needs, and prints all reports at the end. The first file that cannot be loaded or rendered
stops the run with nothing printed. Fatal diagnostics do not stop a run; they make it fail.
-/

namespace ScreenSynthesis.CommandLine

/-- Why a run was stopped. -/
inductive RunError where
  | missingConfig (path : String)
  | invalidConfiguration
  | noUnits
  | unreadable (path : String) (fault : ReadFault)
  | unsupported (path : String)
  | invalidYaml (path : String)
  | invalidJson (path : String)
  | invalidUnit (path : String) (error : SynthesisError)
  | synthesis (error : SynthesisError)
deriving DecidableEq, Repr

/-- The wording of an error. -/
def RunError.message : RunError → String
  | .missingConfig path => "config file does not exist: " ++ path
  | .invalidConfiguration => "invalid configuration"
  | .noUnits => "no unit files given"
  | .unreadable path fault => "failed to read " ++ path ++ ": " ++ fault.message
  | .unsupported path =>
    "unsupported unit file " ++ path ++ " (expected .yaml, .yml or .json)"
  | .invalidYaml path => "invalid YAML in " ++ path
  | .invalidJson path => "invalid JSON in " ++ path
  | .invalidUnit path error => "invalid unit " ++ path ++ ": " ++ error.message
  | .synthesis error => error.message

/-- The name and version of the program. -/
def versionText : String := "screenc 0.2.8\n"

/-- How the program is called. -/
def usageText : String :=
  "Usage: screenc [OPTIONS] [UNIT]... | screenc <generate|check|annotate> [OPTIONS] [UNIT]...\n"

/-- The settings of a run: the option for the namespace is above all layers. -/
def loadSettings (files : Files) (environment : List (String × String)) (a : Arguments) :
    Except RunError Settings := do
  let file ← match a.config with
    | some path =>
      let entry := files path
      -- A directory is not told apart from nothing at all.
      if ¬ entry.isFile then throw (.missingConfig path)
      match entry.content with
      | .ok content => pure (some content)
      | .error _ => throw .invalidConfiguration
    | none => pure none
  match Settings.load? file environment with
  | none => throw .invalidConfiguration
  | some settings =>
    match a.appNamespace with
    | some ns => return { settings with screen := { settings.screen with appNamespace := some ns } }
    | none => return settings

/-- The contents of a unit file, in the format that its extension names. -/
def decodeUnit (path content : String) : Except RunError UnitSource :=
  match extension? path with
  | some "yaml" | some "yml" =>
    (Decoder.ofYaml UnitSource.decode content).mapError fun _ => .invalidYaml path
  | some "json" => (Decoder.ofText UnitSource.decode content).mapError fun _ => .invalidJson path
  | _ => .error (.unsupported path)

/-- The unit of a file. Without a name of its own it has the file's. -/
def loadUnit (files : Files) (path : String) : Except RunError CompilationUnit := do
  let content ← (files path).content.mapError fun fault => .unreadable path fault
  let source ← decodeUnit path content
  let source := if source.name = "" then { source with name := fileStem path } else source
  (CompilationUnit.ofSource source).mapError fun name =>
    .invalidUnit path (.duplicateDeclaration name)

/-- A session that has come through the phases of a command. -/
def Command.advance (command : Command) (s : Session) : Except SynthesisError Session := do
  match command with
  | .generate => return (← s.runAll).2
  | .check =>
    let (_, s) ← s.scan
    return (← s.validate).2
  | .annotate => return (← s.scan).2

/-- The report on a unit file. -/
def reportFile (files : Files) (screen : ScreenConfig) (a : Arguments) (path : String) :
    Except RunError UnitReport := do
  let unit ← loadUnit files path
  let report : Except SynthesisError UnitReport := do
    let s ← a.command.advance (Session.new unit screen)
    UnitReport.ofSession path s (a.command = .annotate) a.emitSource
  report.mapError .synthesis

/-- Whether output is coloured: only when that is forced. -/
def isColoured (environment : List (String × String)) : Bool :=
  match environment.lookup "CLICOLOR_FORCE" with
  | some value => value ≠ "0"
  | none => false

/-- How the program ends. -/
inductive Outcome where
  /-- The arguments were rejected. -/
  | rejected
  /-- The run was stopped. -/
  | stopped (error : RunError)
  /-- The run came to its end; it failed if some diagnostic is fatal. -/
  | finished (output : String) (failed : Bool)
deriving Repr

/-- The program's exit status. -/
def Outcome.exitCode : Outcome → UInt8
  | .rejected => 2
  | .stopped _ => 1
  | .finished _ failed => if failed then 1 else 0

/-- What the program prints as its result. Errors are told elsewhere. -/
def Outcome.printed : Outcome → String
  | .finished output _ => output
  | .rejected | .stopped _ => ""

/-- The reports on all unit files of a run, in their order. -/
def reports (files : Files) (environment : List (String × String)) (a : Arguments) :
    Except RunError (List UnitReport) := do
  let settings ← loadSettings files environment a
  if a.units.isEmpty then throw .noUnits
  a.units.mapM (reportFile files settings.screen a)

/-- Runs the program. -/
def run (files : Files) (environment : List (String × String)) (words : List String) : Outcome :=
  match Request.ofWords? words with
  | none => .rejected
  | some .version => .finished versionText false
  | some .help => .finished usageText false
  | some (.run a) =>
    match reports files environment a with
    | .error error => .stopped error
    | .ok rs =>
      let output := if a.json then printJson rs else printHuman (isColoured environment) rs
      .finished output (rs.any (·.fatal))

end ScreenSynthesis.CommandLine
