/-!
# Arguments

The words behind the program's name: options, an optional command, and unit files. A command is
recognized only as the first word of all; behind an option it is the name of a file. Words that fit
no rule are rejected, without an attempt to say more.
-/

namespace ScreenSynthesis.CommandLine

/-- What is done with the units. -/
inductive Command where
  /-- Every phase is run. -/
  | generate
  /-- Candidates are found and checked. -/
  | check
  /-- Candidates are found and annotated. -/
  | annotate
deriving DecidableEq, Repr, Inhabited

/-- The command with a name. -/
def Command.named? (name : String) : Option Command :=
  [("generate", Command.generate), ("check", .check), ("annotate", .annotate)].lookup name

/-- What the words say. -/
structure Arguments where
  command : Command := .generate
  units : List String := []
  config : Option String := none
  appNamespace : Option String := none
  /-- Reports are printed as values of the interchange format. -/
  json : Bool := false
  verbosity : Nat := 0
  /-- The source of synthesized members is part of the reports. -/
  emitSource : Bool := false
deriving DecidableEq, Repr, Inhabited

/-- What is asked for. -/
inductive Request where
  | version
  | help
  | run (arguments : Arguments)
deriving DecidableEq, Repr

/-- The options that take a value. -/
inductive ValueOption where
  | config
  | appNamespace
  | emit
deriving DecidableEq, Repr

/-- The words read so far. -/
structure Reading where
  arguments : Arguments := {}
  /-- A command has been named. -/
  commanded : Bool := false
  /-- An option or a file came before. -/
  started : Bool := false
deriving DecidableEq, Repr

namespace Reading

/-- Whether commands are still recognized. -/
def awaitsCommand (r : Reading) : Bool := !r.commanded && !r.started

/-- Whether source can be asked for: commands other than `generate` have none. -/
def mayEmit (r : Reading) : Bool := r.arguments.command = .generate

/-- Sets an option, which must not have been set before. Paths may not be empty, and `rust` is the
only source there is. -/
def set? (r : Reading) (option : ValueOption) (value : String) : Option Reading :=
  let a := r.arguments
  match option with
  | .config =>
    if a.config.isSome || value = "" then none
    else some { r with arguments := { a with config := some value }, started := true }
  | .appNamespace =>
    if a.appNamespace.isSome then none
    else some { r with arguments := { a with appNamespace := some value }, started := true }
  | .emit =>
    if a.emitSource || value ≠ "rust" then none
    else some { r with arguments := { a with emitSource := true }, started := true }

/-- Adds a unit file. -/
def addUnit? (r : Reading) (path : String) : Option Reading :=
  let a := r.arguments
  if path = "" then none
  else some { r with arguments := { a with units := a.units ++ [path] }, started := true }

/-- Raises the verbosity. -/
def raise (r : Reading) : Reading :=
  { r with arguments := { r.arguments with verbosity := r.arguments.verbosity + 1 }, started := true }

end Reading

/-- What a word leads to. -/
inductive Step where
  /-- The next word is read. -/
  | next (r : Reading)
  /-- The next word is the value of an option. -/
  | awaits (r : Reading) (option : ValueOption)
  /-- No further word is read. -/
  | stop (request : Request)

namespace Step

/-- Sets an option to the value that is attached to it, or to the next word. -/
def setting (r : Reading) (option : ValueOption) : Option String → Option Step
  | some value => (r.set? option value).map next
  | none => some (.awaits r option)

/-- An option with a long name. -/
def long (r : Reading) (name : String) (attached : Option String) : Option Step :=
  match name, attached with
  | "config", _ => setting r .config attached
  | "namespace", _ => setting r .appNamespace attached
  | "emit", _ => if r.mayEmit then setting r .emit attached else none
  | "json", none =>
    if r.arguments.json then none
    else some (.next { r with arguments := { r.arguments with json := true }, started := true })
  | "verbose", none => some (.next r.raise)
  | "help", none => some (.stop .help)
  | "version", none => if r.commanded then none else some (.stop .version)
  | _, _ => none

/-- Options of one letter each, one behind the other. -/
def short (r : Reading) : List Char → Option Step
  | [] => some (.next r)
  | 'v' :: letters => short r.raise letters
  -- The value of an option is the rest of its word, if there is one.
  | 'c' :: '=' :: value => setting r .config (some (String.ofList value))
  | 'c' :: [] => setting r .config none
  | 'c' :: value => setting r .config (some (String.ofList value))
  | 'h' :: _ => some (.stop .help)
  | 'V' :: _ => if r.commanded then none else some (.stop .version)
  | _ => none

/-- What is before the first equals sign, and behind it if there is one. -/
def splitValue (cs : List Char) : String × Option String :=
  match cs.dropWhile (· ≠ '=') with
  | _ :: value => (String.ofList (cs.takeWhile (· ≠ '=')), some (String.ofList value))
  | [] => (String.ofList cs, none)

/-- A word that is no value. A dash that stands alone is a file. -/
def ofWord (r : Reading) (word : String) : Option Step :=
  match word.toList with
  | '-' :: '-' :: cs =>
    let (name, attached) := splitValue cs
    long r name attached
  | '-' :: c :: cs => short r (c :: cs)
  | _ =>
    match (if r.awaitsCommand then Command.named? word else none) with
    | some command =>
      some (.next { r with arguments := { r.arguments with command }, commanded := true })
    | none => (r.addUnit? word).map next

end Step

/-- Whether a word can be the value of an option. -/
def isValue (word : String) : Bool := word = "-" || word.toList.head? ≠ some '-'

/-- Help about the program or about a command. -/
def helpAbout : List String → Option Request
  | [] => some .help
  | [word] => if word = "help" || (Command.named? word).isSome then some .help else none
  | _ => none

/-- Reads words up to the end. Behind two dashes every word is a file. -/
def readWords (r : Reading) : List String → Option Request
  | [] => some (.run r.arguments)
  | word :: words =>
    if word = "--" then (words.foldlM Reading.addUnit? r).map fun r => .run r.arguments
    -- Help is a command of its own, which takes the name of another one.
    else if word = "help" && r.awaitsCommand then helpAbout words
    else
      match Step.ofWord r word, words with
      | none, _ => none
      | some (.stop request), _ => some request
      | some (.next r), words => readWords r words
      | some (.awaits _ _), [] => none
      | some (.awaits r option), value :: words =>
        if isValue value then
          match r.set? option value with
          | some r => readWords r words
          | none => none
        else none

/-- What some words ask for, unless they are rejected. -/
def Request.ofWords? (words : List String) : Option Request := readWords {} words

/-- A command behind an option is a file, and source cannot be asked of `check`. -/
example : Request.ofWords? ["check", "-vv", "a.json"] =
      some (.run { command := .check, units := ["a.json"], verbosity := 2 }) ∧
    Request.ofWords? ["--json", "check"] = some (.run { units := ["check"], json := true }) ∧
    Request.ofWords? ["check", "--emit", "rust"] = none ∧
    Request.ofWords? ["--namespace", "-x"] = none ∧
    Request.ofWords? ["--namespace=-x"] = some (.run { appNamespace := some "-x" }) := by
  decide +kernel

end ScreenSynthesis.CommandLine
