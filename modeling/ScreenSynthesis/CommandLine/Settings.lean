import ScreenSynthesis.Codec.Values
import ScreenSynthesis.CommandLine.EnvironmentValue

/-!
# Settings

The settings of a run come in layers: defaults, a configuration file, and environment variables.
Each layer replaces single values of the layers below it. A value that does not fit its setting
makes the settings invalid, as does an unknown setting for the synthesis itself.
-/

namespace ScreenSynthesis.CommandLine

open Json (Document)

/-- How the program reports on its own work. -/
structure Logging where
  level : String := "warn"
  json : Bool := false
deriving DecidableEq, Repr, Inhabited

/-- The settings of a run. -/
structure Settings where
  screen : ScreenConfig := {}
  logging : Logging := {}
deriving DecidableEq, Repr, Inhabited

namespace Logging

/-- The value of the logging settings. -/
def toJson (l : Logging) : Json := .object [("level", .string l.level), ("json", .bool l.json)]

/-- The logging settings; every field has a default. -/
def decode : Decoder Logging := fun origin d => do
  let fields ← Fields.ofDocument origin "Logging" ["level", "json"] d
  let level := fields.field origin "level" .string
  let json := fields.field origin "json" .bool
  fields.settle [level.outcome, json.outcome]
  return { level := level.getD "warn", json := json.getD false }

end Logging

namespace Settings

/-- The layer of some settings. -/
def toJson (s : Settings) : Json :=
  .object [("screen", s.screen.toJson), ("logging", s.logging.toJson)]

/-! ## Layers -/

/-- Object members with a value put under a key. -/
def replaceMember (key : String) (value : Json) (members : List (String × Json)) :
    List (String × Json) :=
  Document.insertMember key value members

mutual

/-- A layer on top of another one. Objects are laid over each other member by member; all else is
replaced. -/
def overlay (base : Json) : Json → Json
  | .object members =>
    match base with
    | .object below => .object (overlayMembers below members)
    | _ => .object members
  | layer => layer

def overlayMembers (below : List (String × Json)) :
    List (String × Json) → List (String × Json)
  | [] => below
  | (key, v) :: rest =>
    let v := match below.lookup key with
      | some old => overlay old v
      | none => v
    overlayMembers (replaceMember key v below) rest

end

mutual

/-- A configuration file's document as a layer. -/
def ofDocument : Document → Json
  | .null => .null
  | .bool b => .bool b
  | .number n => .number n
  | .string s => .string s
  | .plain s => ((Yaml.resolveCore s).toJson?).getD .null
  | .array items _ => .array (ofItems items)
  | .object members _ => .object (ofMembers [] members)
  | .fault => .null
  | .refused d => ofDocument d

def ofItems : List Document → List Json
  | [] => []
  | d :: ds => ofDocument d :: ofItems ds

def ofMembers (acc : List (String × Json)) : List (String × Document) → List (String × Json)
  | [] => acc
  | (key, d) :: ms => ofMembers (replaceMember key (ofDocument d) acc) ms

end

/-- The layer of a configuration file. An empty file sets nothing; any other must hold an object. -/
def fileLayer? (content : String) : Option Json :=
  match Yaml.read content with
  | some (.plain "") => some (.object [])
  | some (.object members _) => some (.object (ofMembers [] members))
  | _ => none

/-! ## Environment -/

/-- What the names of the program's variables start with. -/
def variableStart : String := "screenkit_"

/-- The parts of a setting's path: two underscores separate them, and so does a dot. -/
def pathOf (cs : List Char) : List (List Char) := Text.pieces '.' (dotted cs)
where
  dotted : List Char → List Char
    | '_' :: '_' :: cs => '.' :: dotted cs
    | c :: cs => c :: dotted cs
    | [] => []

/-- A value below a path. The path ends at an empty part. -/
def nest : List (List Char) → Json → Json
  | [], v => v
  | [] :: _, v => v
  | key :: path, v => .object [(String.ofList key, nest path v)]

/-- The layer of a variable, if it is one of the program's. -/
def variableLayer? (name value : String) : Option Json :=
  let cs := Text.lowerCase name.toList
  let start := variableStart.toList
  if start.isPrefixOf cs ∧ start.length < cs.length then
    some (nest (pathOf (cs.drop start.length)) (EnvironmentValue.read value))
  else none

/-! ## Reading -/

/-- The settings for the synthesis. An array may be longer than it needs to be. -/
def screen? : Json → Option ScreenConfig
  | .array items => ((ScreenConfig.decode .value (.ofJson (.array (items.take 2)))).toOption)
  | v => (Decoder.ofJson ScreenConfig.decode v).toOption

/-- The settings for logging. An array may be longer than it needs to be. -/
def logging? : Json → Option Logging
  | .array items => ((Logging.decode .value (.ofJson (.array (items.take 2)))).toOption)
  | v => (Decoder.ofJson Logging.decode v).toOption

/-- The settings of a layer. -/
def ofLayer? (layer : Json) : Option Settings := do
  return { screen := ← screen? (← layer.member? "screen")
           logging := ← logging? (← layer.member? "logging") }

/-- The layer of the program's variables, in the order of their names. -/
def environmentLayer (environment : List (String × String)) : Json :=
  let sorted := environment.mergeSort fun a b => a.1 ≤ b.1
  (sorted.filterMap fun (name, value) => variableLayer? name value).foldl overlay (.object [])

/-- The settings from a configuration file, if there is one, and from the environment. -/
def load? (file : Option String) (environment : List (String × String)) : Option Settings := do
  -- the defaults are the lowest layer, so that no setting is lacking at the end
  let base := (({} : Settings)).toJson
  let base ← match file with
    | some content => (fileLayer? content).map (overlay base)
    | none => some base
  ofLayer? (overlay base (environmentLayer environment))

end Settings

end ScreenSynthesis.CommandLine
