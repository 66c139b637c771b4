import ScreenSynthesis.Json.Document
import ScreenSynthesis.Text.Quoted

/-!
# Decoding errors

Why a document is not a value of the wanted type, and how that is worded. `DecodeError.malformed`
has no wording of its own: there the text itself makes no sense.
-/

namespace ScreenSynthesis

/-- What was found in the place of something else. -/
inductive Found where
  | null
  | boolean (b : Bool)
  | integer (n : Int)
  | real (x : Float)
  | text (s : String)
  | sequence
  | map
deriving Repr

/-- The name of what was found. -/
def Found.wording : Found → String
  | .null => "null"
  | .boolean b => "boolean `" ++ (if b then "true" else "false") ++ "`"
  | .integer n => "integer `" ++ toString n ++ "`"
  | .real x => "floating point `" ++ Json.realText x ++ "`"
  | .text s => "string " ++ Text.quote s
  | .sequence => "sequence"
  | .map => "map"

/-- Why a document could not be decoded. -/
inductive DecodeError where
  | wrongType (found : Found) (expected : String)
  | wrongValue (found : Found) (expected : String)
  | wrongLength (length : Nat) (expected : String)
  | missingField (name : String)
  | duplicateField (name : String)
  | unknownField (name : String) (expected : List String)
  | unknownVariant (name : String) (expected : List String)
  /-- The document has the wanted type but not the wanted meaning. -/
  | refused (reason : String)
  /-- The text makes no sense. -/
  | malformed
deriving Repr

namespace DecodeError

/-- A choice of names: two are joined by "or", more are listed. -/
def oneOf (names : List String) : String :=
  let quoted := names.map fun name => "`" ++ name ++ "`"
  match quoted with
  | [a] => a
  | [a, b] => a ++ " or " ++ b
  | _ => "one of " ++ ", ".intercalate quoted

/-- The wording of an error. -/
def message : DecodeError → String
  | .wrongType found expected => "invalid type: " ++ found.wording ++ ", expected " ++ expected
  | .wrongValue found expected => "invalid value: " ++ found.wording ++ ", expected " ++ expected
  | .wrongLength length expected =>
    "invalid length " ++ toString length ++ ", expected " ++ expected
  | .missingField name => "missing field `" ++ name ++ "`"
  | .duplicateField name => "duplicate field `" ++ name ++ "`"
  | .unknownField name expected => "unknown field `" ++ name ++ "`, expected " ++ oneOf expected
  | .unknownVariant name expected =>
    "unknown variant `" ++ name ++ "`, expected " ++ oneOf expected
  | .refused reason => reason
  | .malformed => "malformed text"

/-- A number of elements. -/
def elements (n : Nat) : String := toString n ++ if n = 1 then " element" else " elements"

end DecodeError

namespace Json.Document

/-- What the document is, if it makes sense at all. -/
def found? : Document → Option Found
  | .null => some .null
  | .bool b => some (.boolean b)
  | .number (.whole n) => some (.integer n)
  | .number (.real x) => some (.real x)
  | .string s => some (.text s)
  | .plain s => some (.text s)
  | .array _ _ => some .sequence
  | .object _ _ => some .map
  | .fault => none
  | .refused (.array _ _) => some .sequence
  | .refused (.object _ _) => some .map
  | .refused _ => none

/-- The error for a document in the place of something else. -/
def mismatch (d : Document) (expected : String) : DecodeError :=
  match d.found? with
  | some found => .wrongType found expected
  | none => .malformed

end Json.Document

end ScreenSynthesis
