import ScreenSynthesis.Json.Document
import ScreenSynthesis.Json.Numeral
import ScreenSynthesis.Text.WhiteSpace
import ScreenSynthesis.Yaml.Scalar

/-!
# Values of environment variables

The text of a variable is a value in a small notation: truth values, numbers, quoted texts, lists in
brackets and dictionaries in braces. A text that does not follow the notation stands for itself.
-/

namespace ScreenSynthesis.CommandLine.EnvironmentValue

/-- What is read off the front of a text, and the rest. -/
abbrev Parser (α : Type) := List Char → Option (α × List Char)

/-- Skips white space. -/
def skip (cs : List Char) : List Char := cs.dropWhile Text.isWhiteSpace

/-- Whether a character is part of a word. -/
def isWordChar (c : Char) : Bool := c ∉ [',', '[', ']', '\x7b', '\x7d']

/-- A quoted text behind its opening quote, its characters the last one first in `acc`. -/
def quoted (acc : List Char) : Parser String
  | '"' :: cs => some (String.ofList acc.reverse, cs)
  | '\\' :: 'u' :: a :: b :: c :: d :: cs => do quoted ((← Text.codePoint? [a, b, c, d]) :: acc) cs
  | '\\' :: 'U' :: a :: b :: c :: d :: e :: f :: g :: h :: cs => do
    quoted ((← Text.codePoint? [a, b, c, d, e, f, g, h]) :: acc) cs
  | '\\' :: c :: cs => do quoted ((← escapes.lookup c) :: acc) cs
  | c :: cs => if c = '\\' then none else quoted (c :: acc) cs
  | [] => none
where
  escapes : List (Char × Char) :=
    [('"', '"'), ('\\', '\\'), ('b', '\x08'), ('f', '\x0c'), ('n', '\n'), ('r', '\r'), ('t', '\t')]

/-- A whole number, which may have a sign and fits 64 bits. -/
def integer? (s : String) : Option Int := do
  let (negative, cs) := Text.splitSign s.toList
  let n ← Text.inBase? 10 cs
  let n : Int := if negative then -n else n
  if Json.fitsWord n then some n else none

/-- What a word stands for. Only with a point in it can it be a real number. -/
def ofWord (s : String) : Json :=
  if s = "true" then .bool true
  else if s = "false" then .bool false
  else
    match if s.toList.contains '.' then Yaml.decimal? s else none with
    | some x => .number (.real x)
    | none =>
      match integer? s with
      | some n => .number (.whole n)
      | none => .string s

/-- A key of a dictionary. -/
def key : Parser String
  | '"' :: cs => quoted [] cs
  | cs =>
    let word := cs.takeWhile fun c => isWordChar c && c ≠ '='
    if word.isEmpty then none
    else some (Text.trim (String.ofList word), cs.dropWhile fun c => isWordChar c && c ≠ '=')

mutual

/-- A value, with the white space around it. -/
def value : Nat → Parser Json
  | 0, _ => none
  | fuel + 1, cs => do
    let (v, cs) ← match skip cs with
      | '"' :: cs => (quoted [] cs).map fun (s, cs) => (Json.string s, cs)
      | '[' :: cs => items fuel [] cs
      | '\x7b' :: cs => members fuel [] cs
      | '\'' :: c :: '\'' :: cs => some (.string (String.singleton c), cs)
      | '\'' :: _ => none
      | cs =>
        some (ofWord (Text.trim (String.ofList (cs.takeWhile isWordChar))), cs.dropWhile isWordChar)
    return (v, skip cs)

/-- The items of a list behind its opening bracket or a comma. -/
def items : Nat → List Json → Parser Json
  | 0, _, _ => none
  | _ + 1, acc, ']' :: cs => some (.array acc.reverse, cs)
  | fuel + 1, acc, cs => do
    let (v, cs) ← value fuel cs
    match cs with
    | ',' :: cs => items fuel (v :: acc) cs
    | ']' :: cs => return (.array (v :: acc).reverse, cs)
    | _ => none

/-- The entries of a dictionary behind its opening brace or a comma. -/
def members : Nat → List (String × Json) → Parser Json
  | 0, _, _ => none
  | _ + 1, acc, '\x7d' :: cs => some (.object acc, cs)
  | fuel + 1, acc, cs => do
    let (k, cs) ← key (skip cs)
    match skip cs with
    | '=' :: cs =>
      let (v, cs) ← value fuel cs
      let acc := Json.Document.insertMember k v acc
      match cs with
      | ',' :: cs => members fuel acc cs
      | '\x7d' :: cs => return (.object acc, cs)
      | _ => none
    | _ => none

end

/-- What the text of a variable stands for. -/
def read (s : String) : Json :=
  let cs := Text.trimChars s.toList
  -- every two steps use up a character at least, a bracket or a separator
  match value (2 * cs.length + 2) cs with
  | some (v, []) => v
  | _ => .string s

end ScreenSynthesis.CommandLine.EnvironmentValue
