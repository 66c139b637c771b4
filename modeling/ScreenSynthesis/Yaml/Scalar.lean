import ScreenSynthesis.Json.Document
import ScreenSynthesis.Json.Numeral
import ScreenSynthesis.Text.Digits

/-!
# Plain scalars

A scalar without quotes has no type of its own. Units and configuration read it by two schemas:
`resolve` is the generous one of units, which knows many spellings of a truth value, and
`resolveCore` the strict one of configuration.
-/

namespace ScreenSynthesis.Yaml

open Json (Document Number digitsValue)
open Text (inBase? lowerCase splitSign)

/-- Whether a scalar stands for the absence of a value. -/
def isNull (s : String) : Bool := s = "" || s = "~" || lowerCase s.toList = ['n', 'u', 'l', 'l']

/-- A whole number without a sign: hexadecimal behind `0x`, octal behind `0o`, binary behind `0b`,
decimal otherwise. -/
def magnitude? : List Char → Option Nat
  | '0' :: 'x' :: cs => inBase? 16 cs
  | '0' :: 'o' :: cs => inBase? 8 cs
  | '0' :: 'b' :: cs => inBase? 2 cs
  | cs => inBase? 10 cs

/-- A whole number whose digits may be set apart by underscores. -/
def integer? (s : String) : Option Int :=
  let (negative, cs) := splitSign s.toList
  (magnitude? (cs.filter (· ≠ '_'))).map fun n => if negative then -n else n

/-- A number with a fraction or an exponent, whose whole or fractional digits may be missing, but
not both. -/
def decimal? (s : String) : Option Float :=
  let (negative, cs) := splitSign s.toList
  let whole := cs.takeWhile Char.isDigit
  let cs := cs.dropWhile Char.isDigit
  let (fraction, cs) := match cs with
    | '.' :: cs => (cs.takeWhile Char.isDigit, cs.dropWhile Char.isDigit)
    | cs => ([], cs)
  if whole.isEmpty ∧ fraction.isEmpty then none
  else
    let value (exponent : Int) : Float :=
      let n := digitsValue (whole ++ fraction)
      let exponent := exponent - fraction.length
      let x := Float.ofScientific n (exponent < 0) exponent.natAbs
      if negative then -x else x
    match cs with
    | [] => some (value 0)
    | c :: cs =>
      if c = 'e' ∨ c = 'E' then
        let (negativeExponent, cs) := splitSign cs
        (inBase? 10 cs).map fun e => value (if negativeExponent then -e else e)
      else none

/-- The spellings of truth and falsehood in units. -/
def truth? (s : String) : Option Bool :=
  let s := String.ofList (lowerCase s.toList)
  if s ∈ ["true", "yes", "y", "on"] then some true
  else if s ∈ ["false", "no", "n", "off"] then some false
  else none

/-- A number that no digits write: an infinite one, or none at all. -/
def special? (s : String) : Option Float :=
  let (negative, cs) := splitSign (lowerCase s.toList)
  if cs = ['.', 'i', 'n', 'f'] then some (if negative then -1.0 / 0.0 else 1.0 / 0.0)
  else if cs = ['.', 'n', 'a', 'n'] then some (0.0 / 0.0)
  else none

/-- A number that is not whole. -/
def real? (s : String) : Option Float := (special? s).or (decimal? s)

/-- What a plain scalar of a unit stands for where any type may stand. -/
def resolve (s : String) : Document :=
  if isNull s then .null
  else match truth? s with
    | some b => .bool b
    | none =>
      match (integer? s).filter Json.fitsWord with
      | some n => .number (.whole n)
      | none =>
        match real? s with
        | some x => .number (.real x)
        | none => .string s

/-- A whole number of the strict schema: no underscores, and no superfluous zero in front. -/
def coreInteger? (s : String) : Option Int :=
  let (negative, cs) := splitSign s.toList
  match cs with
  | '0' :: c :: _ => if c.isDigit then none else value negative cs
  | _ => value negative cs
where
  value (negative : Bool) (cs : List Char) : Option Int :=
    (magnitude? cs).map fun n => if negative then -n else n

/-- What a plain scalar of a configuration stands for. -/
def resolveCore (s : String) : Document :=
  if s ∈ ["", "~", "null", "Null", "NULL"] then .null
  else if s ∈ ["true", "True", "TRUE"] then .bool true
  else if s ∈ ["false", "False", "FALSE"] then .bool false
  else match coreInteger? s with
    | some n => .number (.whole n)
    | none =>
      match s.toList with
      | '0' :: c :: _ => if c.isDigit then .string s else number s
      | _ => number s
where
  number (s : String) : Document :=
    match real? s with
    | some x => .number (.real x)
    | none => .string s

/-- Units take many words for a truth value, configuration only one in three cases. -/
example : truth? "Yes" = some true ∧ truth? "off" = some false ∧ truth? "maybe" = none ∧
    integer? "-1_000" = some (-1000) ∧ integer? "0x1F" = some 31 ∧ integer? "1.0" = none ∧
    coreInteger? "007" = none ∧ isNull "~" ∧ ¬ isNull "nil" := by decide +kernel

end ScreenSynthesis.Yaml
