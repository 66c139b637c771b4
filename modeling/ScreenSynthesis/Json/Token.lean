import ScreenSynthesis.Json.Numeral
import ScreenSynthesis.Text.Digits

/-!
# Tokens of the interchange format

A text is cut into brackets, separators and scalars. The cut ends with `Token.fault` where the text
is neither blank nor the start of a token.
-/

namespace ScreenSynthesis.Json

/-- A token. -/
inductive Token where
  | openArray
  | closeArray
  | openObject
  | closeObject
  | comma
  | colon
  | null
  | bool (b : Bool)
  | number (n : Number)
  | string (s : String)
  /-- A numeral whose number is out of range. -/
  | hugeNumber
  /-- A string with half of a surrogate pair. -/
  | brokenString
  /-- The text stops making sense here. -/
  | fault
deriving Repr

namespace Token

/-- Whether the character may stand between tokens. -/
def isBlank (c : Char) : Bool := c = ' ' || c = '\n' || c = '\t' || c = '\r'

/-- The character of a short escape. -/
def shortEscape? (c : Char) : Option Char :=
  if c = '"' ∨ c = '\\' ∨ c = '/' then some c
  else if c = 'b' then some '\x08'
  else if c = 'f' then some '\x0c'
  else if c = 'n' then some '\n'
  else if c = 'r' then some '\r'
  else if c = 't' then some '\t'
  else none

/-- Whether a 16-bit unit is the first half of a surrogate pair. -/
def isHighHalf (n : Nat) : Bool := 0xD800 ≤ n && n < 0xDC00

/-- Whether a 16-bit unit is the second half of a surrogate pair. -/
def isLowHalf (n : Nat) : Bool := 0xDC00 ≤ n && n < 0xE000

/-- A character or half a pair: one 16-bit unit of a string. -/
inductive Unit16 where
  | char (c : Char)
  | half (n : Nat)

/-- The rest of a string behind its opening quote, in characters and halves of pairs, and what
follows its closing quote. -/
def stringUnits? : List Char → Option (List Unit16 × List Char)
  | '"' :: rest => some ([], rest)
  | '\\' :: 'u' :: a :: b :: c :: d :: rest => do
    let n ← Text.inBase? 16 [a, b, c, d]
    let unit := if isHighHalf n || isLowHalf n then Unit16.half n else .char (Char.ofNat n)
    let (units, rest) ← stringUnits? rest
    return (unit :: units, rest)
  | '\\' :: c :: rest => do
    let c ← shortEscape? c
    let (units, rest) ← stringUnits? rest
    return (.char c :: units, rest)
  | c :: rest => do
    if c.toNat < 0x20 ∨ c = '\\' then none
    let (units, rest) ← stringUnits? rest
    return (.char c :: units, rest)
  | [] => none

/-- The text of a string, if every half of a pair has its other half behind it. -/
def joinUnits? : List Unit16 → Option (List Char)
  | [] => some []
  | .char c :: units => (joinUnits? units).map (c :: ·)
  -- the two halves of a pair make one character
  | .half high :: .half low :: units =>
    if isHighHalf high && isLowHalf low then
      (joinUnits? units).map
        (Char.ofNat (0x10000 + (high - 0xD800) * 0x400 + (low - 0xDC00)) :: ·)
    else none
  | .half _ :: _ => none

/-- The token at the front of a text that does not start with a blank, and what follows it. -/
def next? : List Char → Option (Token × List Char)
  | '[' :: rest => some (.openArray, rest)
  | ']' :: rest => some (.closeArray, rest)
  | '\x7b' :: rest => some (.openObject, rest)
  | '\x7d' :: rest => some (.closeObject, rest)
  | ',' :: rest => some (.comma, rest)
  | ':' :: rest => some (.colon, rest)
  | 'n' :: 'u' :: 'l' :: 'l' :: rest => some (.null, rest)
  | 't' :: 'r' :: 'u' :: 'e' :: rest => some (.bool true, rest)
  | 'f' :: 'a' :: 'l' :: 's' :: 'e' :: rest => some (.bool false, rest)
  | '"' :: rest =>
    (stringUnits? rest).map fun (units, rest) =>
      match joinUnits? units with
      | some cs => (.string (String.ofList cs), rest)
      | none => (.brokenString, rest)
  | cs =>
    (Numeral.scan? cs).map fun (numeral, rest) =>
      match numeral.value? with
      | some n => (.number n, rest)
      | none => (.hugeNumber, rest)

/-- The tokens of a text, where `fuel` bounds their number. -/
def scanWithin : Nat → List Char → List Token
  | 0, _ => []
  | fuel + 1, cs =>
    match cs.dropWhile isBlank with
    | [] => []
    | cs =>
      match next? cs with
      | some (token, rest) => token :: scanWithin fuel rest
      | none => [.fault]

/-- The tokens of a text. Every token takes at least one character, so its length bounds their
number. -/
def scan (s : String) : List Token :=
  let cs := s.toList
  scanWithin cs.length cs

end Token

end ScreenSynthesis.Json
