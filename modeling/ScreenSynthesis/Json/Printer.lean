import ScreenSynthesis.Json.Basic

/-!
# Printing values

A value is printed on one line, or over several lines with two spaces for each level. Strings
escape the quote, the backslash and control characters; `Charset.ascii` escapes everything outside
printable ASCII as well, so that the text can pass through any channel.
-/

namespace ScreenSynthesis.Json

/-- The characters that may stand unescaped in a printed string. -/
inductive Charset where
  /-- Every character but the control characters below the space. -/
  | any
  /-- Printable ASCII. -/
  | ascii
deriving DecidableEq, Repr

/-- The four hexadecimal digits of a number below `2^16`. -/
def hex4 (n : Nat) : List Char :=
  let digits := Nat.toDigits 16 n
  List.replicate (4 - digits.length) '0' ++ digits

/-- The escape of a code point, as a pair of surrogates beyond the first plane. -/
def unicodeEscape (n : Nat) : List Char :=
  if n < 0x10000 then ['\\', 'u'] ++ hex4 n
  else
    ['\\', 'u'] ++ hex4 (0xD800 + (n - 0x10000) / 0x400) ++
      ['\\', 'u'] ++ hex4 (0xDC00 + (n - 0x10000) % 0x400)

/-- How a character is written in a string. -/
def escapeChar (charset : Charset) (c : Char) : List Char :=
  if c = '"' then ['\\', '"']
  else if c = '\\' then ['\\', '\\']
  else if c = '\n' then ['\\', 'n']
  else if c = '\r' then ['\\', 'r']
  else if c = '\t' then ['\\', 't']
  else if c = '\x08' then ['\\', 'b']
  else if c = '\x0c' then ['\\', 'f']
  else if c.toNat < 0x20 then unicodeEscape c.toNat
  else if charset = .ascii ∧ 0x7F ≤ c.toNat then unicodeEscape c.toNat
  else [c]

/-- A string between quotes. -/
def stringText (charset : Charset) (s : String) : String :=
  "\"" ++ String.ofList (s.toList.flatMap (escapeChar charset)) ++ "\""

mutual

/-- A value on one line, without blanks. -/
def compact (charset : Charset) : Json → String
  | .null => "null"
  | .bool true => "true"
  | .bool false => "false"
  | .number n => n.text
  | .string s => stringText charset s
  | .array items => "[" ++ ",".intercalate (compactItems charset items) ++ "]"
  | .object members => "\x7b" ++ ",".intercalate (compactMembers charset members) ++ "\x7d"

def compactItems (charset : Charset) : List Json → List String
  | [] => []
  | x :: xs => compact charset x :: compactItems charset xs

def compactMembers (charset : Charset) : List (String × Json) → List String
  | [] => []
  | (key, x) :: ms =>
    (stringText charset key ++ ":" ++ compact charset x) :: compactMembers charset ms

end

/-- A bracketed list over several lines, its closing bracket at the level of its owner. An empty
list stays on one line. -/
def block (level : Nat) (opening closing : String) (parts : List String) : String :=
  if parts.isEmpty then opening ++ closing
  else
    let indent (n : Nat) := String.ofList (List.replicate (2 * n) ' ')
    opening ++ "\n" ++ ",\n".intercalate (parts.map (indent (level + 1) ++ ·)) ++ "\n" ++
      indent level ++ closing

mutual

/-- A value over several lines, two spaces for each level. -/
def pretty (charset : Charset) (level : Nat) : Json → String
  | .null => "null"
  | .bool true => "true"
  | .bool false => "false"
  | .number n => n.text
  | .string s => stringText charset s
  | .array items => block level "[" "]" (prettyItems charset (level + 1) items)
  | .object members => block level "\x7b" "\x7d" (prettyMembers charset (level + 1) members)

def prettyItems (charset : Charset) (level : Nat) : List Json → List String
  | [] => []
  | x :: xs => pretty charset level x :: prettyItems charset level xs

def prettyMembers (charset : Charset) (level : Nat) : List (String × Json) → List String
  | [] => []
  | (key, x) :: ms =>
    (stringText charset key ++ ": " ++ pretty charset level x) :: prettyMembers charset level ms

end

end ScreenSynthesis.Json
