import ScreenSynthesis.Json.Document
import ScreenSynthesis.Yaml.Line
import ScreenSynthesis.Yaml.Scalar

/-!
# Scalars and flow collections

The parts of YAML for which line breaks are just blanks: scalars, and collections in brackets and
braces. A scalar that runs over several lines is folded: a single break becomes a space, and of
more breaks the first is dropped.
-/

namespace ScreenSynthesis.Yaml

open Json (Document)
open Text (codePoint?)

/-! ## Folding -/

/-- A scalar being read, its text the last character first. -/
structure Folding where
  text : List Char := []
  /-- The blanks since the last character, the last one first. -/
  blanks : List Char := []
  /-- At the start of a line, how many breaks are to be folded. -/
  breaks : Option Nat := none
deriving DecidableEq, Repr

namespace Folding

/-- The scalar with everything that was held back. -/
def flush (f : Folding) : List Char :=
  match f.breaks with
  | none => f.blanks ++ f.text
  | some 0 => f.text
  | some 1 => ' ' :: f.text
  | some (n + 2) => List.replicate (n + 1) '\n' ++ f.text

/-- Reads a character as it is. -/
def push (f : Folding) (c : Char) : Folding := { text := c :: f.flush }

/-- Reads a character, holding blanks and breaks back. -/
def read (f : Folding) (c : Char) : Folding :=
  if c = '\n' then { f with blanks := [], breaks := some (f.breaks.getD 0 + 1) }
  else if isBlank c then
    match f.breaks with
    | none => { f with blanks := c :: f.blanks }
    | some _ => f
  else f.push c

/-- Reads a break that joins two lines. -/
def join (f : Folding) : Folding := { text := f.flush, breaks := some 0 }

/-- The text of a scalar that ends here. -/
def finish (f : Folding) : String := String.ofList f.flush.reverse

end Folding

/-! ## Scalars -/

/-- What is read off the front of a text, and the rest. -/
abbrev Parser (α : Type) := List Char → Option (α × List Char)

/-- A scalar in single quotes, behind the opening one. A quote inside is written twice. -/
def singleQuoted (f : Folding) : Parser String
  | '\'' :: '\'' :: cs => singleQuoted (f.push '\'') cs
  | '\'' :: cs => some (f.finish, cs)
  | c :: cs => singleQuoted (f.read c) cs
  | [] => none

/-- The characters that a backslash and a letter stand for. -/
def escapes : List (Char × Char) :=
  [('0', '\x00'), ('a', '\x07'), ('b', '\x08'), ('t', '\t'), ('\t', '\t'), ('n', '\n'),
    ('v', '\x0b'), ('f', '\x0c'), ('r', '\r'), ('e', '\x1b'), (' ', ' '), ('"', '"'), ('/', '/'),
    ('\\', '\\'), ('N', '\u0085'), ('_', '\u00a0'), ('L', '\u2028'), ('P', '\u2029')]

/-- A scalar in double quotes, behind the opening one. -/
def doubleQuoted (f : Folding) : Parser String
  | '"' :: cs => some (f.finish, cs)
  | '\\' :: '\n' :: cs => doubleQuoted f.join cs
  | '\\' :: 'x' :: a :: b :: cs => do doubleQuoted (f.push (← codePoint? [a, b])) cs
  | '\\' :: 'u' :: a :: b :: c :: d :: cs => do
    doubleQuoted (f.push (← codePoint? [a, b, c, d])) cs
  | '\\' :: 'U' :: a :: b :: c :: d :: e :: g :: h :: i :: cs => do
    doubleQuoted (f.push (← codePoint? [a, b, c, d, e, g, h, i])) cs
  | '\\' :: letter :: cs => do doubleQuoted (f.push (← escapes.lookup letter)) cs
  | c :: cs => doubleQuoted (f.read c) cs
  | [] => none

/-- Whether a character delimits the parts of a flow collection. -/
def isFlowIndicator (c : Char) : Bool := c ∈ [',', '[', ']', '\x7b', '\x7d']

/-- Whether a colon in front of a text ends a scalar. -/
def endsKey (inFlow : Bool) (rest : List Char) : Bool :=
  rest.head?.all fun c => isBlank c || c = '\n' || (inFlow && isFlowIndicator c)

/-- Whether a plain scalar may start like this. -/
def startsPlain (inFlow : Bool) : List Char → Bool
  | [] => false
  | c :: rest =>
    if c ∈ ['-', '?', ':'] then !endsKey inFlow rest
    else !(isBlank c || isFlowIndicator c ||
      c ∈ ['\n', '#', '&', '*', '!', '|', '>', '\'', '"', '%', '@', '\x60'])

/-- A plain scalar: it ends before a colon that stands for itself, a comment and, inside a flow
collection, an indicator. `rest` is what follows its last character. -/
def plain (inFlow : Bool) (f : Folding) (rest : List Char) : List Char → String × List Char
  | [] => (String.ofList f.text.reverse, rest)
  | c :: cs =>
    -- A number sign inside a word starts no comment.
    let ends :=
      (c = ':' && endsKey inFlow cs) || (inFlow && isFlowIndicator c) ||
        (c = '#' && !(f.blanks.isEmpty && f.breaks.isNone))
    if ends then (String.ofList f.text.reverse, rest)
    else if c = '\n' || isBlank c then plain inFlow (f.read c) rest cs
    else plain inFlow (f.push c) cs cs

/-- A scalar of any style. -/
def scalar (inFlow : Bool) : Parser Document
  | '\'' :: cs => (singleQuoted {} cs).map fun (s, rest) => (.string s, rest)
  | '"' :: cs => (doubleQuoted {} cs).map fun (s, rest) => (.string s, rest)
  | cs =>
    if startsPlain inFlow cs then
      let (s, rest) := plain inFlow {} cs cs
      some (.plain s, rest)
    else none

/-- The text of a scalar. -/
def scalarText? : Document → Option String
  | .string s | .plain s => some s
  | _ => none

/-! ## Flow collections -/

mutual

/-- Skips blanks, breaks and comments. -/
def skipGap (afterBlank : Bool) : List Char → List Char
  | [] => []
  | c :: cs =>
    if c = ' ' || c = '\t' || c = '\n' then skipGap true cs
    else if c = '#' && afterBlank then skipComment cs
    else c :: cs

def skipComment : List Char → List Char
  | [] => []
  | c :: cs => if c = '\n' then skipGap true cs else skipComment cs

end

/-- Skips what may stand between the parts of a flow collection. -/
def gap (cs : List Char) : List Char := skipGap false cs

mutual

/-- A node inside a flow collection. -/
def flowNode : Nat → Parser Document
  | 0, _ => none
  | fuel + 1, '[' :: cs => flowItems fuel [] (gap cs)
  | fuel + 1, '\x7b' :: cs => flowMembers fuel [] (gap cs)
  | _ + 1, cs => scalar true cs

/-- The items of a sequence up to its closing bracket. An item may be a single pair. -/
def flowItems : Nat → List Document → Parser Document
  | 0, _, _ => none
  | _ + 1, items, ']' :: cs => some (.array items.reverse true, cs)
  | fuel + 1, items, cs => do
    let (item, cs) ← flowNode fuel cs
    let (item, cs) ← match gap cs with
      | ':' :: cs => do
        let (value, cs) ← flowValue fuel (gap cs)
        some (.object [(← scalarText? item, value)] true, cs)
      | cs => some (item, cs)
    match gap cs with
    | ',' :: cs => flowItems fuel (item :: items) (gap cs)
    | ']' :: cs => some (.array (item :: items).reverse true, cs)
    | _ => none

/-- The members of a mapping up to its closing brace. A key may stand alone. -/
def flowMembers : Nat → List (String × Document) → Parser Document
  | 0, _, _ => none
  | _ + 1, members, '\x7d' :: cs => some (.object members.reverse true, cs)
  | fuel + 1, members, cs => do
    let (key, cs) ← scalar true cs
    let (value, cs) ← match gap cs with
      | ':' :: cs => flowValue fuel (gap cs)
      | cs => some (.plain "", cs)
    let members := (← scalarText? key, value) :: members
    match gap cs with
    | ',' :: cs => flowMembers fuel members (gap cs)
    | '\x7d' :: cs => some (.object members.reverse true, cs)
    | _ => none

/-- The value behind a colon, which may be left out. -/
def flowValue : Nat → Parser Document
  | 0, _ => none
  | fuel + 1, cs =>
    match cs with
    | ',' :: _ | ']' :: _ | '\x7d' :: _ => some (.plain "", cs)
    | _ => flowNode fuel cs

end

/-- A scalar or a flow collection. -/
def inline (cs : List Char) : Option (Document × List Char) :=
  match cs with
  | '[' :: _ | '\x7b' :: _ => flowNode (2 * cs.length + 2) cs
  | _ => scalar false cs

end ScreenSynthesis.Yaml
