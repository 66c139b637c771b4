import ScreenSynthesis.Text.Split

/-!
# Lines

YAML is read line by line: how far a line is indented decides where it belongs.
-/

namespace ScreenSynthesis.Yaml

/-- A line: the spaces in front, and what follows them. -/
structure Line where
  indent : Nat
  text : List Char
deriving DecidableEq, Repr, Inhabited

/-- Whether a character separates words on a line. -/
def isBlank (c : Char) : Bool := c = ' ' || c = '\t'

/-- Whether nothing but blanks stands at the front of a text, up to a comment or the end. A comment
is set apart by a blank. -/
def onlyComment : List Char → Bool
  | [] => true
  | c :: cs => isBlank c && ((cs.dropWhile isBlank).head?.all (· = '#'))

namespace Line

/-- A line of a text. -/
def ofChars (cs : List Char) : Line where
  indent := (cs.takeWhile (· = ' ')).length
  text := cs.dropWhile (· = ' ')

/-- The characters of a line. -/
def chars (l : Line) : List Char := List.replicate l.indent ' ' ++ l.text

/-- Whether there are only blanks on the line. -/
def isBlank (l : Line) : Bool := l.text.all Yaml.isBlank

/-- Whether the line says nothing: it is blank or holds only a comment. -/
def isEmpty (l : Line) : Bool := l.isBlank || (l.text.dropWhile Yaml.isBlank).head? = some '#'

/-- Whether the line starts an item of a sequence. -/
def isItem (l : Line) : Bool :=
  match l.text with
  | '-' :: rest => rest.head?.all Yaml.isBlank
  | _ => false

/-- The line behind the dash of an item, as if the dash were a space. -/
def behindDash (l : Line) : Line :=
  let rest := ofChars (l.text.drop 1)
  { rest with indent := l.indent + 1 + rest.indent }

/-- Whether the line is a marker between documents: three dashes or dots with nothing in front and
set apart from what follows. -/
def isMarker (mark : Char) (l : Line) : Bool :=
  l.indent = 0 && l.text.take 3 = [mark, mark, mark] && (l.text.drop 3).head?.all Yaml.isBlank

end Line

/-- A text whose line breaks are all single line feeds. -/
def normalizeBreaks : List Char → List Char
  | '\r' :: '\n' :: cs => '\n' :: normalizeBreaks cs
  | '\r' :: cs => '\n' :: normalizeBreaks cs
  | c :: cs => c :: normalizeBreaks cs
  | [] => []

/-- The lines of a text. A break at the end starts no further line. -/
def lines (s : String) : List Line :=
  let ls := Text.pieces '\n' (normalizeBreaks s.toList)
  let ls := if ls.getLast? = some [] then ls.dropLast else ls
  ls.map Line.ofChars

/-- The lines without the empty ones at the front. -/
def skipEmpty (ls : List Line) : List Line := ls.dropWhile Line.isEmpty

/-- A comment needs a blank in front. -/
example : onlyComment "  # x".toList ∧ onlyComment " ".toList ∧ ¬ onlyComment "#x".toList ∧
    (Line.ofChars "  - a".toList).behindDash = ⟨4, ['a']⟩ := by decide

end ScreenSynthesis.Yaml
