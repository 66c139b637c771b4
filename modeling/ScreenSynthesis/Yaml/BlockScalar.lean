import ScreenSynthesis.Yaml.Line

/-!
# Block scalars

A text that takes up whole lines below its header. A literal text keeps its breaks; a folded one
turns a break between two lines into a space unless one of them is indented further. The header
says which it is, and what becomes of the breaks at the end.
-/

namespace ScreenSynthesis.Yaml

/-- What becomes of the breaks at the end of a block scalar. -/
inductive Chomping where
  /-- All are dropped. -/
  | strip
  /-- One is kept. -/
  | clip
  /-- All are kept. -/
  | keep
deriving DecidableEq, Repr

/-- The header of a block scalar. -/
structure BlockHeader where
  folded : Bool
  chomping : Chomping := .clip
  /-- By how much the lines are indented, if that is not left to the first one. -/
  indentation : Option Nat := none
deriving DecidableEq, Repr

namespace BlockHeader

/-- The header with the settings at the front of a text. Only a comment may follow them. -/
def settings (h : BlockHeader) : List Char → Option BlockHeader
  | '-' :: cs => if h.chomping = .clip then settings { h with chomping := .strip } cs else none
  | '+' :: cs => if h.chomping = .clip then settings { h with chomping := .keep } cs else none
  | cs@(c :: rest) =>
    if '1' ≤ c ∧ c ≤ '9' ∧ h.indentation.isNone then
      settings { h with indentation := some (c.toNat - '0'.toNat) } rest
    else if onlyComment cs then some h
    else none
  | [] => some h

/-- The header that a text starts with. -/
def ofChars? : List Char → Option BlockHeader
  | '|' :: cs => settings { folded := false } cs
  | '>' :: cs => settings { folded := true } cs
  | _ => none

end BlockHeader

namespace BlockScalar

/-- How far the lines of a block scalar are indented, where `least` is the least they may be. -/
def indentation (h : BlockHeader) (least : Nat) (ls : List Line) : Nat :=
  match h.indentation with
  | some n => (least - 1) + n
  | none =>
    match ls.find? (!·.text.isEmpty) with
    | some l => max (max least 1) l.indent
    | none => max least 1

/-- Whether a line belongs to a block scalar. -/
def covers (indent : Nat) (l : Line) : Bool := l.text.isEmpty || indent ≤ l.indent

/-- A line of a block scalar without its indentation. -/
def content (indent : Nat) (l : Line) : List Char := l.chars.drop indent

/-- Whether a line is indented further than the others. -/
def isSpaced (cs : List Char) : Bool := cs.head?.any isBlank

/-- The lines put together with their breaks. -/
def literal (ls : List (List Char)) : List Char := List.intercalate ['\n'] ls

/-- The lines put together, breaks between them folded. `last` says whether the last line was
indented further, and `breaks` counts the empty lines since. -/
def fold (last : Option Bool) (breaks : Nat) : List (List Char) → List Char
  | [] => []
  | [] :: ls => fold last (breaks + 1) ls
  | l :: ls =>
    let between := match last with
      | none => List.replicate breaks '\n'
      | some spaced =>
        if spaced || isSpaced l then List.replicate (breaks + 1) '\n'
        else if breaks = 0 then [' ']
        else List.replicate breaks '\n'
    between ++ l ++ fold (some (isSpaced l)) 0 ls

/-- The text of some lines. -/
def text (h : BlockHeader) (ls : List (List Char)) : String :=
  let trailing := (ls.reverse.takeWhile List.isEmpty).length
  let ls := ls.take (ls.length - trailing)
  let body := if h.folded then fold none 0 ls else literal ls
  let final := if ls.isEmpty then 0 else 1
  let breaks := match h.chomping with
    | .strip => 0
    | .clip => final
    | .keep => final + trailing
  String.ofList (body ++ List.replicate breaks '\n')

/-- The block scalar that some lines start with, and the lines behind it. -/
def read (h : BlockHeader) (least : Nat) (ls : List Line) : String × List Line :=
  let indent := indentation h least ls
  (text h ((ls.takeWhile (covers indent)).map (content indent)), ls.dropWhile (covers indent))

/-- Folding keeps a blank line as a break, and the breaks around a line that is indented further. -/
example : text { folded := true } ["a".toList, "b".toList, [], "c".toList, " d".toList, "e".toList, []] =
    "a b\nc\n d\ne\n" := by decide

end BlockScalar

end ScreenSynthesis.Yaml
