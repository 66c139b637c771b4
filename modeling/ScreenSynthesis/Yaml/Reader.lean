import ScreenSynthesis.Yaml.BlockScalar
import ScreenSynthesis.Yaml.Flow

/-!
# Reading YAML

`read` makes a document of a text with one YAML document: block and flow collections, scalars of
every style, comments, and the markers around the document. Plain scalars are left as they are
written. Anchors, tags and directives are not read.
-/

namespace ScreenSynthesis.Yaml

open Json (Document)

/-- What is read off the front of some lines, and the lines behind it. -/
abbrev BlockParser := List Line → Option (Document × List Line)

/-- The key that a line starts with, and what follows its colon. -/
def key? (l : Line) : Option (String × List Char) := do
  let (key, rest) ← scalar false l.text
  match rest.dropWhile isBlank with
  | ':' :: rest => if endsKey false rest then some (← scalarText? key, rest) else none
  | _ => none

/-- Whether a scalar or a flow collection that starts with `opening` goes on over a line. The line
is indented by at least `least`; a collection may close one space further left. -/
def goesOnOver (opening : Option Char) (least : Nat) (l : Line) : Bool :=
  let closes := l.text.head? = some ']' || l.text.head? = some '\x7d'
  let opens := opening = some '[' || opening = some '\x7b'
  l.isBlank || least ≤ l.indent || (opens && closes && least ≤ l.indent + 1)

/-- A scalar or a flow collection that starts on the first line. Nothing but a comment may follow it
on its last line. -/
def inlineNode (least : Nat) : BlockParser
  | [] => none
  | l :: ls =>
    let more := ls.takeWhile (goesOnOver l.text.head? least)
    let chars := l.text ++ more.flatMap fun l => '\n' :: l.chars
    match inline chars with
    | some (d, rest) =>
      if onlyComment (rest.takeWhile (· ≠ '\n')) then
        -- As many lines are left over as there are breaks in what is left over.
        some (d, ls.drop (more.length - rest.count '\n'))
      else none
    | none => none

/-- A node that starts on the first line, no collection of its own lines. -/
def leaf (least : Nat) : BlockParser
  | [] => none
  | l :: ls =>
    match BlockHeader.ofChars? l.text with
    | some h =>
      let (s, ls) := BlockScalar.read h least ls
      some (.string s, ls)
    | none => inlineNode least (l :: ls)

mutual

/-- The node whose lines are indented by at least `least`. Without such lines it is empty. -/
def node : Nat → (least : Nat) → BlockParser
  | 0, _, _ => none
  | fuel + 1, least, ls =>
    match skipEmpty ls with
    | [] => some (.plain "", [])
    | l :: rest =>
      if l.indent < least then some (.plain "", l :: rest)
      else if l.isItem then sequence fuel l.indent [] (l :: rest)
      else if (key? l).isSome then mapping fuel l.indent [] (l :: rest)
      else leaf least (l :: rest)

/-- A sequence whose dashes stand at `indent`. -/
def sequence : Nat → (indent : Nat) → List Document → BlockParser
  | 0, _, _, _ => none
  | fuel + 1, indent, items, ls =>
    match skipEmpty ls with
    | [] => some (.array items.reverse true, [])
    | l :: rest =>
      if indent < l.indent then none
      else if l.indent = indent && l.isItem then do
        let (item, ls) ← node fuel (indent + 1) (l.behindDash :: rest)
        sequence fuel indent (item :: items) ls
      else some (.array items.reverse true, l :: rest)

/-- A mapping whose keys stand at `indent`. The dashes of a sequence below a key may stand there
too. -/
def mapping : Nat → (indent : Nat) → List (String × Document) → BlockParser
  | 0, _, _, _ => none
  | fuel + 1, indent, members, ls =>
    match skipEmpty ls with
    | [] => some (.object members.reverse true, [])
    | l :: rest =>
      if indent < l.indent then none
      else if l.indent = indent && !l.isItem then do
        let (key, behind) ← key? l
        let (value, ls) ←
          if onlyComment behind then
            -- Nothing stands behind the colon, so the value is on the lines below.
            match skipEmpty rest with
            | next :: _ =>
              if next.indent = indent && next.isItem then sequence fuel indent [] rest
              else node fuel (indent + 1) rest
            | [] => node fuel (indent + 1) rest
          -- A value on the line of its key is no collection of lines.
          else leaf (indent + 1) ({ l with text := behind.dropWhile isBlank } :: rest)
        mapping fuel indent ((key, value) :: members) ls
      else some (.object members.reverse true, l :: rest)

end

/-- The document of a text, if the text makes sense. -/
def read (s : String) : Option Document := do
  let s := if s.startsWith "\ufeff" then (s.drop 1).toString else s
  let ls := skipEmpty (lines s)
  let ls := match ls with
    | l :: rest =>
      if l.isMarker '-' then
        -- The marker counts as blanks: a scalar may stand behind it.
        let behind := Line.ofChars (l.text.drop 3)
        { behind with indent := 3 + behind.indent } :: rest
      else l :: rest
    | [] => []
  let isEnd (l : Line) := l.isMarker '-' || l.isMarker '.'
  let body := ls.takeWhile (!isEnd ·)
  let (d, left) ← node (4 * s.length + 4) 0 body
  -- Behind the document there may be its end marker, but no other document.
  let trailing := (ls.dropWhile (!isEnd ·)).filter (!·.isMarker '.')
  if (left ++ trailing).all Line.isEmpty then some d else none

mutual

/-- Whether no mapping has a key twice. -/
def keysDistinct : Document → Bool
  | .array items _ => itemsDistinct items
  | .object members _ => membersDistinct [] members
  | _ => true

def itemsDistinct : List Document → Bool
  | [] => true
  | d :: ds => keysDistinct d && itemsDistinct ds

def membersDistinct (seen : List String) : List (String × Document) → Bool
  | [] => true
  | (key, d) :: ms => !seen.contains key && keysDistinct d && membersDistinct (key :: seen) ms

end

end ScreenSynthesis.Yaml
