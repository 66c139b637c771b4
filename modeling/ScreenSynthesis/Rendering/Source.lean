import ScreenSynthesis.Rendering.Item
import ScreenSynthesis.Session

/-!
# Rendered source

The source of a unit has one block for each candidate with an item to render: a comment with the
candidate's name, and an `impl` block. Owners are told apart by their short names, so two that
share one cannot both be rendered.
-/

namespace ScreenSynthesis

namespace Rendering

/-- The items of some symbols. -/
def items : List Symbol → Except SynthesisError (List (List Token))
  | [] => .ok []
  | s :: rest => do
    let item ← item? s
    let more ← items rest
    return item.toList ++ more

/-- The `impl` block of a type. -/
def implBlock (type : String) (items : List (List Token)) : List Token :=
  [.word "impl", .word type, .group .brace items.flatten]

/-- A block of the source: the name of its owner in a comment, then its tokens. -/
def block (owner : QualifiedName) (tokens : List Token) : String :=
  "// " ++ owner.text ++ "\n" ++ printTokens tokens ++ "\n"

end Rendering

namespace Session

open Rendering

/-- The `impl` block of a declaration: none if it has nothing to render. -/
def renderOwner (s : Session) (owner : QualifiedName) :
    Except SynthesisError (Option (List Token)) :=
  match s.unit.lookup? owner with
  | none => .ok none
  | some decl => do
    let found ← items (s.symbols.forOwner decl)
    if found.isEmpty then return none
    return some (implBlock (← requireIdentifier owner.shortName) found)

/-- The blocks of some candidates, where `rendered` holds the owners rendered so far under their
short names. -/
def renderCandidates (s : Session) (rendered : List (String × QualifiedName)) :
    List Candidate → Except SynthesisError (List String)
  | [] => .ok []
  | c :: rest => do
    match ← s.renderOwner c.owner with
    | none => s.renderCandidates rendered rest
    | some tokens =>
      let name := c.owner.shortName
      match rendered.lookup name with
      | some first => throw (.renderCollision name first c.owner)
      | none =>
        let more ← s.renderCandidates ((name, c.owner) :: rendered) rest
        return block c.owner tokens :: more

/-- The source of the unit, an empty line between its blocks. -/
def render (s : Session) : Except SynthesisError String := do
  s.requireAtLeast .render .bodiesSynthesized
  let blocks ← s.renderCandidates [] s.candidates.candidates
  return "\n".intercalate blocks

end Session

end ScreenSynthesis
