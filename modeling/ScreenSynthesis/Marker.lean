import ScreenSynthesis.Declaration

/-!
# The marker annotation

A class asks for screen members by carrying the marker annotation. Its arguments are the type of
the screen's argument and whether that argument may be null; both may be given by position or by
name, and the last one given counts.
-/

namespace ScreenSynthesis

/-- The marker annotation. -/
def markerName : String := "screenkit.Screen"

/-- The name of the marker's first parameter, the type of the screen's argument. -/
def argumentTypeParameter : String := "argumentType"

/-- The name of the marker's second parameter, whether the argument may be null. -/
def nullableParameter : String := "nullable"

/-- The type that stands for "no argument", the default of the first parameter. -/
def noArgumentName : String := "screenkit.NoArgument"

/-- What the marker's first parameter names, before anything is looked up. -/
inductive ArgumentRef where
  | qualified (name : QualifiedName)
  /-- A bare name, to be looked for in the owner's package. -/
  | unqualified (name : String)
  | noArgument
  /-- The expression is no class reference. -/
  | absent
deriving DecidableEq, Repr, Inhabited

namespace ArgumentRef

/-- What an expression names as the type of an argument. -/
def ofExpr : Expr → ArgumentRef
  | .classRef name =>
    if name = noArgumentName ∨ name = (QualifiedName.mk noArgumentName).shortName then .noArgument
    else if (QualifiedName.mk name).isQualified then .qualified ⟨name⟩
    else if name = "" then .absent
    else .unqualified name
  | _ => .absent

end ArgumentRef

/-- What a marker says. -/
structure Marker where
  argument : ArgumentRef := .noArgument
  nullable : Bool := false
deriving DecidableEq, Repr, Inhabited

namespace Marker

/-- The parameter at a position, counted from zero. -/
def parameterAt : Nat → Option String
  | 0 => some argumentTypeParameter
  | 1 => some nullableParameter
  | _ => none

/-- The parameters that the arguments fill, in order; `position` positional arguments came
before. A positional argument beyond the last parameter fills none. -/
def filled (position : Nat) : List AttributeArgument → List (String × Expr)
  | [] => []
  | ⟨some name, value⟩ :: rest => (name, value) :: filled position rest
  | ⟨none, value⟩ :: rest =>
    match parameterAt position with
    | some name => (name, value) :: filled (position + 1) rest
    | none => filled (position + 1) rest

/-- The marker after one parameter has been filled. Other names than those of the two parameters
have no effect. -/
def fill (m : Marker) (parameter : String × Expr) : Marker :=
  if parameter.1 = argumentTypeParameter then { m with argument := .ofExpr parameter.2 }
  else if parameter.1 = nullableParameter then { m with nullable := parameter.2 = .bool true }
  else m

/-- What an annotation says when it is read as a marker. -/
def ofAttribute (a : AttributeLiteral) : Marker := (filled 0 a.arguments).foldl fill {}

/-- The first marker annotation of a class. -/
def find? (c : ClassDecl) : Option AttributeLiteral :=
  c.annotations.find? (·.name.text = markerName)

end Marker

end ScreenSynthesis
