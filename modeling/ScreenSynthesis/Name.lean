import ScreenSynthesis.Text.Split

/-!
# Qualified names

A type is known by a dotted name. The part before the last dot is its package; a name without a dot
lives in the root package, which has the empty name.
-/

namespace ScreenSynthesis

/-- A dotted type name. -/
structure QualifiedName where
  text : String
deriving DecidableEq, Repr, Inhabited

namespace QualifiedName

/-- `name` as a member of `package`. In the root package a name stands alone. -/
def inPackage (package name : String) : QualifiedName :=
  if package = "" then ⟨name⟩ else ⟨package ++ "." ++ name⟩

/-- Everything before the last dot, empty for the root package. -/
def package (q : QualifiedName) : String :=
  match Text.splitLast '.' q.text.toList with
  | some (before, _) => String.ofList before
  | none => ""

/-- Everything after the last dot. -/
def shortName (q : QualifiedName) : String :=
  match Text.splitLast '.' q.text.toList with
  | some (_, after) => String.ofList after
  | none => q.text

/-- The name of `q`'s member `name`. -/
def child (q : QualifiedName) (name : String) : QualifiedName := ⟨q.text ++ "." ++ name⟩

/-- Whether the name has a dot. -/
def isQualified (q : QualifiedName) : Bool := q.text.toList.contains '.'

/-- A name is qualified exactly when it has a last dot to be cut at. -/
theorem isQualified_eq_isSome (q : QualifiedName) :
    q.isQualified = (Text.splitLast '.' q.text.toList).isSome := by
  cases h : Text.splitLast '.' q.text.toList with
  | none => simpa [isQualified] using Text.splitLast_eq_none_iff.1 h
  | some p =>
    obtain ⟨before, after⟩ := p
    simp [isQualified, (Text.splitLast_eq_some_iff.1 h).1]

end QualifiedName

end ScreenSynthesis
