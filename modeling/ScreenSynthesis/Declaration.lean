import ScreenSynthesis.Name

/-!
# Declarations

What the host's front end hands over: the classes of a compilation unit with their supertypes,
annotations, members and constructor delegation, and the types of the classpath. Supertypes and
annotation names are fully qualified already; class references inside annotation arguments may
still be bare names.
-/

namespace ScreenSynthesis

/-- Where a declaration stands in its source. -/
structure SourceLocation where
  file : String := ""
  line : UInt32 := 0
  column : UInt32 := 0
deriving DecidableEq, Repr, Inhabited

/-- `file:line:column`. -/
def SourceLocation.text (l : SourceLocation) : String :=
  l.file ++ ":" ++ toString l.line.toNat ++ ":" ++ toString l.column.toNat

/-- The sort of a class declaration. -/
inductive ClassKind where
  | ordinary
  | interface
  | object
deriving DecidableEq, Repr, Inhabited

/-- An argument expression as it was written, without evaluation. -/
inductive Expr where
  /-- A class literal, such as `Foo::class`. -/
  | classRef (name : String)
  | bool (value : Bool)
  | str (value : String)
  | int (value : Int64)
  /-- A chain of member accesses, such as `R.layout.main`. -/
  | path (path : String)
  | null
deriving DecidableEq, Repr, Inhabited

/-- An argument of an annotation, positional when it has no name. -/
structure AttributeArgument where
  name : Option String
  value : Expr
deriving DecidableEq, Repr, Inhabited

/-- An annotation with its arguments. -/
structure AttributeLiteral where
  name : QualifiedName
  arguments : List AttributeArgument := []
deriving DecidableEq, Repr, Inhabited

/-- The sort of a member. -/
inductive MemberKind where
  | property
  | function
  | constant
deriving DecidableEq, Repr, Inhabited

/-- A member that the user wrote. Only its name matters for what may be added beside it. -/
structure Member where
  name : String
  kind : MemberKind := .property
  /-- The initializer, if it is a literal. -/
  value : Option Expr := none
deriving DecidableEq, Repr, Inhabited

/-- The name of a container that the user did not name. -/
def defaultContainer : String := "Companion"

/-- A companion container that the user wrote. -/
structure Container where
  name : String := defaultContainer
  members : List Member := []
deriving DecidableEq, Repr, Inhabited

/-- The arguments of the constructor call that the primary constructor delegates to. -/
structure Delegation where
  arguments : List Expr := []
deriving DecidableEq, Repr, Inhabited

/-- A class that a unit declares. -/
structure ClassDecl where
  package : String := ""
  name : String
  kind : ClassKind := .ordinary
  supertypes : List QualifiedName := []
  annotations : List AttributeLiteral := []
  members : List Member := []
  container : Option Container := none
  delegation : Option Delegation := none
  location : SourceLocation := {}
deriving DecidableEq, Repr, Inhabited

/-- A type of the classpath: visible to the unit, but not declared by it. -/
structure ExternalType where
  name : QualifiedName
  supertypes : List QualifiedName := []
deriving DecidableEq, Repr, Inhabited

namespace ClassDecl

/-- The class's name within its package. -/
def qualifiedName (c : ClassDecl) : QualifiedName := .inPackage c.package c.name

/-- Whether the class itself has a member with this name. -/
def hasMember (c : ClassDecl) (name : String) : Bool := c.members.any (·.name = name)

/-- The first member with this name in the user's container. -/
def containerMember? (c : ClassDecl) (name : String) : Option Member :=
  match c.container with
  | some container => container.members.find? (·.name = name)
  | none => none

end ClassDecl

end ScreenSynthesis
