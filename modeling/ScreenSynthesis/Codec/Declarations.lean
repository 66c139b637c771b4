import ScreenSynthesis.Codec.Fields
import ScreenSynthesis.Error
import ScreenSynthesis.Unit

/-!
# The format of units

How declarations are written and read. Every field is written; when it is read, a field with a
default may be left out. An expression is an object whose member `kind` says which other members
count.
-/

namespace ScreenSynthesis

open Json (Document)

/-! ## Names of kinds -/

/-- The kinds of classes by name. -/
def ClassKind.named : List (String × ClassKind) :=
  [("class", .ordinary), ("interface", .interface), ("object", .object)]

/-- The name of a kind of classes. -/
def ClassKind.text : ClassKind → String
  | .ordinary => "class"
  | .interface => "interface"
  | .object => "object"

/-- The kinds of members by name. -/
def MemberKind.named : List (String × MemberKind) :=
  [("property", .property), ("function", .function), ("constant", .constant)]

/-- The name of a kind of members. -/
def MemberKind.text : MemberKind → String
  | .property => "property"
  | .function => "function"
  | .constant => "constant"

/-- Each kind is found under its own name. -/
theorem ClassKind.lookup_text (k : ClassKind) : ClassKind.named.lookup k.text = some k := by
  cases k <;> decide

/-- Each kind is found under its own name. -/
theorem MemberKind.lookup_text (k : MemberKind) : MemberKind.named.lookup k.text = some k := by
  cases k <;> decide

/-! ## Expressions -/

/-- The kind of an expression without its contents. -/
inductive ExprKind where
  | classRef
  | bool
  | str
  | int
  | path
  | null
deriving DecidableEq, Repr

/-- The kinds of expressions by name. -/
def ExprKind.named : List (String × ExprKind) :=
  [("class_ref", .classRef), ("bool", .bool), ("str", .str), ("int", .int), ("path", .path),
    ("null", .null)]

namespace Expr

/-- The value of an expression. -/
def toJson : Expr → Json
  | .classRef name => .object [("kind", .string "class_ref"), ("name", .string name)]
  | .bool value => .object [("kind", .string "bool"), ("value", .bool value)]
  | .str value => .object [("kind", .string "str"), ("value", .string value)]
  | .int value => .object [("kind", .string "int"), ("value", .number (.whole value.toInt))]
  | .path text => .object [("kind", .string "path"), ("path", .string text)]
  | .null => .object [("kind", .string "null")]

/-- What an expression has beside its kind, with the types of its scalars settled. -/
inductive Content where
  | named (members : List (String × Document))
  | positional (items : List Document)

/-- The only field of an expression of some kind. -/
def decodeField {α : Type} (typeName field : String) (decode : Decoder α) (content : Content) :
    Except DecodeError α := do
  let fields : Fields := match content with
    | .named members => { entries := members }
    | .positional items =>
      Fields.positional ("struct variant Expr::" ++ typeName) [field] items true
        (.wrongLength items.length "1 element in sequence")
  let value := fields.field .value field decode
  fields.settle [value.outcome]
  fields.require value

/-- An expression of a kind. The null expression has no fields; as an array it must be empty. -/
def ofContent (content : Content) : ExprKind → Except DecodeError Expr
  | .classRef => return .classRef (← decodeField "ClassRef" "name" .string content)
  | .bool => return .bool (← decodeField "Bool" "value" .bool content)
  | .str => return .str (← decodeField "Str" "value" .string content)
  | .int => return .int (← decodeField "Int" "value" .int64 content)
  | .path => return .path (← decodeField "Path" "path" .string content)
  | .null =>
    match content with
    | .positional (_ :: items) =>
      .error (.wrongLength (items.length + 1) "0 elements in sequence")
    | _ => .ok .null

/-- The kind of an expression. -/
def decodeKind : Document → Except DecodeError ExprKind
  | .string s | .plain s => Decoder.choose ExprKind.named s
  | d => .error (d.mismatch "variant identifier")

/-- A document whose plain scalars have taken the types that they suggest. Nothing in it may be
refused. -/
def settled (d : Document) : Except DecodeError Document :=
  if d.toJson?.isSome then .ok (resolved d) else .error .malformed
where
  resolved : Document → Document
    | .plain s => Yaml.resolve s
    | d => d

/-- The kind among the members of an expression, and the other members. -/
def splitMembers (kind : Option ExprKind) (others : List (String × Document)) :
    List (String × Document) → Except DecodeError (Option ExprKind × List (String × Document))
  | [] => .ok (kind, others.reverse)
  | (key, d) :: rest =>
    if key = "kind" then
      match kind with
      | some _ => .error (.duplicateField "kind")
      | none => do splitMembers (some (← decodeKind d)) others rest
    else do splitMembers kind ((key, ← settled d) :: others) rest

/-- An expression: an object with a member `kind`, or an array with the kind in front. -/
def decode : Decoder Expr
  | _, .object members closed => do
    let (kind, others) ← splitMembers none [] members
    if ¬ closed then .error .malformed
    match kind with
    | some kind => ofContent (.named others) kind
    | none => .error (.missingField "kind")
  | _, .array items closed => do
    match items with
    | [] => if closed then .error (.missingField "kind") else .error .malformed
    | tag :: items =>
      -- The kind is judged before anything behind it is looked at.
      let kind ← decodeKind tag
      let items ← items.mapM settled
      if ¬ closed then .error .malformed
      ofContent (.positional items) kind
  | _, d => .error (d.mismatch "internally tagged enum Expr")

end Expr

/-! ## Annotations and members -/

namespace SourceLocation

/-- The value of a location. -/
def toJson (l : SourceLocation) : Json :=
  .object [("file", .string l.file), ("line", .nat l.line.toNat), ("column", .nat l.column.toNat)]

/-- A location; every field has a default. -/
def decode : Decoder SourceLocation := fun origin d => do
  let fields ← Fields.ofDocument origin "SourceLocation" ["file", "line", "column"] d
  let file := fields.field origin "file" .string
  let line := fields.field origin "line" .word32
  let column := fields.field origin "column" .word32
  fields.settle [file.outcome, line.outcome, column.outcome]
  return { file := file.getD "", line := line.getD 0, column := column.getD 0 }

end SourceLocation

namespace AttributeArgument

/-- The value of an argument. -/
def toJson (a : AttributeArgument) : Json :=
  .object [("name", .option .string a.name), ("value", a.value.toJson)]

/-- An argument; it is positional if it has no name. -/
def decode : Decoder AttributeArgument := fun origin d => do
  let fields ← Fields.ofDocument origin "AttributeArgument" ["name", "value"] d
  let name := fields.field origin "name" (.option .string)
  let value := fields.field origin "value" Expr.decode
  fields.settle [name.outcome, value.outcome]
  return { name := name.getD none, value := ← fields.require value }

end AttributeArgument

namespace AttributeLiteral

/-- The value of an annotation. -/
def toJson (a : AttributeLiteral) : Json :=
  .object [("name", .string a.name.text), ("arguments", .array (a.arguments.map (·.toJson)))]

/-- An annotation; it has no arguments unless they are given. -/
def decode : Decoder AttributeLiteral := fun origin d => do
  let fields ← Fields.ofDocument origin "AttributeLiteral" ["name", "arguments"] d
  let name := fields.field origin "name" .name
  let arguments := fields.field origin "arguments" (.list AttributeArgument.decode)
  fields.settle [name.outcome, arguments.outcome]
  return { name := ← fields.require name, arguments := arguments.getD [] }

end AttributeLiteral

namespace Member

/-- The value of a member. -/
def toJson (m : Member) : Json :=
  .object [("name", .string m.name), ("kind", .string m.kind.text),
    ("value", .option Expr.toJson m.value)]

/-- A member; it is a property unless another kind is given. -/
def decode : Decoder Member := fun origin d => do
  let fields ← Fields.ofDocument origin "MemberDecl" ["name", "kind", "value"] d
  let name := fields.field origin "name" .string
  let kind := fields.field origin "kind" (.choice MemberKind.named)
  let value := fields.field origin "value" (.option Expr.decode)
  fields.settle [name.outcome, kind.outcome, value.outcome]
  return { name := ← fields.require name, kind := kind.getD .property, value := value.getD none }

end Member

namespace Container

/-- The value of a container. -/
def toJson (c : Container) : Json :=
  .object [("name", .string c.name), ("members", .array (c.members.map (·.toJson)))]

/-- A container; every field has a default. -/
def decode : Decoder Container := fun origin d => do
  let fields ← Fields.ofDocument origin "ContainerDecl" ["name", "members"] d
  let name := fields.field origin "name" .string
  let members := fields.field origin "members" (.list Member.decode)
  fields.settle [name.outcome, members.outcome]
  return { name := name.getD defaultContainer, members := members.getD [] }

end Container

namespace Delegation

/-- The value of a delegation call. -/
def toJson (c : Delegation) : Json := .object [("arguments", .array (c.arguments.map (·.toJson)))]

/-- A delegation call. -/
def decode : Decoder Delegation := fun origin d => do
  let fields ← Fields.ofDocument origin "DelegationCall" ["arguments"] d
  let arguments := fields.field origin "arguments" (.list Expr.decode)
  fields.settle [arguments.outcome]
  return { arguments := arguments.getD [] }

end Delegation

/-! ## Classes and units -/

/-- The value of a list of type names. -/
def namesToJson (names : List QualifiedName) : Json := .array (names.map (Json.string ·.text))

namespace ClassDecl

/-- The value of a class. -/
def toJson (c : ClassDecl) : Json :=
  .object [("package", .string c.package), ("name", .string c.name),
    ("kind", .string c.kind.text), ("supertypes", namesToJson c.supertypes),
    ("annotations", .array (c.annotations.map (·.toJson))),
    ("members", .array (c.members.map (·.toJson))),
    ("container", .option Container.toJson c.container),
    ("delegation", .option Delegation.toJson c.delegation),
    ("location", c.location.toJson)]

/-- A class; only its name is required. -/
def decode : Decoder ClassDecl := fun origin d => do
  let fields ← Fields.ofDocument origin "ClassDecl"
    ["package", "name", "kind", "supertypes", "annotations", "members", "container", "delegation",
      "location"] d
  let package := fields.field origin "package" .string
  let name := fields.field origin "name" .string
  let kind := fields.field origin "kind" (.choice ClassKind.named)
  let supertypes := fields.field origin "supertypes" (.list .name)
  let annotations := fields.field origin "annotations" (.list AttributeLiteral.decode)
  let members := fields.field origin "members" (.list Member.decode)
  let container := fields.field origin "container" (.option Container.decode)
  let delegation := fields.field origin "delegation" (.option Delegation.decode)
  let location := fields.field origin "location" SourceLocation.decode
  fields.settle
    [package.outcome, name.outcome, kind.outcome, supertypes.outcome, annotations.outcome,
      members.outcome, container.outcome, delegation.outcome, location.outcome]
  return {
    package := package.getD ""
    name := ← fields.require name
    kind := kind.getD .ordinary
    supertypes := supertypes.getD []
    annotations := annotations.getD []
    members := members.getD []
    container := container.getD none
    delegation := delegation.getD none
    location := location.getD {} }

end ClassDecl

namespace ExternalType

/-- The value of a type of the classpath. -/
def toJson (t : ExternalType) : Json :=
  .object [("name", .string t.name.text), ("supertypes", namesToJson t.supertypes)]

/-- A type of the classpath. -/
def decode : Decoder ExternalType := fun origin d => do
  let fields ← Fields.ofDocument origin "ExternalType" ["name", "supertypes"] d
  let name := fields.field origin "name" .name
  let supertypes := fields.field origin "supertypes" (.list .name)
  fields.settle [name.outcome, supertypes.outcome]
  return { name := ← fields.require name, supertypes := supertypes.getD [] }

end ExternalType

namespace UnitSource

/-- The value of a unit's contents. -/
def toJson (u : UnitSource) : Json :=
  .object [("name", .string u.name), ("classes", .array (u.classes.map (·.toJson))),
    ("classpath", .array (u.classpath.map (·.toJson)))]

/-- The contents of a unit; every field has a default. -/
def decode : Decoder UnitSource := fun origin d => do
  let fields ← Fields.ofDocument origin "UnitSource" ["name", "classes", "classpath"] d
  let name := fields.field origin "name" .string
  let classes := fields.field origin "classes" (.list ClassDecl.decode)
  let classpath := fields.field origin "classpath" (.list ExternalType.decode)
  fields.settle [name.outcome, classes.outcome, classpath.outcome]
  return { name := name.getD "", classes := classes.getD [], classpath := classpath.getD [] }

end UnitSource

/-- A unit whose entries have distinct names. -/
def CompilationUnit.decode : Decoder CompilationUnit := fun origin d => do
  match CompilationUnit.ofSource (← UnitSource.decode origin d) with
  | .ok unit => .ok unit
  | .error name => .error (.refused (SynthesisError.duplicateDeclaration name).message)

end ScreenSynthesis
