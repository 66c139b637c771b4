import ScreenSynthesis.Annotation
import ScreenSynthesis.Codec.Declarations

/-!
# The format of results

How diagnostics, symbols and line annotations are written. Results are not read back.
-/

namespace ScreenSynthesis

/-- The value of a diagnostic. -/
def Diagnostic.toJson (d : Diagnostic) : Json :=
  .object [("code", .string d.kind.code), ("severity", .string d.kind.severity.text),
    ("message", .string d.kind.message), ("owner", .string d.owner.text),
    ("subject", .string d.subject), ("location", d.location.toJson)]

/-- The name of a kind of symbols. -/
def SymbolKind.text : SymbolKind → String
  | .container => "container"
  | .constant => "constant"
  | .accessorProperty => "accessor_property"
  | .factoryFunction => "factory_function"
  | .conditionalAccessorProperty => "conditional_accessor_property"

/-- The name of a scope. -/
def Scope.text : Scope → String
  | .owner => "owner"
  | .container => "container"

/-- The name of a visibility. -/
def Visibility.text : Visibility → String
  | .pub => "public"
  | .priv => "private"

/-- The value of a type in a signature. -/
def TypeRef.toJson (t : TypeRef) : Json :=
  .object [("name", .string t.name.text), ("nullable", .bool t.nullable)]

/-- The value of a parameter. -/
def Parameter.toJson (p : Parameter) : Json :=
  .object [("name", .string p.name), ("ty", p.type.toJson), ("default_null", .bool p.defaultNull)]

/-- The value of a body. -/
def Body.toJson : Body → Json
  | .empty => .object [("body", .string "empty")]
  | .stringLiteral value => .object [("body", .string "string_literal"), ("value", .string value)]
  | .readArgument key type nullable =>
    .object [("body", .string "read_argument"), ("key", .string key), ("ty", .string type.text),
      ("nullable", .bool nullable)]
  | .createScreen key owner parameter =>
    .object [("body", .string "create_screen"), ("key", .string key), ("owner", .string owner.text),
      ("parameter", .option TypeRef.toJson parameter)]
  | .lazyBind binding =>
    .object [("body", .string "lazy_bind"), ("binding", .string binding.text)]

/-- The value of a symbol. -/
def Symbol.toJson (s : Symbol) : Json :=
  .object [("id", .nat s.id.index), ("owner", .string s.signature.ownerName.text),
    ("scope", .string s.signature.scope.text), ("name", .string s.signature.name),
    ("kind", .string s.signature.kind.text),
    ("declared_type", .option TypeRef.toJson s.signature.declaredType),
    ("parameters", .array (s.signature.parameters.map (·.toJson))),
    ("visibility", .string s.signature.visibility.text),
    ("body", match s.body with
      | none => .object [("state", .string "stub")]
      | some body => .object [("state", .string "filled"), ("body", body.toJson)])]

/-- The value of a line annotation. -/
def LineAnnotation.toJson (a : LineAnnotation) : Json :=
  .object [("owner", .string a.owner.text), ("location", a.location.toJson),
    ("key", .string a.key), ("tooltip", .string a.tooltip)]

end ScreenSynthesis
