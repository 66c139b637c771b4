import ScreenSynthesis.Stubs

/-!
# Bodies

Once all stubs are there, each is filled with a body according to its kind. The accessor, the
factory and the annotations of an owner use the same key: the literal that the user gave it, or the
owner's qualified name.
-/

namespace ScreenSynthesis

/-- The key of a screen: the string literal of the first `KEY` in the user's container, or else the
qualified name. -/
def ClassDecl.lookupKey (d : ClassDecl) : String :=
  match (d.containerMember? keyName).bind (·.value) with
  | some (.str value) => value
  | _ => d.qualifiedName.text

namespace Bodies

/-- The body of a symbol with signature `s` that belongs to `d`. -/
def bodyFor (s : Signature) (d : ClassDecl) : Body :=
  match s.kind, s.declaredType with
  | .container, _ => .empty
  -- the constant holds the qualified name, whatever key the user gave
  | .constant, _ => .stringLiteral d.qualifiedName.text
  | .accessorProperty, some type => .readArgument d.lookupKey type.name type.nullable
  | .accessorProperty, none => .empty
  | .factoryFunction, _ =>
    .createScreen d.lookupKey d.qualifiedName (s.parameters.head?.map (·.type))
  | .conditionalAccessorProperty, some type => .lazyBind type.name
  | .conditionalAccessorProperty, none => .empty

/-- The body that a symbol gets from a unit: none if it has one already or if the unit lacks its
declaration. -/
def newBody? (u : CompilationUnit) (s : Symbol) : Option Body :=
  if s.isFilled then none else (u.declaration? s.signature.owner).map (bodyFor s.signature)

/-- The symbol with the body that it gets. -/
def fillSymbol (u : CompilationUnit) (s : Symbol) : Symbol :=
  match newBody? u s with
  | some body => { s with body := some body }
  | none => s

/-- Fills every stub whose declaration the unit has, and counts them. -/
def fill (u : CompilationUnit) (t : SymbolTable) : Nat × SymbolTable :=
  (t.symbols.countP fun s => (newBody? u s).isSome,
    { t with symbols := t.symbols.map (fillSymbol u) })

end Bodies

end ScreenSynthesis
