import ScreenSynthesis.Unit

/-!
# Synthesized symbols

A symbol is a member that is added to a declaration, directly or in its container. It starts as a
stub, a signature without a body, and is filled later. A table holds the symbols of a session; no
two of them share their place, which is made of declaration, scope and name.
-/

namespace ScreenSynthesis

/-- The position of a symbol in its table. -/
structure SymbolId where
  index : Nat
deriving DecidableEq, Repr, Inhabited

/-- The sort of a symbol. -/
inductive SymbolKind where
  | container
  | constant
  | accessorProperty
  | factoryFunction
  | conditionalAccessorProperty
deriving DecidableEq, Repr, Inhabited

/-- Where a symbol lives: on the declaration itself or in its container. -/
inductive Scope where
  | owner
  | container
deriving DecidableEq, Repr, Inhabited

/-- Who may see a symbol. -/
inductive Visibility where
  | pub
  | priv
deriving DecidableEq, Repr, Inhabited

/-- A type in a signature. -/
structure TypeRef where
  name : QualifiedName
  nullable : Bool := false
deriving DecidableEq, Repr, Inhabited

/-- A parameter of a function. -/
structure Parameter where
  name : String
  type : TypeRef
  /-- The parameter is null when it is left out. -/
  defaultNull : Bool
deriving DecidableEq, Repr, Inhabited

/-- What a symbol does. -/
inductive Body where
  /-- Nothing: containers only hold other symbols. -/
  | empty
  | stringLiteral (value : String)
  /-- Reads the argument stored under a key. -/
  | readArgument (key : String) (type : QualifiedName) (nullable : Bool)
  /-- Makes the screen of an owner, storing the argument under a key. -/
  | createScreen (key : String) (owner : QualifiedName) (parameter : Option TypeRef)
  /-- Binds the root view at the first access. -/
  | lazyBind (binding : QualifiedName)
deriving DecidableEq, Repr, Inhabited

/-- What a symbol consists of before a table has taken it. -/
structure Signature where
  owner : DeclId
  ownerName : QualifiedName
  scope : Scope
  name : String
  kind : SymbolKind
  declaredType : Option TypeRef := none
  parameters : List Parameter := []
  visibility : Visibility := .pub
deriving DecidableEq, Repr, Inhabited

/-- Where a symbol stands. No two symbols of a table share their place. -/
structure Place where
  owner : DeclId
  scope : Scope
  name : String
deriving DecidableEq, Repr, Inhabited

/-- The place that a symbol with this signature takes. -/
def Signature.place (s : Signature) : Place := ⟨s.owner, s.scope, s.name⟩

/-- A symbol of a table: its signature and, once it is filled, its body. -/
structure Symbol where
  id : SymbolId
  signature : Signature
  body : Option Body := none
deriving DecidableEq, Repr, Inhabited

namespace Symbol

/-- Whether the symbol has a body. -/
def isFilled (s : Symbol) : Bool := s.body.isSome

/-- The place of the symbol. -/
def place (s : Symbol) : Place := s.signature.place

end Symbol

/-- The symbols of a session, in the order of their positions, and an index to find them by their
places. -/
structure SymbolTable where
  symbols : List Symbol := []
  /-- The places that are taken, the latest first, each with the position of its symbol. -/
  places : List (Place × SymbolId) := []
deriving DecidableEq, Repr, Inhabited

namespace SymbolTable

/-- The symbol with a position. -/
def get? (t : SymbolTable) (id : SymbolId) : Option Symbol := t.symbols[id.index]?

/-- The position that the index has for a place. -/
def idAt? (t : SymbolTable) (p : Place) : Option SymbolId := t.places.lookup p

/-- The symbol at a place. -/
def find? (t : SymbolTable) (owner : DeclId) (scope : Scope) (name : String) : Option Symbol :=
  (t.idAt? ⟨owner, scope, name⟩).bind t.get?

/-- The symbols of a declaration. -/
def forOwner (t : SymbolTable) (owner : DeclId) : List Symbol :=
  t.symbols.filter (·.signature.owner = owner)

/-- How many symbols there are. -/
def size (t : SymbolTable) : Nat := t.symbols.length

/-- Adds a stub with a signature, unless its place is taken. -/
def insert (t : SymbolTable) (s : Signature) : Option SymbolId × SymbolTable :=
  if (t.idAt? s.place).isSome then (none, t)
  else
    let id : SymbolId := ⟨t.size⟩
    (some id,
      { symbols := t.symbols ++ [{ id, signature := s }]
        places := (s.place, id) :: t.places })

/-- Adds stubs one after the other and lists the positions of those that found their place free. -/
def insertAll (t : SymbolTable) : List Signature → List SymbolId × SymbolTable
  | [] => ([], t)
  | s :: rest =>
    let (id, t) := t.insert s
    let (ids, t) := insertAll t rest
    (id.toList ++ ids, t)

end SymbolTable

end ScreenSynthesis
