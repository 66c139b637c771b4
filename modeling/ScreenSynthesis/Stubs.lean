import ScreenSynthesis.Symbol
import ScreenSynthesis.Validation

/-!
# Stubs

A sound candidate gets a container unless the user wrote one, in it the screen's key and its
factory, and on the owner an accessor for the argument if there is one. Each is added only if its
name is free: what the user or the table has already is never declared again. `Stubs.wanted` lists
what a candidate asks for beside the user's declarations, whatever the table holds.
-/

namespace ScreenSynthesis

/-- The name of the constant that holds a screen's key. -/
def keyName : String := "KEY"

/-- The name of the accessor for a screen's argument. -/
def argName : String := "arg"

/-- The name of the function that makes a screen. -/
def factoryName : String := "createScreen"

/-- The type of keys. -/
def stringType : QualifiedName := ⟨"kotlin.String"⟩

/-- The type of screens. -/
def descriptorType : QualifiedName := ⟨"screenkit.NavigationDescriptor"⟩

namespace ClassDecl

/-- The name of the container for new members: the user's, or the default one. -/
def containerName (c : ClassDecl) : String :=
  match c.container with
  | some container => container.name
  | none => defaultContainer

/-- Without a container of the user's the container for new members has the default name. -/
theorem containerName_of_container_eq_none {c : ClassDecl} (h : c.container = none) :
    c.containerName = defaultContainer := by
  rw [containerName, h]

/-- Whether there is, or can be, a container. A member with the default container's name leaves no
room for one. -/
def hasRoomForContainer (c : ClassDecl) : Bool :=
  c.container.isSome || !c.hasMember c.containerName

/-- Whether the user declared the name in a scope. -/
def declares (c : ClassDecl) (name : String) : Scope → Bool
  | .owner => c.hasMember name
  | .container => (c.containerMember? name).isSome

end ClassDecl

namespace SymbolTable

/-- Whether a name is taken in a scope of a declaration, by the user or by a symbol. -/
def isDeclared (t : SymbolTable) (decl : DeclId) (c : ClassDecl) (scope : Scope)
    (name : String) : Bool :=
  c.declares name scope || (t.find? decl scope name).isSome

/-- Adds a stub unless its name is taken. -/
def addUndeclared (t : SymbolTable) (d : ClassDecl) (s : Signature) :
    List SymbolId × SymbolTable :=
  if t.isDeclared s.owner d s.scope s.name then ([], t)
  else
    let (id, t) := t.insert s
    (id.toList, t)

end SymbolTable

namespace Stubs

/-- The type of a candidate's argument with the marker's nullability. -/
def argumentType (c : Candidate) (v : Validation) : Option TypeRef :=
  v.argument.map fun name => ⟨name, c.marker.nullable⟩

/-- The signature of the container. -/
def containerStub (c : Candidate) (d : ClassDecl) : Signature where
  owner := c.decl
  ownerName := c.owner
  scope := .owner
  name := d.containerName
  kind := .container

/-- The signature of the constant with the screen's key. -/
def keyStub (c : Candidate) : Signature where
  owner := c.decl
  ownerName := c.owner
  scope := .container
  name := keyName
  kind := .constant
  declaredType := some { name := stringType }

/-- The signature of the accessor for an argument of some type. -/
def accessorStub (c : Candidate) (type : TypeRef) : Signature where
  owner := c.decl
  ownerName := c.owner
  scope := .owner
  name := argName
  kind := .accessorProperty
  declaredType := some type
  visibility := .priv

/-- The signature of the function that makes the screen. An argument is its only parameter, and may
be left out if it is nullable. -/
def factoryStub (c : Candidate) (argument : Option TypeRef) : Signature where
  owner := c.decl
  ownerName := c.owner
  scope := .container
  name := factoryName
  kind := .factoryFunction
  declaredType := some { name := descriptorType }
  parameters :=
    argument.toList.map fun type => { name := argName, type, defaultNull := type.nullable }

/-- Adds the container, if the user wrote none and its name is free. -/
def addContainer (t : SymbolTable) (c : Candidate) (d : ClassDecl) :
    List SymbolId × SymbolTable :=
  if d.container.isNone && d.hasRoomForContainer &&
      (t.find? c.decl .owner d.containerName).isNone then
    t.insertAll [containerStub c d]
  else ([], t)

/-- Adds a member of the container, if there is a container and the name is free. -/
def addContainerMember (t : SymbolTable) (d : ClassDecl) (s : Signature) :
    List SymbolId × SymbolTable :=
  if d.hasRoomForContainer then t.addUndeclared d s else ([], t)

/-- Adds the accessor, if there is an argument and the name is free. -/
def addAccessor (t : SymbolTable) (c : Candidate) (d : ClassDecl) (argument : Option TypeRef) :
    List SymbolId × SymbolTable :=
  match argument with
  | some type => t.addUndeclared d (accessorStub c type)
  | none => ([], t)

/-- Adds the stubs of a candidate whose names are free, and lists their positions. -/
def add (t : SymbolTable) (c : Candidate) (d : ClassDecl) (v : Validation) :
    List SymbolId × SymbolTable :=
  let argument := argumentType c v
  -- each of the four sees in the table what those before it have added
  let (container, t) := addContainer t c d
  let (key, t) := addContainerMember t d (keyStub c)
  let (accessor, t) := addAccessor t c d argument
  let (factory, t) := addContainerMember t d (factoryStub c argument)
  (container ++ key ++ accessor ++ factory, t)

/-- The signatures that a candidate asks for beside what the user declared. -/
def wanted (c : Candidate) (d : ClassDecl) (v : Validation) : List Signature :=
  (if d.container.isNone && d.hasRoomForContainer then [containerStub c d] else []) ++
  (if d.hasRoomForContainer && !d.declares keyName .container then [keyStub c] else []) ++
  (if d.declares argName .owner then [] else (argumentType c v).toList.map (accessorStub c)) ++
  (if d.hasRoomForContainer && !d.declares factoryName .container then
    [factoryStub c (argumentType c v)]
  else [])

end Stubs

end ScreenSynthesis
