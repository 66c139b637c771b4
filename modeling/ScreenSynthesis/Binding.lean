import ScreenSynthesis.Config
import ScreenSynthesis.Stubs
import ScreenSynthesis.Text.UpperCase

/-!
# Bindings

The build turns a layout into a binding type with a derived name. An owner that delegates to a
layout gets a property for its binding, but only if the binding type exists. Each missing
precondition is common, so none is reported.
-/

namespace ScreenSynthesis

/-- The name of the property for an owner's binding. -/
def bindingName : String := "binding"

namespace Binding

/-- What every name of a binding type ends with. -/
def suffix : List Char := "Binding".toList

/-- The receiver of a layout in the path that names it. -/
def layoutReceiver : List Char := "layout".toList

/-- A word with its first character in upper case, the rest as it was. -/
def capitalize : List Char → List Char
  | [] => []
  | c :: cs => Text.upperCase c ++ cs

/-- The words of a layout identifier, capitalized and put together. -/
def stem (layoutId : List Char) : List Char :=
  (Text.pieces '_' layoutId).flatMap capitalize

/-- The name of the binding type of a layout, such as `FragmentMainBinding` for
`fragment_main`. -/
def typeName (layoutId : String) : String := String.ofList (stem layoutId.toList ++ suffix)

/-- The last part of a dotted path. -/
def lastPart (path : List Char) : List Char :=
  match Text.splitLast '.' path with
  | some (_, last) => last
  | none => path

/-- The layout that a path such as `R.layout.main` names. -/
def layoutOfPath? (path : String) : Option String :=
  match Text.splitLast '.' path.toList with
  | some (receiver, id) =>
    if lastPart receiver = layoutReceiver ∧ id ≠ [] then some (String.ofList id) else none
  | none => none

/-- The layout that the first argument of a declaration's delegation names. -/
def layoutId? (d : ClassDecl) : Option String :=
  match d.delegation with
  | some call =>
    match call.arguments.head? with
    | some (.path path) => layoutOfPath? path
    | _ => none
  | none => none

/-- The type with this name in a namespace, if the namespace is not blank and the type is known. -/
def resolve? (knows : QualifiedName → Bool) (ns : Option String) (name : String) :
    Option QualifiedName :=
  match ns with
  | some ns =>
    let ns := Text.trim ns
    if ns = "" then none
    else
      let type := QualifiedName.inPackage ns name
      if knows type then some type else none
  | none => none

/-- The binding type of a declaration's layout, if there is a layout and the type is known. -/
def type? (config : ScreenConfig) (knows : QualifiedName → Bool) (d : ClassDecl) :
    Option QualifiedName :=
  match config.bindingNamespace?, layoutId? d with
  | some ns, some id => resolve? knows (some ns) (typeName id)
  | _, _ => none

/-- The signature of a property for a binding of some type. -/
def stub (c : Candidate) (type : QualifiedName) : Signature where
  owner := c.decl
  ownerName := c.owner
  scope := .owner
  name := bindingName
  kind := .conditionalAccessorProperty
  declaredType := some { name := type }
  visibility := .priv

/-- Adds the binding of a candidate if nothing is missing for it and its name is free. -/
def add (config : ScreenConfig) (knows : QualifiedName → Bool) (t : SymbolTable) (c : Candidate)
    (d : ClassDecl) (v : Validation) : List SymbolId × SymbolTable :=
  if v.onController then
    match type? config knows d with
    | some type => t.addUndeclared d (stub c type)
    | none => ([], t)
  else ([], t)

/-- The signature of the binding that a candidate asks for, unless the user declared its name. -/
def wanted (config : ScreenConfig) (knows : QualifiedName → Bool) (c : Candidate) (d : ClassDecl)
    (v : Validation) : List Signature :=
  if v.onController && !d.declares bindingName .owner then
    (type? config knows d).toList.map (stub c)
  else []

/-- Empty words disappear, and only the first character of a word changes. -/
example : typeName "fragment_main" = "FragmentMainBinding" ∧ typeName "__aB_ßx" = "ABSSxBinding" := by
  decide

/-- The path must end in a receiver `layout` and an identifier. -/
example : layoutOfPath? "com.app.R.layout.main" = some "main" ∧ layoutOfPath? "layout.x" = some "x" ∧
    layoutOfPath? "R.id.main" = none ∧ layoutOfPath? "R.layout." = none := by decide

end Binding

end ScreenSynthesis
