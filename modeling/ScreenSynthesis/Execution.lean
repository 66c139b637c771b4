import ScreenSynthesis.Controller
import ScreenSynthesis.Session

/-!
# Execution

The filled bodies of a session can be run: an executor reads keys, makes screens, reads arguments
back and binds views, just as the code would that is generated from those bodies.
-/

namespace ScreenSynthesis

/-- A session whose bodies are filled, with the binders that its members may use. -/
structure Executor where
  session : Session
  binders : BinderRegistry

namespace Executor

/-- An executor for a session, which must have come to its last phase. -/
def new (session : Session) (binders : BinderRegistry) : Except SynthesisError Executor := do
  session.requireAtLeast .execute .bodiesSynthesized
  return { session, binders }

/-- The body of an owner's member. -/
def body (e : Executor) (owner : QualifiedName) (scope : Scope) (member : String) :
    Except SynthesisError Body :=
  match (e.session.unit.lookup? owner).filter e.session.candidates.isMatched with
  | none => .error (.unknownOwner owner)
  | some decl =>
    match e.session.symbols.find? decl scope member with
    | none => .error (.memberNotSynthesized owner member)
    | some symbol =>
      match symbol.body with
      | none => .error (.bodyNotFilled owner member)
      | some body => .ok body

/-- The value of the synthesized key of an owner. -/
def key (e : Executor) (owner : QualifiedName) : Except SynthesisError String := do
  match ← e.body owner .container keyName with
  | .stringLiteral value => return value
  | _ => throw (.memberNotSynthesized owner keyName)

/-- The arguments of a new screen: what fits the factory's parameter, under the screen's key. -/
def argumentsFor (owner : QualifiedName) (key : String) :
    Option TypeRef → Option Parcel → Except SynthesisError Bundle
  | none, none => .ok {}
  | none, some _ => .error (.unexpectedArgument owner)
  | some type, none => if type.nullable then .ok {} else .error (.argumentRequired owner)
  | some type, some parcel =>
    if parcel.isOf type.name.text then .ok (({} : Bundle).put key parcel).2
    else .error (.argumentType owner type.name parcel.typeName)

/-- Runs the factory of an owner. -/
def createScreen (e : Executor) (owner : QualifiedName) (argument : Option Parcel) :
    Except SynthesisError NavigationDescriptor := do
  match ← e.body owner .container factoryName with
  | .createScreen key class_ parameter =>
    let arguments ← argumentsFor owner key parameter argument
    return { key, className := class_.text, arguments }
  | _ => throw (.memberNotSynthesized owner factoryName)

/-- Reads the argument of an owner's controller. Only a nullable argument may be absent. -/
def readArgument (e : Executor) (owner : QualifiedName) (c : Controller) :
    Except SynthesisError (Option Parcel) := do
  match ← e.body owner .owner argName with
  | .readArgument key type nullable =>
    if nullable then return c.arguments.getTyped? key type.text
    else
      match c.arguments.require key type.text with
      | .ok parcel => return some parcel
      | .error fault => throw (.fault fault)
  | _ => throw (.memberNotSynthesized owner argName)

/-- Reads the binding of an owner's controller, which is made at the first access. -/
def readBinding (e : Executor) (owner : QualifiedName) (c : Controller) :
    Except SynthesisError (BoundView × Controller) := do
  match ← e.body owner .owner bindingName with
  | .lazyBind binding =>
    match e.binders.get binding.text >>= c.bindOnce with
    | .ok result => return result
    | .error fault => throw (.fault fault)
  | _ => throw (.memberNotSynthesized owner bindingName)

end Executor

end ScreenSynthesis
