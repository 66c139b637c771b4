import ScreenSynthesis.Fault
import ScreenSynthesis.SortedMap
import ScreenSynthesis.Text.Quoted
import ScreenSynthesis.View

/-!
# Binders

A binder stands for a binding type: it looks up every view that the type's layout lists, once, and
hands back what it found. A registry keeps one binder for each binding type.
-/

namespace ScreenSynthesis

/-- The views of a layout, found under a root. -/
structure BoundView where
  bindingType : String
  root : View
  views : List (String × View)
deriving Repr, Inhabited

/-- The view that was found for an identifier of the layout. -/
def BoundView.view? (b : BoundView) (id : String) : Option View := b.views.lookup id

/-- The binder of a binding type whose layout lists some views. -/
structure LayoutBinder where
  bindingType : String
  viewIds : List String
deriving DecidableEq, Repr, Inhabited

namespace LayoutBinder

/-- Looks up each listed view; the first that is missing is a fault. -/
def findAll (root : View) : List String → Except MemberFault (List (String × View))
  | [] => .ok []
  | id :: ids =>
    match root.find? id with
    | some v => (findAll root ids).map ((id, v) :: ·)
    | none => .error (.missingView id root.id)

/-- Binds the layout against a root view. -/
def bind (b : LayoutBinder) (root : View) : Except MemberFault BoundView :=
  (findAll root b.viewIds).map fun views => { bindingType := b.bindingType, root, views }

end LayoutBinder

/-- Binders under the names of their binding types. -/
structure BinderRegistry where
  binders : SortedMap LayoutBinder := .empty
deriving Inhabited

namespace BinderRegistry

/-- Registers a binder, in place of one with the same binding type. -/
def register (r : BinderRegistry) (b : LayoutBinder) : BinderRegistry :=
  ⟨r.binders.put b.bindingType b⟩

/-- The binder of a binding type. -/
def get (r : BinderRegistry) (bindingType : String) : Except MemberFault LayoutBinder :=
  match r.binders.get? bindingType with
  | some b => .ok b
  | none => .error (.unknownBinder bindingType)

/-- The registry on one line, for a look at it. -/
def summary (r : BinderRegistry) : String :=
  "BinderRegistry \x7b binders: [" ++ ", ".intercalate (r.binders.keys.map Text.quote) ++ "] \x7d"

end BinderRegistry

end ScreenSynthesis
