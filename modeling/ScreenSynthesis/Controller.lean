import ScreenSynthesis.Binder
import ScreenSynthesis.Bundle

/-!
# Controllers and screens

A controller is an instance of an owner: it holds the arguments it was made with, the root view
once one is attached, and its binding once there is one. A navigation descriptor names a screen and
makes fresh controllers for it.
-/

namespace ScreenSynthesis

/-- An instance of an owner. -/
structure Controller where
  className : String
  arguments : Bundle := {}
  rootView : Option View := none
  binding : Option BoundView := none
deriving Inhabited

namespace Controller

/-- Attaches a root view, in place of one that was attached before. -/
def attachView (c : Controller) (root : View) : Controller := { c with rootView := some root }

/-- The root view, which must have been attached. -/
def requireRootView (c : Controller) : Except MemberFault View :=
  match c.rootView with
  | some root => .ok root
  | none => .error (.noRootView c.className)

/-- Puts an argument under a key, and gives back the one that was there. -/
def putArgument (c : Controller) (key : String) (p : Parcel) : Option Parcel × Controller :=
  let (replaced, arguments) := c.arguments.put key p
  (replaced, { c with arguments })

/-- Whether there is a binding. -/
def isBound (c : Controller) : Bool := c.binding.isSome

/-- The controller's binding. The first time it is made by a binder and kept; a binder that fails
leaves the controller as it was. -/
def bindOnce (c : Controller) (b : LayoutBinder) : Except MemberFault (BoundView × Controller) :=
  match c.binding with
  | some bound => .ok (bound, c)
  | none => do
    let root ← c.requireRootView
    let bound ← b.bind root
    return (bound, { c with binding := some bound })

end Controller

/-- A screen: its key, and what its controllers are made of. -/
structure NavigationDescriptor where
  key : String
  className : String
  arguments : Bundle := {}
deriving Inhabited

namespace NavigationDescriptor

/-- A fresh controller with its own copy of the arguments. -/
def create (d : NavigationDescriptor) : Controller :=
  { className := d.className, arguments := d.arguments }

/-- The descriptor on one line, for a look at it. -/
def summary (d : NavigationDescriptor) : String :=
  "NavigationDescriptor \x7b key: " ++ Text.quote d.key ++ ", .. \x7d"

end NavigationDescriptor

end ScreenSynthesis
