import ScreenSynthesis.Fault
import ScreenSynthesis.Json.Basic
import ScreenSynthesis.SortedMap

/-!
# Bundles of arguments

Arguments travel as parcels, values tagged with the name of their type. A bundle holds parcels
under keys. A required parcel is missing or mistyped as a fault; an optional one just reads as
absent.
-/

namespace ScreenSynthesis

/-- A value tagged with the name of its type. -/
structure Parcel where
  typeName : String
  payload : Json
  /-- No object in the payload has two members of one name. -/
  distinct : payload.namesDistinct = true := by decide
deriving Repr

namespace Parcel

instance : Inhabited Parcel := ⟨{ typeName := "", payload := .null }⟩

/-- Whether the parcel holds a value of a type. -/
def isOf (p : Parcel) (type : String) : Bool := p.typeName = type

/-- Whether two parcels hold equal values of one type. -/
def same (p q : Parcel) : Bool := p.typeName = q.typeName && p.payload.same q.payload

end Parcel

/-- Parcels under keys. -/
structure Bundle where
  entries : SortedMap Parcel := .empty
deriving Inhabited

namespace Bundle

/-- The parcel under a key. -/
def get? (b : Bundle) (key : String) : Option Parcel := b.entries.get? key

/-- The bundle with a parcel put under a key, and the parcel that was there. -/
def put (b : Bundle) (key : String) (p : Parcel) : Option Parcel × Bundle :=
  (b.get? key, ⟨b.entries.put key p⟩)

/-- Whether there is a parcel under a key. -/
def containsKey (b : Bundle) (key : String) : Bool := (b.get? key).isSome

/-- The keys in increasing order. -/
def keys (b : Bundle) : List String := b.entries.keys

/-- How many parcels there are. -/
def size (b : Bundle) : Nat := b.entries.size

/-- The parcel under a key, which must be there and have a type. -/
def require (b : Bundle) (key type : String) : Except MemberFault Parcel :=
  match b.get? key with
  | some p =>
    if p.isOf type then .ok p else .error (.argumentTypeMismatch key type p.typeName)
  | none => .error (.missingArgument key)

/-- The parcel under a key, if it has a type. -/
def getTyped? (b : Bundle) (key type : String) : Option Parcel :=
  (b.get? key).filter (·.isOf type)

/-- Whether two bundles have the same keys with equal parcels. -/
def same (b c : Bundle) : Bool :=
  b.size = c.size &&
    (b.entries.entries.zip c.entries.entries).all fun (x, y) => x.1 = y.1 && x.2.same y.2

end Bundle

end ScreenSynthesis
