import ScreenSynthesis.Bundle
import ScreenSynthesis.Codec.Fields
import ScreenSynthesis.Config
import ScreenSynthesis.View

/-!
# The format of configuration and of values at run time

How configuration, parcels, bundles and views are written and read. A bundle is an object with the
keys of its parcels; of two parcels under one key the last one counts.
-/

namespace ScreenSynthesis

open Json (Document)

namespace ScreenConfig

/-- The value of a configuration. -/
def toJson (c : ScreenConfig) : Json :=
  .object [("namespace", .option .string c.appNamespace),
    ("binding_package", .string c.bindingPackage)]

/-- A configuration. It may leave out any field, but may not have others. -/
def decode : Decoder ScreenConfig := fun origin d => do
  let fields ← Fields.ofDocument origin "ScreenConfig" ["namespace", "binding_package"] d
  let appNamespace := fields.field origin "namespace" (.option .string)
  let bindingPackage := fields.field origin "binding_package" .string
  fields.settle [appNamespace.outcome, bindingPackage.outcome] true
  return {
    appNamespace := appNamespace.getD none
    bindingPackage := bindingPackage.getD defaultBindingPackage }

end ScreenConfig

namespace Parcel

/-- The value of a parcel. -/
def toJson (p : Parcel) : Json :=
  .object [("type_name", .string p.typeName), ("payload", p.payload)]

/-- A parcel. Both fields are required, and the payload may be null. -/
def decode : Decoder Parcel := fun origin d => do
  let fields ← Fields.ofDocument origin "Parcel" ["type_name", "payload"] d
  let typeName := fields.field origin "type_name" .string
  let payload := fields.field origin "payload" .json
  fields.settle [typeName.outcome, payload.outcome]
  let typeName ← fields.require typeName
  let ⟨payload, distinct⟩ ← fields.require payload
  return { typeName, payload, distinct }

end Parcel

namespace Bundle

/-- The value of a bundle. -/
def toJson (b : Bundle) : Json :=
  .object (b.entries.entries.map fun (key, p) => (key, p.toJson))

/-- A bundle. -/
def decode : Decoder Bundle
  | origin, .object members closed => do
    let entries ← members.foldlM (fun (m : SortedMap Parcel) (key, d) => do
      return m.put key (← Parcel.decode origin d)) .empty
    if closed then .ok ⟨entries⟩ else .error .malformed
  | _, d => .error (d.mismatch "a map")

end Bundle

namespace View

mutual

/-- The value of a view. -/
def toJson : View → Json
  | ⟨id, children⟩ => .object [("id", .string id), ("children", .array (toJsonAll children))]

def toJsonAll : List View → List Json
  | [] => []
  | v :: vs => v.toJson :: toJsonAll vs

end

/-- A view with at most `depth` containers nested in it. -/
def decodeWithin : Nat → Decoder View
  | 0, _, d => .error (d.mismatch "struct View")
  | depth + 1, origin, d => do
    let fields ← Fields.ofDocument origin "View" ["id", "children"] d
    let id := fields.field origin "id" .string
    let children := fields.field origin "children" (.list (decodeWithin depth))
    fields.settle [id.outcome, children.outcome]
    return { id := ← fields.require id, children := children.getD [] }

/-- A view; it has no children unless they are given. -/
def decode : Decoder View := fun origin d => decodeWithin (d.height + 1) origin d

end View

end ScreenSynthesis
