import ScreenSynthesis.Json.Number

/-!
# Values of the interchange format

Units, reports and the payloads of arguments are exchanged as values of one format: null, booleans,
numbers, strings, arrays, and objects with named members. `Json.same` is equality of values; the
order of an object's members has no part in it. `Json.namesDistinct` holds for the values of which
each member can be told by its name.
-/

namespace ScreenSynthesis

/-- A value. -/
inductive Json where
  | null
  | bool (b : Bool)
  | number (n : Json.Number)
  | string (s : String)
  | array (items : List Json)
  | object (members : List (String × Json))
deriving Repr, Inhabited

namespace Json

/-- A natural number as a value. -/
def nat (n : Nat) : Json := .number (.whole n)

/-- Null for `none`. -/
def option {α : Type} (encode : α → Json) : Option α → Json
  | some a => encode a
  | none => .null

theorem string_ne_null {s : String} : Json.string s ≠ .null := nofun

theorem object_ne_null {members : List (String × Json)} : Json.object members ≠ .null := nofun

/-- The member named `key`. -/
def member? (key : String) : Json → Option Json
  | .object members => members.lookup key
  | _ => none

mutual

/-- Whether two values are equal. -/
def same : Json → Json → Bool
  | .null, .null => true
  | .bool a, .bool b => a = b
  | .number a, .number b => a.same b
  | .string a, .string b => a = b
  | .array xs, .array ys => sameItems xs ys
  | .object ms, .object ns => ms.length = ns.length && sameMembers ms ns
  | _, _ => false

/-- Whether two arrays are equal, item by item. -/
def sameItems : List Json → List Json → Bool
  | [], [] => true
  | x :: xs, y :: ys => x.same y && sameItems xs ys
  | _, _ => false

/-- Whether every member of the first object is a member of the second. -/
def sameMembers : List (String × Json) → List (String × Json) → Bool
  | [], _ => true
  | (key, x) :: ms, ns =>
    (match ns.lookup key with
      | some y => x.same y
      | none => false) && sameMembers ms ns

end

mutual

/-- Whether no object has two members of one name. -/
def namesDistinct : Json → Bool
  | .array items => allNamesDistinct items
  | .object members => (members.map (·.1)).Nodup && membersNamesDistinct members
  | _ => true

def allNamesDistinct : List Json → Bool
  | [] => true
  | v :: vs => v.namesDistinct && allNamesDistinct vs

def membersNamesDistinct : List (String × Json) → Bool
  | [] => true
  | (_, v) :: ms => v.namesDistinct && membersNamesDistinct ms

end

theorem namesDistinct_object_iff {members : List (String × Json)} :
    (Json.object members).namesDistinct = true ↔
      (members.map (·.1)).Nodup ∧ membersNamesDistinct members = true := by
  rw [namesDistinct, Bool.and_eq_true, decide_eq_true_iff]

end Json

end ScreenSynthesis
