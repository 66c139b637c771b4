import ScreenSynthesis.Codec.Error
import ScreenSynthesis.Json.Reader
import ScreenSynthesis.Name
import ScreenSynthesis.Yaml.Reader

/-!
# Decoders

A decoder takes a document to a value or says why it cannot. Documents of all three origins go
through the same decoders. In YAML a plain scalar is a text as it is written, unless it stands for
nothing; then it is an empty list and an absent option, and no text at all.
-/

namespace ScreenSynthesis

open Json (Document)

/-- What a document was read from. -/
inductive Origin where
  /-- A text of the interchange format. -/
  | text
  /-- A value of the interchange format. -/
  | value
  /-- A text in YAML. -/
  | yaml
deriving DecidableEq, Repr

/-- How a document of some origin is read as a value. -/
abbrev Decoder (α : Type) := Origin → Document → Except DecodeError α

namespace Decoder

/-- What a value of the interchange format encodes. -/
def ofJson {α : Type} (decode : Decoder α) (value : Json) : Except DecodeError α :=
  decode .value (.ofJson value)

/-- What a text of the interchange format encodes. Nothing may follow its value. -/
def ofText {α : Type} (decode : Decoder α) (s : String) : Except DecodeError α := do
  let reading := Json.read s
  let value ← decode .text reading.document
  if reading.complete then .ok value else .error .malformed

/-- What a text in YAML encodes. No mapping in it may have a key twice. -/
def ofYaml {α : Type} (decode : Decoder α) (s : String) : Except DecodeError α :=
  match (Yaml.read s).filter Yaml.keysDistinct with
  | some d => decode .yaml d
  | none => .error .malformed

/-! ## Scalars -/

/-- A text. -/
def string : Decoder String
  | _, .string s => .ok s
  | _, .plain s =>
    if Yaml.isNull s then .error (.wrongType .null "a string") else .ok s
  | _, d => .error (d.mismatch "a string")

/-- A type name. -/
def name : Decoder QualifiedName := fun origin d => (string origin d).map QualifiedName.mk

/-- A truth value. -/
def bool : Decoder Bool
  | _, .bool b => .ok b
  | _, d => .error (d.mismatch "a boolean")

/-- A whole number that `inRange` accepts. -/
def whole (inRange : Int → Bool) (expected : String) : Decoder Int
  | _, .number (.whole n) =>
    if inRange n then .ok n else .error (.wrongValue (.integer n) expected)
  -- quotes make no difference to a number in YAML
  | .yaml, .plain s | .yaml, .string s =>
    match (Yaml.integer? s).filter inRange with
    | some n => .ok n
    | none => .error (.wrongType (.text s) expected)
  | _, d => .error (d.mismatch expected)

/-- A line or a column. -/
def word32 : Decoder UInt32 := fun origin d =>
  (whole (fun n => 0 ≤ n && n.toNat < UInt32.size) "u32" origin d).map fun n =>
    UInt32.ofNat n.toNat

/-- A signed number of 64 bits. -/
def int64 : Decoder Int64 := fun origin d =>
  (whole Json.fitsSigned "i64" origin d).map Int64.ofInt

/-- A value of the interchange format, kept as it is but for repeated members of objects. -/
def json : Decoder { v : Json // v.namesDistinct = true } := fun _ d =>
  (d.toJson?.pmap Subtype.mk fun _ h => Document.namesDistinct_of_toJson? d h).elim
    (.error .malformed) .ok

/-! ## Options and lists -/

/-- A value that may be absent. -/
def option {α : Type} (decode : Decoder α) : Decoder (Option α)
  | _, .null => .ok none
  | origin, .plain s =>
    if Yaml.isNull s then .ok none else (decode origin (.plain s)).map some
  | origin, d => (decode origin d).map some

/-- A list; its items are decoded in order. -/
def list {α : Type} (decode : Decoder α) : Decoder (List α)
  | origin, .array items closed => do
    let values ← items.mapM (decode origin)
    if closed then .ok values else .error .malformed
  | _, .plain s =>
    if Yaml.isNull s then .ok [] else .error (.wrongType (.text s) "a sequence")
  | _, d => .error (d.mismatch "a sequence")

/-! ## Choices -/

/-- The choice with a name. -/
def choose {α : Type} (choices : List (String × α)) (name : String) : Except DecodeError α :=
  match choices.lookup name with
  | some a => .ok a
  | none => .error (.unknownVariant name (choices.map (·.1)))

/-- Nothing at all. -/
def nothing : Decoder Unit
  | _, .null => .ok ()
  | _, .plain s => if Yaml.isNull s then .ok () else .error (.wrongType (.text s) "unit")
  | _, d => .error (d.mismatch "unit")

/-- One of some names, or an object whose single member has that name and holds nothing. -/
def choice {α : Type} (choices : List (String × α)) : Decoder α
  | _, .string s | _, .plain s => choose choices s
  -- the number of members is known of a value from the start, of a text only at its end
  | .value, .object [(key, d)] _ => do
    let a ← choose choices key
    nothing .value d
    return a
  | .value, .object _ _ => .error (.wrongValue .map "map with a single key")
  | .value, d => .error (d.mismatch "string or map")
  | origin, .object ((key, d) :: rest) closed => do
    let a ← choose choices key
    nothing origin d
    if rest.isEmpty && closed then .ok a else .error .malformed
  | _, _ => .error .malformed

/-! ## Reading back what was written -/

/-- Whether a decoder undoes an encoder: every value is read back as it was. -/
def Undoes {α : Type} (decode : Decoder α) (encode : α → Json) : Prop :=
  ∀ a, ofJson decode (encode a) = .ok a

/-- A number in range is read as it is. -/
theorem whole_number {inRange : Int → Bool} {n : Int} (expected : String) (h : inRange n = true) :
    whole inRange expected .value (.number (.whole n)) = .ok n := by
  simp [whole, h]

/-- Every line and every column is in range. -/
theorem word32_number (v : UInt32) : word32 .value (.number (.whole v.toNat)) = .ok v := by
  have h := v.toNat_lt
  rw [word32, whole_number]
  · simp [Except.map]
  · simp only [Bool.and_eq_true, decide_eq_true_eq]
    exact ⟨by omega, h⟩

/-- Every signed number of 64 bits is in range. -/
theorem int64_number (v : Int64) : int64 .value (.number (.whole v.toInt)) = .ok v := by
  have hlow := Int64.le_toInt v
  have hhigh := Int64.toInt_lt v
  rw [int64, whole_number]
  · simp [Except.map]
  · simp only [Json.fitsSigned, Json.signedBound, Bool.and_eq_true, decide_eq_true_eq]
    constructor <;> omega

/-- A list is read back if each of its items is. -/
theorem list_array {α : Type} {decode : Decoder α} {encode : α → Json} {as : List α}
    (h : ∀ a ∈ as, ofJson decode (encode a) = .ok a) :
    ofJson (list decode) (.array (as.map encode)) = .ok as := by
  have hitems : (Document.ofItems (as.map encode)).mapM (decode .value) = .ok as := by
    induction as with
    | nil => rfl
    | cons a as ih =>
      obtain ⟨ha, has⟩ := List.forall_mem_cons.1 h
      rw [ofJson] at ha
      rw [List.map_cons, Document.ofItems, List.mapM_cons, ih has, ha]
      rfl
  rw [ofJson, Document.ofJson, list, hitems]
  rfl

theorem Undoes.list {α : Type} {decode : Decoder α} {encode : α → Json} (h : decode.Undoes encode) :
    (list decode).Undoes fun as => .array (as.map encode) :=
  fun _ => list_array fun a _ => h a

/-- An option is read back if no value is written like an absent one. -/
theorem Undoes.option {α : Type} {decode : Decoder α} {encode : α → Json}
    (h : decode.Undoes encode) (hnull : ∀ a, encode a ≠ .null) :
    (option decode).Undoes (Json.option encode) := by
  intro value
  cases value with
  | none => rfl
  | some a =>
    have ha := h a
    rw [ofJson] at ha
    rw [ofJson, Json.option]
    -- only null is read as an absent value
    cases hv : encode a with
    | null => exact absurd hv (hnull a)
    | bool _ | number _ | string _ | array _ | object _ =>
      rw [hv, Document.ofJson] at ha
      rw [Document.ofJson, Decoder.option, ha]
      · rfl
      all_goals exact nofun

end Decoder

end ScreenSynthesis
