import ScreenSynthesis.Codec.Decoder

/-!
# Records

The fields of a record may stand in any order, so each is looked up by name, and `settle` reports
the first thing that is wrong in the order of the document. A record may also be written as the
array of its fields, except in YAML; there, a plain scalar that stands for nothing is a record
without fields.
-/

namespace ScreenSynthesis

open Json (Document)

/-- The fields of a record as they stand in a document. -/
structure Fields where
  entries : List (String × Document)
  /-- Whether the text makes sense up to the end of the record. -/
  closed : Bool := true
  /-- The error when a required field is not there. -/
  lacking : String → DecodeError := .missingField
  /-- The error for elements behind the last field. -/
  surplus : Option DecodeError := none

/-- The outcome for a field that a record knows: its name, and what went wrong with it. -/
abbrev FieldOutcome := String × Option DecodeError

/-- A field of a record: its value, unless it is absent. -/
structure Field (α : Type) where
  name : String
  reading : Option (Except DecodeError α)

namespace Field

variable {α : Type}

/-- A field whose value was read. -/
def read (name : String) (a : α) : Field α := ⟨name, some (.ok a)⟩

/-- What went wrong with the field. -/
def outcome (field : Field α) : FieldOutcome :=
  (field.name, match field.reading with
    | some (.error e) => some e
    | _ => none)

/-- The value of the field, or the one that stands for an absent field. -/
def getD (field : Field α) (default : α) : α :=
  match field.reading with
  | some (.ok a) => a
  | _ => default

end Field

namespace Fields

/-- The record of `what` whose fields are the items of an array. -/
def positional (what : String) (fields : List String) (items : List Document) (closed : Bool)
    (surplus : DecodeError) : Fields where
  entries := fields.zip items
  closed := closed
  lacking field := .wrongLength (fields.idxOf field)
    (what ++ " with " ++ DecodeError.elements fields.length)
  surplus := if fields.length < items.length then some surplus else none

/-- The fields of the record type `typeName`, which are declared in the order of `fields`. -/
def ofDocument (origin : Origin) (typeName : String) (fields : List String) :
    Document → Except DecodeError Fields
  | .object members closed => .ok { entries := members, closed := closed }
  | .array items closed =>
    let what := "struct " ++ typeName
    match origin with
    | .text => .ok (positional what fields items closed .malformed)
    | .value =>
      .ok (positional what fields items closed (.wrongLength items.length "fewer elements in array"))
    | .yaml => .error (.wrongType .sequence what)
  | .plain s =>
    if Yaml.isNull s then .ok { entries := [] }
    else .error (.wrongType (.text s) ("struct " ++ typeName))
  | d => .error (d.mismatch ("struct " ++ typeName))

/-- The field with a name. -/
def field {α : Type} (fields : Fields) (origin : Origin) (name : String) (decode : Decoder α) :
    Field α :=
  ⟨name, (fields.entries.lookup name).map (decode origin)⟩

/-- A required field. -/
def require {α : Type} (fields : Fields) (field : Field α) : Except DecodeError α :=
  match field.reading with
  | some reading => reading
  | none => .error (fields.lacking field.name)

/-- Goes through the entries in the order of the document and stops at the first that is wrong: a
field given twice, a field whose value is no good, or a member that is no field. Such members are
refused if the record is `strict`, and passed over otherwise. -/
def check (known : List FieldOutcome) (strict : Bool) (seen : List String) :
    List (String × Document) → Except DecodeError Unit
  | [] => .ok ()
  | (key, d) :: rest =>
    match known.lookup key with
    | some error? =>
      if key ∈ seen then .error (.duplicateField key)
      else match error? with
        | some e => .error e
        | none => check known strict (key :: seen) rest
    | none =>
      if strict then .error (.unknownField key (known.map (·.1)))
      else if d.isSound then check known strict seen rest
      else .error .malformed

/-- The first thing that is wrong with a record whose `known` fields turned out like this. -/
def settle (fields : Fields) (known : List FieldOutcome) (strict : Bool := false) :
    Except DecodeError Unit := do
  check known strict [] fields.entries
  if ¬ fields.closed then .error .malformed
  match fields.surplus with
  | some e => .error e
  | none => .ok ()

/-! ## Reading back what was written -/

section

variable {α : Type} {known : List FieldOutcome} {strict : Bool} {members : List (String × Json)}

/-- The fields of a record that was written with some members. -/
def written (members : List (String × Json)) : Fields := { entries := Document.ofMembers members }

theorem ofDocument_object (typeName : String) (names : List String)
    (members : List (String × Json)) :
    ofDocument .value typeName names (.ofJson (.object members)) = .ok (written members) := rfl

/-- A field is read back if what was written under its name is. -/
theorem field_written {decode : Decoder α} {name : String} {v : Json} {a : α}
    (hv : members.lookup name = some v) (ha : Decoder.ofJson decode v = .ok a) :
    (written members).field .value name decode = .read name a := by
  rw [field, written, Document.lookup_ofMembers, hv, Field.read, ← ha]
  rfl

/-- Nothing is wrong with distinct members that are all known and read. -/
theorem check_ofMembers {seen : List String}
    (hknown : ∀ m ∈ members, known.lookup m.1 = some none)
    (hnodup : (members.map Prod.fst).Nodup) (hseen : ∀ m ∈ members, m.1 ∉ seen) :
    check known strict seen (Document.ofMembers members) = .ok () := by
  -- what was seen grows by one name at each step, and stays apart from the names to come
  induction members generalizing seen with
  | nil => rfl
  | cons m rest ih =>
    obtain ⟨key, v⟩ := m
    obtain ⟨hkey, hknown⟩ := List.forall_mem_cons.1 hknown
    obtain ⟨hfresh, hseen⟩ := List.forall_mem_cons.1 hseen
    obtain ⟨hkeys, hnodup⟩ := List.nodup_cons.1 hnodup
    rw [Document.ofMembers, check, hkey]
    simp only [if_neg hfresh]
    refine ih hknown hnodup fun m hm => ?_
    rw [List.mem_cons, not_or]
    exact ⟨fun heq => hkeys (List.mem_map.2 ⟨m, hm, heq⟩), hseen m hm⟩

/-- Fields that were all read turn out well under their names. -/
theorem lookup_map_none {names : List String} {name : String} (h : name ∈ names) :
    (names.map fun n => ((n, none) : FieldOutcome)).lookup name = some none := by
  induction names with
  | nil => exact nomatch h
  | cons n names ih =>
    rw [List.map_cons, List.lookup_cons]
    -- the first entry of a name is as good as any, as all hold the same
    cases heq : name == n with
    | true => rfl
    | false => exact ih ((List.mem_cons.1 h).resolve_left fun h => by simp [h] at heq)

/-- A record whose members are its fields is in order if each field is read. -/
theorem settle_written
    (hknown : (members.map Prod.fst).map (fun name => ((name, none) : FieldOutcome)) = known)
    (hnodup : (members.map Prod.fst).Nodup) : (written members).settle known strict = .ok () := by
  have hcheck : check known strict [] (written members).entries = .ok () :=
    check_ofMembers (fun m hm => hknown ▸ lookup_map_none (List.mem_map_of_mem hm)) hnodup
      fun _ _ => List.not_mem_nil
  rw [settle, hcheck]
  rfl

end

end Fields

end ScreenSynthesis
