import ScreenSynthesis.Codec.Declarations
import ScreenSynthesis.Proofs.ValueFormat

/-!
# The format of units

Units are read back as they were written. Each record is read back because each of its fields is,
and an expression because its kind says which field it has.

## Key results

- `Expr.undoes_decode`: expressions are read back
- `UnitSource.undoes_decode`: the contents of units are read back
- `CompilationUnit.ofJson_decode_toJson`: units with distinct names are accepted again
- `formats_read_back`: all formats together, and that no member is written that is not read
-/

namespace ScreenSynthesis

open Json (Document)
open Fields (field_written settle_written)

/-! ## Texts and kinds -/

/-- Texts are read back by `Decoder.string`. -/
private theorem Decoder.undoes_string : Decoder.string.Undoes Json.string := fun _ => rfl

/-- Lists of names are read back. -/
private theorem undoes_names : (Decoder.list Decoder.name).Undoes namesToJson :=
  Decoder.Undoes.list fun _ => rfl

/-- The kind of a member is read back by its name. -/
private theorem MemberKind.undoes_choice :
    (Decoder.choice named).Undoes fun k => .string k.text := by
  intro k
  rw [Decoder.ofJson, Document.ofJson, Decoder.choice, Decoder.choose, lookup_text]

/-- The kind of a class is read back by its name. -/
private theorem ClassKind.undoes_choice :
    (Decoder.choice named).Undoes fun k => .string k.text := by
  intro k
  rw [Decoder.ofJson, Document.ofJson, Decoder.choice, Decoder.choose, lookup_text]

/-! ## Expressions -/

namespace Expr

/-- `decodeField` reads the only field of an expression back if what was written under its name
is. -/
private theorem decodeField_named {α : Type} {decode : Decoder α} {v : Json} {a : α}
    (typeName field : String) (ha : Decoder.ofJson decode v = .ok a) :
    decodeField typeName field decode (.named (Document.ofMembers [(field, v)])) = .ok a := by
  have hlookup : [(field, v)].lookup field = some v := List.lookup_cons_self
  have hfield := field_written hlookup ha
  -- the field was the only member, so nothing is left unread
  have hsettle : (Fields.written [(field, v)]).settle [(field, none)] = .ok () :=
    settle_written rfl (List.nodup_singleton field)
  rw [Fields.written] at hfield hsettle
  rw [decodeField, hfield]
  exact Result.bind_eq_ok_iff.2 ⟨(), hsettle, rfl⟩

/-- `Expr.decode` reads expressions back as they were written. -/
theorem undoes_decode : decode.Undoes toJson := by
  intro e
  -- one case for each kind: it says which field is read
  cases e with
  | classRef name =>
    show ofContent (.named (Document.ofMembers [("name", .string name)])) .classRef = _
    exact Result.bind_eq_ok_iff.2 ⟨name, decodeField_named _ _ rfl, rfl⟩
  | bool value =>
    show ofContent (.named (Document.ofMembers [("value", .bool value)])) .bool = _
    exact Result.bind_eq_ok_iff.2 ⟨value, decodeField_named _ _ rfl, rfl⟩
  | str value =>
    show ofContent (.named (Document.ofMembers [("value", .string value)])) .str = _
    exact Result.bind_eq_ok_iff.2 ⟨value, decodeField_named _ _ rfl, rfl⟩
  | int value =>
    have hvalue : Decoder.ofJson .int64 (.number (.whole value.toInt)) = .ok value :=
      Decoder.int64_number value
    show ofContent (.named (Document.ofMembers [("value", .number (.whole value.toInt))])) .int = _
    exact Result.bind_eq_ok_iff.2 ⟨value, decodeField_named _ _ hvalue, rfl⟩
  | path path =>
    show ofContent (.named (Document.ofMembers [("path", .string path)])) .path = _
    exact Result.bind_eq_ok_iff.2 ⟨path, decodeField_named _ _ rfl, rfl⟩
  | null => rfl

/-- `Decoder.option` tells an absent expression from the null one. -/
private theorem undoes_option : (Decoder.option decode).Undoes (Json.option toJson) :=
  undoes_decode.option fun e => by cases e <;> exact Json.object_ne_null

/-- `Expr.decode` reads the kind of an expression, and the field that this kind has. -/
theorem readsAll_decode : decode.ReadsAll toJson := by
  intro e key hkey
  cases e with
  | classRef _ =>
    have hkey : key ∈ ["kind", "name"] := hkey
    fin_cases hkey <;> exact ⟨.bool true, .bool false, nofun⟩
  | bool _ | str _ | int _ =>
    have hkey : key ∈ ["kind", "value"] := hkey
    fin_cases hkey <;> exact ⟨.bool true, .bool false, nofun⟩
  | path _ =>
    have hkey : key ∈ ["kind", "path"] := hkey
    fin_cases hkey <;> exact ⟨.bool true, .bool false, nofun⟩
  | null =>
    obtain rfl : key = "kind" := List.mem_singleton.1 hkey
    exact ⟨.bool true, .bool false, nofun⟩

end Expr

/-! ## Records -/

namespace SourceLocation

/-- `SourceLocation.decode` reads locations back, whose numbers fit in their words. -/
theorem undoes_decode : decode.Undoes toJson := by
  intro l
  rw [Decoder.ofJson, toJson, decode, Fields.ofDocument_object]
  refine Result.bind_eq_ok_iff.2 ⟨_, rfl, ?_⟩
  extract_lets file line column
  have hfile : file = .read "file" l.file := field_written rfl rfl
  have hline : line = .read "line" l.line := field_written rfl (Decoder.word32_number _)
  have hcolumn : column = .read "column" l.column := field_written rfl (Decoder.word32_number _)
  rw [hfile, hline, hcolumn]
  exact Result.bind_eq_ok_iff.2 ⟨(), settle_written rfl (by simp), rfl⟩

/-- `SourceLocation.decode` reads every member. -/
theorem readsAll_decode : decode.ReadsAll toJson := by
  intro l key hkey
  have hkey : key ∈ ["file", "line", "column"] := hkey
  fin_cases hkey <;> exact ⟨.bool true, .bool false, nofun⟩

end SourceLocation

namespace AttributeArgument

/-- `AttributeArgument.decode` reads arguments back, with a name or without. -/
theorem undoes_decode : decode.Undoes toJson := by
  intro a
  rw [Decoder.ofJson, toJson, decode, Fields.ofDocument_object]
  refine Result.bind_eq_ok_iff.2 ⟨_, rfl, ?_⟩
  extract_lets name value
  have hname : name = .read "name" a.name :=
    field_written rfl (Decoder.undoes_string.option (fun _ => Json.string_ne_null) _)
  have hvalue : value = .read "value" a.value := field_written rfl (Expr.undoes_decode _)
  rw [hname, hvalue]
  exact Result.bind_eq_ok_iff.2 ⟨(), settle_written rfl (by simp), rfl⟩

/-- `AttributeArgument.decode` reads every member. -/
theorem readsAll_decode : decode.ReadsAll toJson := by
  intro a key hkey
  have hkey : key ∈ ["name", "value"] := hkey
  fin_cases hkey <;> exact ⟨.bool true, .bool false, nofun⟩

end AttributeArgument

namespace AttributeLiteral

/-- `AttributeLiteral.decode` reads annotations back. -/
theorem undoes_decode : decode.Undoes toJson := by
  intro a
  rw [Decoder.ofJson, toJson, decode, Fields.ofDocument_object]
  refine Result.bind_eq_ok_iff.2 ⟨_, rfl, ?_⟩
  extract_lets name arguments
  have hname : name = .read "name" a.name := field_written rfl rfl
  have harguments : arguments = .read "arguments" a.arguments :=
    field_written rfl (AttributeArgument.undoes_decode.list _)
  rw [hname, harguments]
  exact Result.bind_eq_ok_iff.2 ⟨(), settle_written rfl (by simp), rfl⟩

/-- `AttributeLiteral.decode` reads every member. -/
theorem readsAll_decode : decode.ReadsAll toJson := by
  intro a key hkey
  have hkey : key ∈ ["name", "arguments"] := hkey
  fin_cases hkey <;> exact ⟨.bool true, .bool false, nofun⟩

end AttributeLiteral

namespace Member

/-- `Member.decode` reads members back, with a value or without. -/
theorem undoes_decode : decode.Undoes toJson := by
  intro m
  rw [Decoder.ofJson, toJson, decode, Fields.ofDocument_object]
  refine Result.bind_eq_ok_iff.2 ⟨_, rfl, ?_⟩
  extract_lets name kind value
  have hname : name = .read "name" m.name := field_written rfl rfl
  have hkind : kind = .read "kind" m.kind := field_written rfl (MemberKind.undoes_choice _)
  have hvalue : value = .read "value" m.value := field_written rfl (Expr.undoes_option _)
  rw [hname, hkind, hvalue]
  exact Result.bind_eq_ok_iff.2 ⟨(), settle_written rfl (by simp), rfl⟩

/-- `Member.decode` reads every member. -/
theorem readsAll_decode : decode.ReadsAll toJson := by
  intro m key hkey
  have hkey : key ∈ ["name", "kind", "value"] := hkey
  fin_cases hkey <;> exact ⟨.bool true, .bool false, nofun⟩

end Member

namespace Container

/-- `Container.decode` reads containers back. -/
theorem undoes_decode : decode.Undoes toJson := by
  intro c
  rw [Decoder.ofJson, toJson, decode, Fields.ofDocument_object]
  refine Result.bind_eq_ok_iff.2 ⟨_, rfl, ?_⟩
  extract_lets name members
  have hname : name = .read "name" c.name := field_written rfl rfl
  have hmembers : members = .read "members" c.members :=
    field_written rfl (Member.undoes_decode.list _)
  rw [hname, hmembers]
  exact Result.bind_eq_ok_iff.2 ⟨(), settle_written rfl (by simp), rfl⟩

/-- `Container.decode` reads every member. -/
theorem readsAll_decode : decode.ReadsAll toJson := by
  intro c key hkey
  have hkey : key ∈ ["name", "members"] := hkey
  fin_cases hkey <;> exact ⟨.bool true, .bool false, nofun⟩

end Container

namespace Delegation

/-- `Delegation.decode` reads delegations back. -/
theorem undoes_decode : decode.Undoes toJson := by
  intro c
  rw [Decoder.ofJson, toJson, decode, Fields.ofDocument_object]
  refine Result.bind_eq_ok_iff.2 ⟨_, rfl, ?_⟩
  extract_lets arguments
  have harguments : arguments = .read "arguments" c.arguments :=
    field_written rfl (Expr.undoes_decode.list _)
  rw [harguments]
  exact Result.bind_eq_ok_iff.2 ⟨(), settle_written rfl (by simp), rfl⟩

/-- `Delegation.decode` reads every member. -/
theorem readsAll_decode : decode.ReadsAll toJson := by
  intro c key hkey
  obtain rfl : key = "arguments" := List.mem_singleton.1 hkey
  exact ⟨.bool true, .bool false, nofun⟩

end Delegation

namespace ClassDecl

/-- `ClassDecl.decode` reads classes back, with all their nine fields. -/
theorem undoes_decode : decode.Undoes toJson := by
  intro c
  rw [Decoder.ofJson, toJson, decode, Fields.ofDocument_object]
  refine Result.bind_eq_ok_iff.2 ⟨_, rfl, ?_⟩
  extract_lets package name kind supertypes annotations members container delegation location
  -- field by field, in the order in which they are read
  have hpackage : package = .read "package" c.package := field_written rfl rfl
  have hname : name = .read "name" c.name := field_written rfl rfl
  have hkind : kind = .read "kind" c.kind := field_written rfl (ClassKind.undoes_choice _)
  have hsupertypes : supertypes = .read "supertypes" c.supertypes :=
    field_written rfl (undoes_names _)
  have hannotations : annotations = .read "annotations" c.annotations :=
    field_written rfl (AttributeLiteral.undoes_decode.list _)
  have hmembers : members = .read "members" c.members :=
    field_written rfl (Member.undoes_decode.list _)
  have hcontainer : container = .read "container" c.container :=
    field_written rfl (Container.undoes_decode.option (fun _ => Json.object_ne_null) _)
  have hdelegation : delegation = .read "delegation" c.delegation :=
    field_written rfl (Delegation.undoes_decode.option (fun _ => Json.object_ne_null) _)
  have hlocation : location = .read "location" c.location :=
    field_written rfl (SourceLocation.undoes_decode _)
  rw [hpackage, hname, hkind, hsupertypes, hannotations, hmembers, hcontainer, hdelegation,
    hlocation]
  exact Result.bind_eq_ok_iff.2 ⟨(), settle_written rfl (by simp), rfl⟩

/-- `ClassDecl.decode` reads every member. -/
theorem readsAll_decode : decode.ReadsAll toJson := by
  intro c key hkey
  have hkey : key ∈ ["package", "name", "kind", "supertypes", "annotations", "members", "container",
    "delegation", "location"] := hkey
  fin_cases hkey <;> exact ⟨.bool true, .bool false, nofun⟩

end ClassDecl

namespace ExternalType

/-- `ExternalType.decode` reads types of the classpath back. -/
theorem undoes_decode : decode.Undoes toJson := by
  intro t
  rw [Decoder.ofJson, toJson, decode, Fields.ofDocument_object]
  refine Result.bind_eq_ok_iff.2 ⟨_, rfl, ?_⟩
  extract_lets name supertypes
  have hname : name = .read "name" t.name := field_written rfl rfl
  have hsupertypes : supertypes = .read "supertypes" t.supertypes :=
    field_written rfl (undoes_names _)
  rw [hname, hsupertypes]
  exact Result.bind_eq_ok_iff.2 ⟨(), settle_written rfl (by simp), rfl⟩

/-- `ExternalType.decode` reads every member. -/
theorem readsAll_decode : decode.ReadsAll toJson := by
  intro t key hkey
  have hkey : key ∈ ["name", "supertypes"] := hkey
  fin_cases hkey <;> exact ⟨.bool true, .bool false, nofun⟩

end ExternalType

namespace UnitSource

/-- `UnitSource.decode` reads the contents of units back. -/
theorem undoes_decode : decode.Undoes toJson := by
  intro u
  rw [Decoder.ofJson, toJson, decode, Fields.ofDocument_object]
  refine Result.bind_eq_ok_iff.2 ⟨_, rfl, ?_⟩
  extract_lets name classes classpath
  have hname : name = .read "name" u.name := field_written rfl rfl
  have hclasses : classes = .read "classes" u.classes :=
    field_written rfl (ClassDecl.undoes_decode.list _)
  have hclasspath : classpath = .read "classpath" u.classpath :=
    field_written rfl (ExternalType.undoes_decode.list _)
  rw [hname, hclasses, hclasspath]
  exact Result.bind_eq_ok_iff.2 ⟨(), settle_written rfl (by simp), rfl⟩

/-- `UnitSource.decode` reads every member. -/
theorem readsAll_decode : decode.ReadsAll toJson := by
  intro u key hkey
  have hkey : key ∈ ["name", "classes", "classpath"] := hkey
  fin_cases hkey <;> exact ⟨.bool true, .bool false, nofun⟩

end UnitSource

/-- `CompilationUnit.decode` accepts a unit again whose entries have distinct names. -/
theorem CompilationUnit.ofJson_decode_toJson {u : UnitSource} (h : u.entryNames.Nodup) :
    Decoder.ofJson decode u.toJson = .ok ⟨u, h⟩ := by
  refine Result.bind_eq_ok_iff.2 ⟨u, UnitSource.undoes_decode u, ?_⟩
  rw [ofSource_eq_ok h]

/-- The decoders of units, views and bundles undo what is written: a unit is read back in all its
parts, so is a view tree, and a bundle with all that its parcels hold. An absent expression and the
null expression are written differently, each to be read back. Every member that is written is read
(`ReadsAll`), in each of the records. A unit whose `entryNames` do not repeat is accepted again. -/
theorem formats_read_back :
    UnitSource.decode.Undoes UnitSource.toJson ∧
    View.decode.Undoes View.toJson ∧
    Bundle.decode.Undoes Bundle.toJson ∧
    ((Decoder.option Expr.decode).Undoes (Json.option Expr.toJson) ∧
      Json.option Expr.toJson none ≠ Json.option Expr.toJson (some .null)) ∧
    (SourceLocation.decode.ReadsAll SourceLocation.toJson ∧
      Expr.decode.ReadsAll Expr.toJson ∧
      AttributeArgument.decode.ReadsAll AttributeArgument.toJson ∧
      AttributeLiteral.decode.ReadsAll AttributeLiteral.toJson ∧
      Member.decode.ReadsAll Member.toJson ∧
      Container.decode.ReadsAll Container.toJson ∧
      Delegation.decode.ReadsAll Delegation.toJson ∧
      ClassDecl.decode.ReadsAll ClassDecl.toJson ∧
      ExternalType.decode.ReadsAll ExternalType.toJson ∧
      UnitSource.decode.ReadsAll UnitSource.toJson ∧
      View.decode.ReadsAll View.toJson ∧
      Parcel.decode.ReadsAll Parcel.toJson) ∧
    ∀ u : UnitSource, ∀ h : u.entryNames.Nodup,
      Decoder.ofJson CompilationUnit.decode u.toJson = .ok ⟨u, h⟩ := by
  refine ⟨UnitSource.undoes_decode, View.undoes_decode, Bundle.undoes_decode,
    ⟨Expr.undoes_option, nofun⟩, ?_, fun u => CompilationUnit.ofJson_decode_toJson⟩
  exact ⟨SourceLocation.readsAll_decode, Expr.readsAll_decode, AttributeArgument.readsAll_decode,
    AttributeLiteral.readsAll_decode, Member.readsAll_decode, Container.readsAll_decode,
    Delegation.readsAll_decode, ClassDecl.readsAll_decode, ExternalType.readsAll_decode,
    UnitSource.readsAll_decode, View.readsAll_decode, Parcel.readsAll_decode⟩

/-- A bundle with an object in the payload of its parcel. -/
def detailBundle : Bundle where
  entries := SortedMap.empty.put "arg"
    { typeName := "app.Item"
      payload := .object [("id", .nat 7), ("tags", .array [.null, .object [("id", .null)]])] }

/-- A unit with a class and a type of the classpath. -/
def detailUnit : UnitSource where
  classes := [{ package := "app", name := "Detail", supertypes := [⟨"app.Base"⟩] }]
  classpath := [{ name := ⟨"app.Base"⟩ }]

/-- `detailBundle` and `detailUnit` are read back as they were. -/
theorem formats_read_back_detail :
    Decoder.ofJson Bundle.decode detailBundle.toJson = .ok detailBundle ∧
      ∃ h, Decoder.ofJson CompilationUnit.decode detailUnit.toJson = .ok ⟨detailUnit, h⟩ := by
  have hunit : detailUnit.entryNames.Nodup := by decide
  obtain ⟨-, -, hbundles, -, -, hunits⟩ := formats_read_back
  exact ⟨hbundles _, hunit, hunits _ hunit⟩

end ScreenSynthesis
