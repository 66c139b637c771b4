import Mathlib.Tactic.FinCases
import ScreenSynthesis.Codec.Values
import ScreenSynthesis.Result

/-!
# The format of views and bundles

Views are read back as they were written, however deeply they are nested, and so are bundles with
the payloads of their parcels. A `Parcel` has no payload with two members of one name in an object,
and `Document.toJson?` reads none.

## Key results

- `Json.toJson?_ofJson`: a value whose objects have distinct names is kept as it is
- `View.undoes_decode`: views are read back
- `Parcel.undoes_decode`, `Bundle.undoes_decode`: parcels and bundles are read back
- `Decoder.ReadsAll`: no member is written that is not read
-/

namespace ScreenSynthesis

open Json (Document)
open Fields (field_written settle_written)

/-! ## Members -/

namespace Json

/-- The names of an object's members. -/
def memberNames : Json → List String
  | .object members => members.map (·.1)
  | _ => []

/-- An object with another value under a name. -/
def withMember (key : String) (value : Json) : Json → Json
  | .object members => .object ((key, value) :: members.filter (·.1 ≠ key))
  | v => v

end Json

/-- Whether a decoder reads every member that is written: there are values that it tells apart in
the member's place. -/
def Decoder.ReadsAll {α : Type} (decode : Decoder α) (encode : α → Json) : Prop :=
  ∀ a, ∀ key ∈ (encode a).memberNames, ∃ v v' : Json,
    ofJson decode ((encode a).withMember key v) ≠ ofJson decode ((encode a).withMember key v')

/-! ## Values that are kept -/

namespace Json

/-- `insertMember` adds a member of a new name behind the others. -/
private theorem insertMember_of_not_mem {key : String} {v : Json} {members : List (String × Json)}
    (h : key ∉ members.map (·.1)) :
    Document.insertMember key v members = members ++ [(key, v)] := by
  induction members with
  | nil => rfl
  | cons m rest ih =>
    obtain ⟨k, w⟩ := m
    rw [List.map_cons, List.mem_cons, not_or] at h
    rw [Document.insertMember, if_neg (Ne.symm h.1), ih h.2, List.cons_append]

mutual

/-- `toJson?` reads a value back from its document if the names in its objects are distinct. -/
theorem toJson?_ofJson (v : Json) (h : v.namesDistinct = true) :
    (Document.ofJson v).toJson? = some v := by
  cases v with
  | null | bool _ | number _ | string _ => rfl
  | array items =>
    rw [Document.ofJson, Document.toJson?, itemsToJson?_ofItems items h]
    rfl
  | object members =>
    rw [namesDistinct, Bool.and_eq_true, decide_eq_true_eq] at h
    rw [Document.ofJson, Document.toJson?,
      membersToJson?_ofMembers members [] h.2 (by simpa using h.1)]
    rfl

/-- `itemsToJson?` reads items back one by one. -/
private theorem itemsToJson?_ofItems (items : List Json) (h : allNamesDistinct items = true) :
    Document.itemsToJson? (Document.ofItems items) = some items := by
  cases items with
  | nil => rfl
  | cons v vs =>
    rw [allNamesDistinct, Bool.and_eq_true] at h
    rw [Document.ofItems, Document.itemsToJson?, toJson?_ofJson v h.1, itemsToJson?_ofItems vs h.2]
    rfl

/-- `membersToJson?` reads members back behind those that were read before them. -/
private theorem membersToJson?_ofMembers (members acc : List (String × Json))
    (h : membersNamesDistinct members = true)
    (hnodup : ((acc ++ members).map (·.1)).Nodup) :
    Document.membersToJson? acc (Document.ofMembers members) = some (acc ++ members) := by
  cases members with
  | nil => rw [List.append_nil]; rfl
  | cons m rest =>
    obtain ⟨key, v⟩ := m
    rw [membersNamesDistinct, Bool.and_eq_true] at h
    -- the name stands behind those that were read, and is none of them
    have hfresh : key ∉ acc.map (·.1) := by
      rw [List.map_append, List.nodup_append] at hnodup
      exact fun hmem => hnodup.2.2 _ hmem _ List.mem_cons_self rfl
    have hmore : acc ++ (key, v) :: rest = acc ++ [(key, v)] ++ rest := by simp
    rw [Document.ofMembers, Document.membersToJson?, toJson?_ofJson v h.1, hmore]
    rw [hmore] at hnodup
    exact (congrArg (Document.membersToJson? · _) (insertMember_of_not_mem hfresh)).trans
      (membersToJson?_ofMembers rest _ h.2 hnodup)

end

end Json

/-- `Decoder.json` keeps a value whose objects have distinct names. -/
private theorem Decoder.json_of_namesDistinct {v : Json} (h : v.namesDistinct = true) :
    ofJson .json v = .ok ⟨v, h⟩ := by
  simp [ofJson, json, Json.toJson?_ofJson v h]

/-! ## Views -/

namespace View

/-- `toJsonAll` writes views one by one. -/
private theorem toJsonAll_eq_map (views : List View) : toJsonAll views = views.map toJson := by
  induction views with
  | nil => rfl
  | cons v vs ih => rw [toJsonAll, ih, List.map_cons]

/-- `itemsHeight` is at least the height of each view that is written. -/
private theorem height_le_itemsHeight {v : View} {views : List View} (h : v ∈ views) :
    (Document.ofJson v.toJson).height ≤
      Document.itemsHeight (Document.ofItems (views.map toJson)) := by
  induction views with
  | nil => exact nomatch h
  | cons w ws ih =>
    rw [List.map_cons, Document.ofItems, Document.itemsHeight]
    -- the view is the first one or one of the others
    rcases List.mem_cons.1 h with rfl | h
    · exact Nat.le_max_left _ _
    · exact Nat.le_trans (ih h) (Nat.le_max_right _ _)

/-- The `height` of a view that is written is above that of its children by the object and their
array. -/
private theorem height_ofJson_toJson (id : String) (children : List View) :
    (Document.ofJson (View.mk id children).toJson).height =
      Document.itemsHeight (Document.ofItems (children.map toJson)) + 2 := by
  rw [toJson, toJsonAll_eq_map]
  simp [Document.ofJson, Document.ofMembers, Document.height, Document.membersHeight]

/-- `decodeWithin` reads a view back at every depth that is not below its own. -/
private theorem decodeWithin_toJson (depth : Nat) (v : View)
    (hdepth : (Document.ofJson v.toJson).height < depth) :
    Decoder.ofJson (decodeWithin depth) v.toJson = .ok v := by
  -- the views inside are nested less deeply, so the depth that is left is enough for them
  induction depth generalizing v with
  | zero => exact absurd hdepth (Nat.not_lt_zero _)
  | succ depth ih =>
    obtain ⟨id, children⟩ := v
    rw [height_ofJson_toJson] at hdepth
    have hinner : Decoder.ofJson (.list (decodeWithin depth)) (.array (children.map toJson)) =
        .ok children :=
      Decoder.list_array fun v hv => ih v (by have := height_le_itemsHeight hv; omega)
    rw [Decoder.ofJson, toJson, toJsonAll_eq_map, decodeWithin, Fields.ofDocument_object]
    refine Result.bind_eq_ok_iff.2 ⟨_, rfl, ?_⟩
    extract_lets fid fchildren
    have hid : fid = .read "id" id := field_written rfl rfl
    have hchildren : fchildren = .read "children" children := field_written rfl hinner
    rw [hid, hchildren]
    exact Result.bind_eq_ok_iff.2 ⟨(), settle_written rfl (by simp), rfl⟩

/-- `View.decode` reads views back as they were written. -/
theorem undoes_decode : decode.Undoes toJson :=
  fun v => decodeWithin_toJson _ v (Nat.lt_succ_self _)

/-- `View.decode` reads every member. -/
theorem readsAll_decode : decode.ReadsAll toJson := by
  rintro ⟨id, children⟩ key hkey
  have hkey : key ∈ ["id", "children"] := hkey
  fin_cases hkey <;> exact ⟨.bool true, .bool false, nofun⟩

end View

/-! ## Parcels and bundles -/

namespace Parcel

/-- `Parcel.decode` reads parcels back as they were written. -/
theorem undoes_decode : decode.Undoes toJson := by
  intro p
  rw [Decoder.ofJson, toJson, decode, Fields.ofDocument_object]
  refine Result.bind_eq_ok_iff.2 ⟨_, rfl, ?_⟩
  extract_lets ftypeName fpayload
  have htypeName : ftypeName = .read "type_name" p.typeName := field_written rfl rfl
  have hpayload : fpayload = .read "payload" ⟨p.payload, p.distinct⟩ :=
    field_written rfl (Decoder.json_of_namesDistinct p.distinct)
  rw [htypeName, hpayload]
  exact Result.bind_eq_ok_iff.2 ⟨(), settle_written rfl (by simp), rfl⟩

/-- `Parcel.decode` reads every member. -/
theorem readsAll_decode : decode.ReadsAll toJson := by
  intro p key hkey
  have hkey : key ∈ ["type_name", "payload"] := hkey
  fin_cases hkey <;> exact ⟨.bool true, .bool false, nofun⟩

end Parcel

namespace SortedMap

variable {α : Type}

/-- Sorted maps with the same `entries` are equal. -/
private theorem eq_of_entries_eq {m m' : SortedMap α} (h : m.entries = m'.entries) : m = m' := by
  obtain ⟨entries, _⟩ := m
  obtain rfl : entries = m'.entries := h
  rfl

/-- `putEntry` puts a key behind all others at the end. -/
private theorem putEntry_of_forall_lt {key : String} {value : α} {entries : List (String × α)}
    (h : ∀ e ∈ entries, e.1 < key) : putEntry key value entries = entries ++ [(key, value)] := by
  induction entries with
  | nil => rfl
  | cons e rest ih =>
    obtain ⟨k, v⟩ := e
    obtain ⟨hlt, hrest⟩ := List.forall_mem_cons.1 h
    have hne : key ≠ k := fun heq => String.lt_irrefl k (heq ▸ hlt)
    rw [putEntry, if_neg fun hgt => String.lt_irrefl k (String.lt_trans hlt hgt), if_neg hne,
      ih hrest, List.cons_append]

end SortedMap

namespace Bundle

/-- Reads one parcel of a bundle behind others. -/
def readEntry (m : SortedMap Parcel) (entry : String × Document) :
    Except DecodeError (SortedMap Parcel) := do
  return m.put entry.1 (← Parcel.decode .value entry.2)

/-- Folding `readEntry` over parcels in the order of their keys adds one behind the other. -/
private theorem foldlM_readEntry {rest : List (String × Parcel)} {m : SortedMap Parcel}
    (hsorted : (m.entries ++ rest).Pairwise (fun e e' => e.1 < e'.1)) :
    ∃ m', (Document.ofMembers (rest.map fun e => (e.1, e.2.toJson))).foldlM readEntry m = .ok m' ∧
      m'.entries = m.entries ++ rest := by
  -- the parcels read so far are in front, so every further one goes behind them
  induction rest generalizing m with
  | nil => exact ⟨m, rfl, (List.append_nil _).symm⟩
  | cons e rest ih =>
    have hput : (m.put e.1 e.2).entries = m.entries ++ [e] :=
      SortedMap.putEntry_of_forall_lt fun x hx =>
        (List.pairwise_append.1 hsorted).2.2 x hx e List.mem_cons_self
    have hmore : m.entries ++ e :: rest = (m.put e.1 e.2).entries ++ rest := by
      rw [hput, List.append_assoc, List.singleton_append]
    rw [hmore] at hsorted ⊢
    obtain ⟨m', hm', hentries⟩ := ih hsorted
    refine ⟨m', ?_, hentries⟩
    have hread : readEntry m (e.1, .ofJson e.2.toJson) = .ok (m.put e.1 e.2) :=
      Result.bind_eq_ok_iff.2 ⟨e.2, Parcel.undoes_decode e.2, rfl⟩
    rw [List.map_cons, Document.ofMembers, List.foldlM_cons, hread]
    exact hm'

/-- `Bundle.decode` reads bundles back as they were written. -/
theorem undoes_decode : decode.Undoes toJson := by
  intro b
  have hsorted : (SortedMap.empty.entries ++ b.entries.entries).Pairwise
      (fun e e' : String × Parcel => e.1 < e'.1) := b.entries.sorted
  obtain ⟨m, hm, hentries⟩ := foldlM_readEntry hsorted
  obtain rfl : b.entries = m := SortedMap.eq_of_entries_eq hentries.symm
  exact Result.bind_eq_ok_iff.2 ⟨b.entries, hm, rfl⟩

end Bundle

end ScreenSynthesis
