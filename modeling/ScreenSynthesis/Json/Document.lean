import ScreenSynthesis.Json.Basic

/-!
# Documents

A document is what a reader makes of a text: a tree that is complete up to the first place where
the text stops making sense. Decoding walks the tree in the order of the text, so a wrong type in
front of that place is reported as such, and one behind it never is.

`ofJson` is the document of a value, which has no such place; `toJson?` reads a document back as a
value, in which no object has two members of one name.
-/

namespace ScreenSynthesis.Json

/-- A text as far as it could be read. -/
inductive Document where
  | null
  | bool (b : Bool)
  | number (n : Number)
  | string (s : String)
  /-- A scalar without quotes, whose type depends on what is wanted in its place. -/
  | plain (text : String)
  /-- An array; when it is not `closed`, the text breaks off after its last item. -/
  | array (items : List Document) (closed : Bool)
  /-- An object with its members in the order of the text; when it is not `closed`, the text breaks
  off after its last member. -/
  | object (members : List (String × Document)) (closed : Bool)
  /-- The text stops making sense here. -/
  | fault
  /-- Well formed, so that it may be passed over, but refused when it is read: a container nested
  too deeply, a number out of range, a string that is no text. -/
  | refused (d : Document)
deriving Repr, Inhabited

namespace Document

mutual

/-- The document of a value. -/
def ofJson : Json → Document
  | .null => .null
  | .bool b => .bool b
  | .number n => .number n
  | .string s => .string s
  | .array items => .array (ofItems items) true
  | .object members => .object (ofMembers members) true

def ofItems : List Json → List Document
  | [] => []
  | x :: xs => ofJson x :: ofItems xs

def ofMembers : List (String × Json) → List (String × Document)
  | [] => []
  | (key, x) :: ms => (key, ofJson x) :: ofMembers ms

end

mutual

/-- Whether the document can be passed over: the text makes sense up to its end. -/
def isSound : Document → Bool
  | .fault => false
  | .array items closed => allSound items && closed
  | .object members closed => membersSound members && closed
  | .refused d => d.isSound
  | _ => true

def allSound : List Document → Bool
  | [] => true
  | d :: ds => d.isSound && allSound ds

def membersSound : List (String × Document) → Bool
  | [] => true
  | (_, d) :: ms => d.isSound && membersSound ms

end

mutual

/-- How many containers are nested in each other. -/
def height : Document → Nat
  | .array items _ => itemsHeight items + 1
  | .object members _ => membersHeight members + 1
  | .refused d => d.height
  | _ => 0

def itemsHeight : List Document → Nat
  | [] => 0
  | d :: ds => max d.height (itemsHeight ds)

def membersHeight : List (String × Document) → Nat
  | [] => 0
  | (_, d) :: ms => max d.height (membersHeight ms)

end

/-- The document of a member is found under the member's name. -/
theorem lookup_ofMembers (key : String) (members : List (String × Json)) :
    (ofMembers members).lookup key = (members.lookup key).map ofJson := by
  induction members with
  | nil => rfl
  | cons m rest ih =>
    obtain ⟨k, v⟩ := m
    rw [ofMembers, List.lookup_cons, List.lookup_cons, ih]
    cases key == k <;> rfl

/-- A member added to an object. A key that is there already keeps its place and takes the new
value. -/
def insertMember (key : String) (value : Json) : List (String × Json) → List (String × Json)
  | [] => [(key, value)]
  | (k, v) :: ms => if k = key then (k, value) :: ms else (k, v) :: insertMember key value ms

mutual

/-- The document as a value, unless it has to be refused somewhere. Of members with the same name
the last one counts. -/
def toJson? : Document → Option Json
  | .null => some .null
  | .bool b => some (.bool b)
  | .number n => some (.number n)
  | .string s => some (.string s)
  | .plain s => some (.string s)
  | .array items true => (itemsToJson? items).map .array
  | .object members true => (membersToJson? [] members).map .object
  | _ => none

def itemsToJson? : List Document → Option (List Json)
  | [] => some []
  | d :: ds => do return (← d.toJson?) :: (← itemsToJson? ds)

def membersToJson? (acc : List (String × Json)) :
    List (String × Document) → Option (List (String × Json))
  | [] => some acc
  | (key, d) :: ms => do membersToJson? (insertMember key (← d.toJson?) acc) ms

end

theorem map_fst_insertMember (key : String) (value : Json) (members : List (String × Json)) :
    (insertMember key value members).map (·.1) =
      if key ∈ members.map (·.1) then members.map (·.1) else members.map (·.1) ++ [key] := by
  induction members with
  | nil => rfl
  | cons m rest ih =>
    obtain ⟨k, v⟩ := m
    -- a key that is there keeps its place
    by_cases hkey : k = key
    · simp [insertMember, hkey]
    · rw [insertMember, if_neg hkey, List.map_cons, ih]
      split <;> simp_all [eq_comm]

theorem membersNamesDistinct_insertMember {key : String} {value : Json}
    {members : List (String × Json)} (hvalue : value.namesDistinct = true)
    (h : Json.membersNamesDistinct members = true) :
    Json.membersNamesDistinct (insertMember key value members) = true := by
  induction members with
  | nil => simp [insertMember, Json.membersNamesDistinct, hvalue]
  | cons m rest ih =>
    obtain ⟨k, v⟩ := m
    rw [Json.membersNamesDistinct, Bool.and_eq_true] at h
    rw [insertMember]
    -- a member is replaced, or it is kept and the search goes on
    split <;> rw [Json.membersNamesDistinct, Bool.and_eq_true]
    · exact ⟨hvalue, h.2⟩
    · exact ⟨h.1, ih h.2⟩

/-- `insertMember` adds no second member of a name. -/
theorem namesDistinct_insertMember {key : String} {value : Json} {members : List (String × Json)}
    (hvalue : value.namesDistinct = true) (h : (Json.object members).namesDistinct = true) :
    (Json.object (insertMember key value members)).namesDistinct = true := by
  rw [Json.namesDistinct_object_iff] at h ⊢
  refine ⟨?_, membersNamesDistinct_insertMember hvalue h.2⟩
  rw [map_fst_insertMember]
  split
  · exact h.1
  · -- a name that was not there is added behind the others
    rename_i hfresh
    exact List.nodup_append.2 ⟨h.1, by simp, by
      intro a ha b hb
      rw [List.mem_singleton.1 hb]
      rintro rfl
      exact hfresh ha⟩

mutual

/-- A value that is read from a document has distinct names in all its objects. -/
theorem namesDistinct_of_toJson? (d : Document) {v : Json} (h : d.toJson? = some v) :
    v.namesDistinct = true := by
  cases d with
  | null | bool _ | number _ | string _ | plain _ =>
    obtain rfl := Option.some.inj h
    rfl
  | array items closed =>
    -- what breaks off is no value
    cases closed with
    | false => exact nomatch h
    | true =>
      obtain ⟨vs, hvs, rfl⟩ := Option.map_eq_some_iff.1 h
      exact allNamesDistinct_of_itemsToJson? items hvs
  | object members closed =>
    cases closed with
    | false => exact nomatch h
    | true =>
      obtain ⟨ms, hms, rfl⟩ := Option.map_eq_some_iff.1 h
      exact namesDistinct_of_membersToJson? members rfl hms
  | fault => exact nomatch h
  | refused _ => exact nomatch h

theorem allNamesDistinct_of_itemsToJson? (items : List Document) {vs : List Json}
    (h : itemsToJson? items = some vs) : Json.allNamesDistinct vs = true := by
  cases items with
  | nil =>
    obtain rfl := Option.some.inj h
    rfl
  | cons d ds =>
    obtain ⟨v, hv, h⟩ := Option.bind_eq_some_iff.1 h
    obtain ⟨more, hmore, h⟩ := Option.bind_eq_some_iff.1 h
    obtain rfl := Option.some.inj h
    rw [Json.allNamesDistinct, Bool.and_eq_true]
    exact ⟨namesDistinct_of_toJson? d hv, allNamesDistinct_of_itemsToJson? ds hmore⟩

/-- What is read behind the members `acc` is added to them by `insertMember`. -/
theorem namesDistinct_of_membersToJson? (members : List (String × Document))
    {acc ms : List (String × Json)} (hacc : (Json.object acc).namesDistinct = true)
    (h : membersToJson? acc members = some ms) : (Json.object ms).namesDistinct = true := by
  cases members with
  | nil =>
    obtain rfl := Option.some.inj h
    exact hacc
  | cons m rest =>
    obtain ⟨key, d⟩ := m
    obtain ⟨v, hv, h⟩ := Option.bind_eq_some_iff.1 h
    exact namesDistinct_of_membersToJson? rest
      (namesDistinct_insertMember (namesDistinct_of_toJson? d hv) hacc) h

end

end Document

end ScreenSynthesis.Json
