import ScreenSynthesis.Proofs.RenderedBlocks

/-!
# The text of rendered blocks

An `implBlock` is printed on one line with its items one after the other. What `printTokens` makes
of an item does not depend on the items around it: no item ends in punctuation that is joined to
what follows, and each has a text. So the text of a block can be written out around those of its
items.

## Key results

- `Token.streamText_append`: the text of a stream in two parts
- `Token.streamText_flatten`: the texts of `Separated` streams, a space between them
- `Reachable.printTokens_implBlock`: what is printed for the items of a candidate
-/

namespace ScreenSynthesis

namespace Rendering

namespace Token

/-- Whether a stream ends joined to what follows. An empty one does if what is in front of it is
`joint`. -/
def endsJoint (joint : Bool) : List Token → Bool
  | [] => joint
  | t :: ts => endsJoint t.isJoint ts

private theorem endsJoint_append (joint : Bool) (ts us : List Token) :
    endsJoint joint (ts ++ us) = endsJoint (endsJoint joint ts) us := by
  induction ts generalizing joint with
  | nil => rfl
  | cons t ts ih => exact ih t.isJoint

/-- `streamText` goes through a stream from left to right; all that the second part sees of the
first is whether it `endsJoint`. -/
theorem streamText_append (joint : Bool) (ts us : List Token) :
    streamText joint (ts ++ us) = streamText joint ts ++ streamText (endsJoint joint ts) us := by
  induction ts generalizing joint with
  | nil => simp [streamText, endsJoint]
  | cons t ts ih => simp [streamText, endsJoint, ih, String.append_assoc]

/-- A space is printed in front of a stream that is not joined to what comes before. -/
private theorem streamText_false {ts : List Token} (h : ts ≠ []) :
    streamText false ts = " " ++ streamText true ts := by
  cases ts with
  | nil => exact absurd rfl h
  | cons t ts => simp [streamText, String.append_assoc]

/-- Whether a stream has a text and is not joined to what follows, whatever is in front of it. -/
def Separated (ts : List Token) : Prop :=
  ∀ joint, endsJoint joint ts = false ∧ streamText joint ts ≠ ""

private theorem Separated.ne_nil {ts : List Token} (h : Separated ts) : ts ≠ [] := by
  rintro rfl
  exact (h true).2 rfl

/-- It is the end of a stream that makes it `Separated`. -/
private theorem Separated.append_left {us : List Token} (h : Separated us) (ts : List Token) :
    Separated (ts ++ us) := by
  intro joint
  obtain ⟨hjoint, htext⟩ := h (endsJoint joint ts)
  rw [endsJoint_append, streamText_append]
  exact ⟨hjoint, fun hempty => htext (String.append_eq_empty_iff.1 hempty).2⟩

private theorem separated_singleton {t : Token} (hjoint : t.isJoint = false) (htext : t.text ≠ "") :
    Separated [t] := by
  intro joint
  refine ⟨hjoint, fun hempty => htext ?_⟩
  rw [streamText, streamText, String.append_empty] at hempty
  exact (String.append_eq_empty_iff.1 hempty).2

private theorem separated_brace (inner : List Token) : Separated [.group .brace inner] := by
  refine separated_singleton rfl ?_
  rw [text, enclose]
  split <;> simp

/-- `Separated` streams one after the other are printed one by one, a space between them. -/
theorem streamText_flatten {items : List (List Token)} (h : ∀ ts ∈ items, Separated ts) :
    streamText true items.flatten = " ".intercalate (items.map (streamText true)) := by
  induction items with
  | nil => rfl
  | cons ts rest ih =>
    obtain ⟨hts, hrest⟩ := List.forall_mem_cons.1 h
    rw [List.flatten_cons, streamText_append, (hts true).1]
    by_cases hnil : rest = []
    · simp [hnil, streamText]
    · -- a stream behind has tokens, so that the space is really printed
      obtain ⟨us, hus⟩ := List.exists_mem_of_ne_nil rest hnil
      have hne : rest.flatten ≠ [] := fun hflatten =>
        (hrest us hus).ne_nil (List.flatten_eq_nil_iff.1 hflatten us hus)
      rw [streamText_false hne, ih hrest, List.map_cons,
        String.intercalate_cons_of_ne_nil (by simpa using hnil), String.append_assoc]

/-- `Separated` streams have a text together if there is one of them. -/
private theorem streamText_flatten_ne_empty {items : List (List Token)} (hne : items ≠ [])
    (h : ∀ ts ∈ items, Separated ts) : streamText true items.flatten ≠ "" := by
  cases items with
  | nil => exact absurd rfl hne
  | cons ts rest =>
    rw [List.flatten_cons, streamText_append]
    exact fun hempty => (h ts List.mem_cons_self true).2 (String.append_eq_empty_iff.1 hempty).1

end Token

open Token

/-- An `implBlock` with items is printed as the keyword, the type, and between braces the items. -/
theorem printTokens_implBlock (type : String) {items : List (List Token)} (hne : items ≠ [])
    (h : ∀ ts ∈ items, Separated ts) :
    printTokens (implBlock type items) =
      "impl " ++ type ++ " \x7b " ++ " ".intercalate (items.map printTokens) ++ " \x7d" := by
  have hinner : enclose .brace (streamText true items.flatten) =
      "\x7b " ++ " ".intercalate (items.map printTokens) ++ " \x7d" := by
    rw [enclose, if_neg (streamText_flatten_ne_empty hne h), streamText_flatten h]
    rfl
  have htokens : printTokens (implBlock type items) =
      "impl" ++ (" " ++ (type ++ (" " ++ enclose .brace (streamText true items.flatten)))) := by
    simp [printTokens, implBlock, streamText, text, isJoint, String.append_assoc]
  have hkeyword : "impl " = "impl" ++ " " := by decide
  have hopening : " \x7b " = " " ++ "\x7b " := by decide
  rw [htokens, hinner, hkeyword, hopening]
  simp only [String.append_assoc]

/-! ## Items -/

private theorem separated_keyItem (vis : List Token) (name value : String) :
    Separated (keyItem vis name value) := by
  have hend : Separated [.punct ';' false] := separated_singleton rfl (by decide)
  exact hend.append_left _

private theorem separated_accessorItem (vis : List Token) (name key type : String)
    (nullable : Bool) :
    Separated (accessorItem vis name key type nullable) := by
  cases nullable with
  | true => exact (separated_brace _).append_left _
  | false => exact (separated_brace _).append_left _

private theorem separated_factoryItem (vis : List Token) (name key owner : String)
    (parameter : Option TypeRef) : Separated (factoryItem vis name key owner parameter) :=
  (separated_brace _).append_left _

private theorem separated_bindingItem (vis : List Token) (name binding : String) :
    Separated (bindingItem vis name binding) :=
  (separated_brace _).append_left _

end Rendering

namespace Session

open Rendering Token

variable {s : Session} {c : Candidate}

/-- The item of a member is `Separated`: a constant ends in a semicolon, a function in its body. -/
private theorem Reachable.separated_memberItem (h : s.Reachable)
    (hphase : s.phase = .bodiesSynthesized) {symbol : Symbol} (hsymbol : symbol ∈ s.symbols.symbols)
    (hkind : symbol.signature.kind ≠ .container) : Separated (memberItem symbol) := by
  obtain ⟨body, hbody, hshape⟩ := h.exists_memberShape hphase hsymbol
  obtain ⟨id, ⟨owner, ownerName, scope, name, kind, type, parameters, vis⟩, _⟩ := symbol
  obtain rfl : _ = some body := hbody
  cases hshape with
  | container => exact absurd rfl hkind
  | key value => exact separated_keyItem _ _ _
  | accessor key type => exact separated_accessorItem _ _ _ _ _
  | factory key owner parameter => exact separated_factoryItem _ _ _ _ _
  | binding type => exact separated_bindingItem _ _ _

/-- The items of a candidate are all `Separated`. -/
private theorem Reachable.separated_memberItems (h : s.Reachable)
    (hphase : s.phase = .bodiesSynthesized)
    (c : Candidate) : ∀ ts ∈ s.memberItems c, Separated ts := by
  intro ts hts
  obtain ⟨symbol, hsymbol, rfl⟩ := List.mem_map.1 hts
  obtain ⟨howned, hkind⟩ := List.mem_filter.1 hsymbol
  exact h.separated_memberItem hphase (mem_of_mem_forOwner c.decl symbol howned)
    (of_decide_eq_true hkind)

/-- What is printed for a candidate of which something is rendered. -/
theorem Reachable.printTokens_implBlock (h : s.Reachable) (hphase : s.phase = .bodiesSynthesized)
    (hyes : s.IsRendered c) (type : String) :
    printTokens (implBlock type (s.memberItems c)) =
      "impl " ++ type ++ " \x7b " ++ " ".intercalate ((s.memberItems c).map printTokens) ++
        " \x7d" :=
  Rendering.printTokens_implBlock type (fun hnil => h.memberItems_eq_nil_iff hphase |>.1 hnil hyes)
    (h.separated_memberItems hphase c)

end Session

end ScreenSynthesis
