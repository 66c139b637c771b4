import ScreenSynthesis.Binder
import ScreenSynthesis.Proofs.ViewSearch
import ScreenSynthesis.Result

/-!
# Binding a layout

A binder searches the tree for the views of its layout, one identifier after the other, and stops at
the first one that is missing. An identifier that is listed twice is searched for twice, but both
searches find the same view. So what a binding answers depends on which identifiers are listed, and
not on their order or on how often they are.

## Key results

- `LayoutBinder.findAll_eq_error_iff`: the first identifier that is missing
- `LayoutBinder.lookup_findAll`: what is found for an identifier
- `LayoutBinder.foldlM_enter`, `LayoutBinder.get?_toMap`: the views can be entered into a map as
  they are found
- `LayoutBinder.bind_finds_views_or_first_missing`: when a layout can be bound, and what the binding
  answers
-/

namespace ScreenSynthesis

namespace View

/-- Whether some view of a tree has an identifier. -/
def Has (v : View) (id : String) : Prop := ∃ w : View, w.Within v ∧ w.id = id

/-- `find?` finds a view exactly if the tree `Has` the identifier. -/
private theorem exists_find?_iff {v : View} {id : String} :
    (∃ w, v.find? id = some w) ↔ v.Has id := by
  rw [find?_eq_find?_preorder, ← Option.isSome_iff_exists, List.find?_isSome]
  simp only [mem_preorder_iff, decide_eq_true_eq, Has]

/-- `find?` finds nothing exactly if no view of the tree has the identifier. -/
private theorem find?_eq_none_iff {v : View} {id : String} : v.find? id = none ↔ ¬ v.Has id := by
  rw [← exists_find?_iff, Option.eq_none_iff_forall_ne_some, not_exists]

end View

/-- The map with some entries put into it, one after the other. -/
def SortedMap.putAll {α : Type} (m : SortedMap α) (entries : List (String × α)) : SortedMap α :=
  entries.foldl (fun m entry => m.put entry.1 entry.2) m

/-- The views of a binding in a map. -/
def BoundView.toMap (b : BoundView) : SortedMap View := SortedMap.empty.putAll b.views

namespace LayoutBinder

variable {root : View} {ids : List String}

/-! ## Missing views -/

/-- `findAll` fails at the first identifier for which `View.find?` finds nothing. -/
private theorem findAll_eq_error_iff_find? {fault : MemberFault} :
    findAll root ids = .error fault ↔
      ∃ id, ids.find? (fun id => (root.find? id).isNone) = some id ∧
        fault = .missingView id root.id := by
  induction ids with
  | nil => simp [findAll]
  | cons id ids ih =>
    rw [findAll]
    cases hfind : root.find? id with
    | none => simp [hfind, eq_comm]
    | some v => simp [hfind, Result.map_eq_error_iff, ih]

/-- `findAll` fails exactly for the first identifier that is missing in the tree. -/
theorem findAll_eq_error_iff {fault : MemberFault} :
    findAll root ids = .error fault ↔
      ∃ before id after, ids = before ++ id :: after ∧ (∀ other ∈ before, root.Has other) ∧
        ¬ root.Has id ∧ fault = .missingView id root.id := by
  rw [findAll_eq_error_iff_find?]
  constructor
  · -- what stands before the first one that is not found was found
    rintro ⟨id, hfind, hfault⟩
    obtain ⟨hid, before, after, heq, hbefore⟩ := List.find?_eq_some_iff_append.1 hfind
    refine ⟨before, id, after, heq, fun other hother => ?_, ?_, hfault⟩
    · have hfound : (root.find? other).isSome = true := by simpa using hbefore other hother
      exact View.exists_find?_iff.1 (Option.isSome_iff_exists.1 hfound)
    · exact View.find?_eq_none_iff.1 (Option.isNone_iff_eq_none.1 hid)
  · rintro ⟨before, id, after, heq, hbefore, hid, hfault⟩
    refine ⟨id, List.find?_eq_some_iff_append.2 ⟨?_, before, after, heq, fun other hother => ?_⟩,
      hfault⟩
    · exact Option.isNone_iff_eq_none.2 (View.find?_eq_none_iff.2 hid)
    · obtain ⟨v, hv⟩ := View.exists_find?_iff.2 (hbefore other hother)
      simp [hv]

/-- `findAll` succeeds exactly if the tree `Has` all identifiers. -/
private theorem exists_findAll_iff :
    (∃ views, findAll root ids = .ok views) ↔ ∀ id ∈ ids, root.Has id := by
  induction ids with
  | nil => simp [findAll]
  | cons id ids ih =>
    rw [List.forall_mem_cons, ← ih, ← View.exists_find?_iff, findAll]
    cases root.find? id with
    | none => simp
    | some v => simp [Result.exists_map_eq_ok_iff]

/-! ## Views that are found -/

/-- `findAll` finds the first view and then the others. -/
private theorem findAll_cons_eq_ok_iff {id : String} {views : List (String × View)} :
    findAll root (id :: ids) = .ok views ↔
      ∃ v rest, root.find? id = some v ∧ findAll root ids = .ok rest ∧ (id, v) :: rest = views := by
  rw [findAll]
  cases root.find? id with
  | none => simp
  | some v => simp [Result.map_eq_ok_iff]

/-- The views from `findAll` answer an identifier like `View.find?`, if it is listed at all. -/
theorem lookup_findAll {views : List (String × View)} (h : findAll root ids = .ok views)
    (id : String) : views.lookup id = if id ∈ ids then root.find? id else none := by
  induction ids generalizing views with
  | nil =>
    obtain rfl : [] = views := Except.ok.inj h
    rfl
  | cons first ids ih =>
    obtain ⟨v, rest, hfind, hrest, rfl⟩ := findAll_cons_eq_ok_iff.1 h
    -- an identifier that comes again is answered by its first entry
    by_cases hid : id = first
    · subst hid
      simp [hfind]
    · have hne : (id == first) = false := by simpa using hid
      simp [List.lookup_cons, hne, hid, ih hrest]

/-- Searches for a view of the layout and enters it, in place of one with the same identifier. -/
def enter (root : View) (views : SortedMap View) (id : String) :
    Except MemberFault (SortedMap View) :=
  match root.find? id with
  | some v => .ok (views.put id v)
  | none => .error (.missingView id root.id)

/-- Folding `enter` over identifiers fails like `findAll`, and otherwise gives the map with all
views. -/
theorem foldlM_enter (root : View) (ids : List String) (views : SortedMap View) :
    ids.foldlM (enter root) views = (findAll root ids).map views.putAll := by
  induction ids generalizing views with
  | nil => rfl
  | cons id ids ih =>
    rw [List.foldlM_cons, enter, findAll]
    cases root.find? id with
    | none => rfl
    | some v =>
      refine (ih (views.put id v)).trans ?_
      cases findAll root ids <;> rfl

/-- `putAll` of views from `findAll` keeps for an identifier the view that was found first for
it. -/
private theorem get?_putAll {found : List (String × View)} (h : findAll root ids = .ok found)
    (views : SortedMap View) (id : String) :
    (views.putAll found).get? id = (found.lookup id).or (views.get? id) := by
  induction ids generalizing found views with
  | nil =>
    obtain rfl : [] = found := Except.ok.inj h
    rfl
  | cons first ids ih =>
    obtain ⟨v, rest, hfind, hrest, rfl⟩ := findAll_cons_eq_ok_iff.1 h
    rw [SortedMap.putAll, List.foldl_cons, ← SortedMap.putAll, ih hrest]
    by_cases hid : id = first
    · -- a later search for the same identifier puts the same view there again
      subst hid
      rw [lookup_findAll hrest, SortedMap.get?_put_self, hfind, List.lookup_cons_self]
      split <;> rfl
    · have hne : (id == first) = false := by simpa using hid
      rw [SortedMap.get?_put_of_ne _ _ hid, List.lookup_cons, hne]

/-! ## Bindings -/

variable {b : LayoutBinder} {bound : BoundView}

/-- `bind` makes a binding of the binder's type on the root view. -/
theorem of_bind_eq_ok (h : b.bind root = .ok bound) :
    bound.bindingType = b.bindingType ∧ bound.root = root := by
  obtain ⟨views, -, rfl⟩ := Result.map_eq_ok_iff.1 h
  exact ⟨rfl, rfl⟩

/-- `bind` fails for a view of the layout that is missing. -/
theorem of_bind_eq_error {fault : MemberFault} (h : b.bind root = .error fault) :
    ∃ id ∈ b.viewIds, root.find? id = none ∧ fault = .missingView id root.id := by
  obtain ⟨before, id, after, hids, -, hmissing, hfault⟩ :=
    findAll_eq_error_iff.1 (Result.map_eq_error_iff.1 h)
  exact ⟨id, by simp [hids], View.find?_eq_none_iff.2 hmissing, hfault⟩

/-- `bind` succeeds exactly if the tree `Has` a view for every identifier of the layout. -/
private theorem exists_bind_iff :
    (∃ bound, b.bind root = .ok bound) ↔ ∀ id ∈ b.viewIds, root.Has id := by
  rw [← exists_findAll_iff, bind, Result.exists_map_eq_ok_iff]

/-- `view?` answers the identifiers that are listed, with what `View.find?` finds. -/
private theorem view?_of_bind_eq_ok (h : b.bind root = .ok bound) (id : String) :
    bound.view? id = if id ∈ b.viewIds then root.find? id else none := by
  obtain ⟨views, hviews, rfl⟩ := Result.map_eq_ok_iff.1 h
  exact lookup_findAll hviews id

/-- `toMap` answers every identifier like `view?`. -/
theorem get?_toMap (h : b.bind root = .ok bound) (id : String) :
    bound.toMap.get? id = bound.view? id := by
  obtain ⟨views, hviews, rfl⟩ := Result.map_eq_ok_iff.1 h
  exact (get?_putAll hviews .empty id).trans (Option.or_none)

/-- `bind` succeeds exactly if the tree `Has` a view for every identifier that is listed. The
binding then has the type of the binder and the root view, and for each identifier that is listed
`view?` answers the first view in pre-order that has it, and nothing for any other identifier.
Otherwise `missingView` names the first identifier that is missing, and the root. Lists of the same
identifiers give bindings that answer alike. If each view is entered into a map as it is found,
there is the same fault, or else the map answers like the binding. -/
theorem bind_finds_views_or_first_missing (b : LayoutBinder) (root : View) :
    ((∃ bound, b.bind root = .ok bound) ↔ ∀ id ∈ b.viewIds, root.Has id) ∧
    (∀ bound, b.bind root = .ok bound →
      bound.bindingType = b.bindingType ∧ bound.root = root ∧
      ∀ id, bound.view? id =
        if id ∈ b.viewIds then root.preorder.find? (·.id = id) else none) ∧
    (∀ fault, b.bind root = .error fault ↔
      ∃ before id after, b.viewIds = before ++ id :: after ∧
        (∀ other ∈ before, root.Has other) ∧ ¬ root.Has id ∧
        fault = .missingView id root.id) ∧
    (∀ ids, (∀ id, id ∈ ids ↔ id ∈ b.viewIds) → ∀ bound, b.bind root = .ok bound →
      ∃ bound', { b with viewIds := ids }.bind root = .ok bound' ∧
        bound'.bindingType = bound.bindingType ∧ bound'.root = bound.root ∧
        ∀ id, bound'.view? id = bound.view? id) ∧
    b.viewIds.foldlM (enter root) .empty = (b.bind root).map BoundView.toMap ∧
    ∀ bound, b.bind root = .ok bound → ∀ id, bound.toMap.get? id = bound.view? id := by
  refine ⟨exists_bind_iff, fun bound hbound => ?_, fun fault => ?_,
    fun ids hids bound hbound => ?_, ?_, fun bound hbound => get?_toMap hbound⟩
  · obtain ⟨htype, hroot⟩ := of_bind_eq_ok hbound
    refine ⟨htype, hroot, fun id => ?_⟩
    rw [view?_of_bind_eq_ok hbound, View.find?_eq_find?_preorder]
  · rw [bind, Result.map_eq_error_iff, findAll_eq_error_iff]
  · -- an identifier of the other list is one of this list, and has a view
    have hhas : ∀ id ∈ b.viewIds, root.Has id := exists_bind_iff.1 ⟨bound, hbound⟩
    obtain ⟨bound', hbound'⟩ : ∃ bound', { b with viewIds := ids }.bind root = .ok bound' :=
      exists_bind_iff.2 fun id hid => hhas id ((hids id).1 hid)
    obtain ⟨htype, hroot⟩ := of_bind_eq_ok hbound
    obtain ⟨htype', hroot'⟩ := of_bind_eq_ok hbound'
    refine ⟨bound', hbound', htype'.trans htype.symm, hroot'.trans hroot.symm, fun id => ?_⟩
    rw [view?_of_bind_eq_ok hbound', view?_of_bind_eq_ok hbound]
    simp only [hids]
  · rw [foldlM_enter, bind]
    cases findAll root b.viewIds <;> rfl

/-- The title is listed twice and stands twice in the tree; the binding answers the one inside the
list, which comes first. The icon is in the tree, but not in the layout. In another layout two
identifiers are missing, and the fault names the first of them. -/
theorem bind_finds_views_or_first_missing_repeated :
    let title : View := { id := "title", children := [{ id := "icon" }] }
    let root : View :=
      { id := "root", children := [{ id := "list", children := [title] }, { id := "title" }] }
    let b : LayoutBinder := ⟨"app.views.PhotoListBinding", ["title", "root", "title"]⟩
    (∃ bound, b.bind root = .ok bound ∧ bound.view? "title" = some title ∧
      bound.view? "icon" = none) ∧
    { b with viewIds := ["list", "badge", "title", "footer"] }.bind root =
      .error (.missingView "badge" "root") := by
  intro title root b
  obtain ⟨hbound, hviews, -⟩ := bind_finds_views_or_first_missing b root
  obtain ⟨-, -, hfault, -⟩ := bind_finds_views_or_first_missing
    { b with viewIds := ["list", "badge", "title", "footer"] } root
  have hhas : ∀ {id}, root.preorder.any (·.id = id) = true → root.Has id := by
    intro id hany
    obtain ⟨w, hw, hid⟩ := List.any_eq_true.1 hany
    exact ⟨w, View.mem_preorder_iff.1 hw, by simpa using hid⟩
  obtain ⟨bound, hbind⟩ := hbound.2 fun id hid => by
    have hcases : id = "title" ∨ id = "root" ∨ id = "title" := by simpa [b] using hid
    rcases hcases with rfl | rfl | rfl <;> exact hhas (by decide)
  obtain ⟨-, -, hview⟩ := hviews bound hbind
  refine ⟨⟨bound, hbind, ?_, ?_⟩, (hfault _).2 ?_⟩
  · exact (hview "title").trans rfl
  · exact (hview "icon").trans rfl
  · refine ⟨["list"], "badge", ["title", "footer"], rfl, ?_, ?_, rfl⟩
    · intro other hother
      obtain rfl := List.mem_singleton.1 hother
      exact hhas (by decide)
    · rintro ⟨w, hw, hid⟩
      have hnone : ∀ w ∈ root.preorder, w.id ≠ "badge" := by decide
      exact hnone w (View.mem_preorder_iff.2 hw) hid

end LayoutBinder

end ScreenSynthesis
