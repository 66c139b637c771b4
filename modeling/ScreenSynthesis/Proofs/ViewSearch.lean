import ScreenSynthesis.View

/-!
# The search in a view tree

A search works off pending trees: the first of them is looked at, and if its view has another
identifier, its children become pending before everything else. What is pending is always the rest
of the tree in pre-order, so the search finds the first view of that order.

## Key results

- `View.mem_preorder_iff`: the pre-order lists the views of a tree
- `View.findIn_eq_find?_preorderAll`: pending trees are searched in pre-order, one after the other
- `View.find?_eq_findSome?`: the search in a tree by the searches in its children
- `View.first_in_preorder`: what a search finds
-/

namespace ScreenSynthesis

namespace View

/-! ## The views of a tree -/

/-- `w` is a view of a tree: its root, or a view of a tree inside it. -/
inductive Within (w : View) : View → Prop where
  | root : Within w w
  | child {v c : View} : c ∈ v.children → Within w c → Within w v

/-- `preorderAll` lists the views of one tree after the other. -/
private theorem preorderAll_eq_flatMap (vs : List View) : preorderAll vs = vs.flatMap preorder := by
  induction vs with
  | nil => rfl
  | cons v vs ih => rw [preorderAll, ih, List.flatMap_cons]

/-- `preorder` has a view before its children, and these from left to right. -/
private theorem preorder_eq (v : View) : v.preorder = v :: v.children.flatMap preorder := by
  obtain ⟨id, children⟩ := v
  rw [preorder, preorderAll_eq_flatMap]

/-- A tree has a property if it follows from that of its children. -/
@[elab_as_elim]
private theorem induction_children {motive : View → Prop}
    (step : ∀ v : View, (∀ c ∈ v.children, motive c) → motive v) : ∀ v, motive v
  | ⟨id, children⟩ => step ⟨id, children⟩ fun c _ => induction_children step c

/-- `preorder` lists the views `Within` a tree and nothing else. -/
theorem mem_preorder_iff {w v : View} : w ∈ v.preorder ↔ w.Within v := by
  constructor
  · -- a view behind the first one stands in the order of some child
    induction v using induction_children with
    | step v ih =>
      intro h
      rw [preorder_eq] at h
      rcases List.mem_cons.1 h with rfl | h
      · exact .root
      · obtain ⟨c, hc, hw⟩ := List.mem_flatMap.1 h
        exact .child hc (ih c hc hw)
  · -- on the way down to the view
    intro h
    induction h with
    | root =>
      rw [preorder_eq]
      exact List.mem_cons_self
    | child hc _ ih =>
      rw [preorder_eq]
      exact List.mem_cons_of_mem _ (List.mem_flatMap.2 ⟨_, hc, ih⟩)

/-! ## The search -/

/-- `findIn` searches pending trees in the order of `preorderAll`. -/
theorem findIn_eq_find?_preorderAll (id : String) (pending : List View) :
    findIn id pending = (preorderAll pending).find? (·.id = id) := by
  -- along the search; the trees that are pending make up the rest of the order
  fun_induction findIn id pending with
  | case1 => rfl
  | case2 v pending heq =>
    rw [preorderAll, preorder_eq, List.cons_append, List.find?_cons_of_pos (by simpa using heq)]
  | case3 v pending hne ih =>
    -- passing over a view leaves its children, which come next in the order
    rw [ih, preorderAll, preorder_eq, List.cons_append, List.find?_cons_of_neg (by simpa using hne)]
    simp only [preorderAll_eq_flatMap, List.flatMap_append]

/-- `find?` finds the first view of the `preorder` that has the identifier. -/
theorem find?_eq_find?_preorder (v : View) (id : String) :
    v.find? id = v.preorder.find? (·.id = id) := by
  rw [find?, findIn_eq_find?_preorderAll, preorderAll, preorderAll, List.append_nil]

/-- `find?` looks at the view itself, and then into its children from left to right. -/
theorem find?_eq_findSome? (v : View) (id : String) :
    v.find? id =
      if v.id = id then some v else v.children.findSome? fun child => child.find? id := by
  rw [find?_eq_find?_preorder, preorder_eq]
  split
  · rename_i heq
    rw [List.find?_cons_of_pos (by simpa using heq)]
  · rename_i hne
    rw [List.find?_cons_of_neg (by simpa using hne), List.find?_flatMap]
    simp only [find?_eq_find?_preorder]

/-- `find?` finds a view exactly when it is the first of the `preorder` that has the identifier, and
nothing exactly when no view of the tree has it. It is the same as looking at the view itself and
then into its children, one after the other. -/
theorem first_in_preorder (v : View) (id : String) :
    (∀ w, v.find? id = some w ↔
      ∃ before after, v.preorder = before ++ w :: after ∧ w.id = id ∧ ∀ u ∈ before, u.id ≠ id) ∧
    (v.find? id = none ↔ ∀ w : View, w.Within v → w.id ≠ id) ∧
    v.find? id =
      if v.id = id then some v else v.children.findSome? fun child => child.find? id := by
  refine ⟨fun w => ?_, ?_, find?_eq_findSome? v id⟩
  · rw [find?_eq_find?_preorder, List.find?_eq_some_iff_append]
    constructor
    · rintro ⟨hid, before, after, heq, hbefore⟩
      exact ⟨before, after, heq, by simpa using hid, fun u hu => by simpa using hbefore u hu⟩
    · rintro ⟨before, after, heq, hid, hbefore⟩
      exact ⟨by simpa using hid, before, after, heq, fun u hu => by simpa using hbefore u hu⟩
  · rw [find?_eq_find?_preorder, List.find?_eq_none]
    simp only [mem_preorder_iff, decide_eq_true_eq, ne_eq]

end View

end ScreenSynthesis
