/-!
# View trees

A view has an identifier and children. `View.find?` searches a tree for the first view with an
identifier, a view before its children and children from left to right; `View.preorder` lists the
views in that order.
-/

namespace ScreenSynthesis

/-- A view with the views inside it. -/
structure View where
  id : String
  children : List View := []
deriving Repr, Inhabited

namespace View

mutual

/-- A view, then the views below it. -/
def preorder : View → List View
  | ⟨id, children⟩ => ⟨id, children⟩ :: preorderAll children

def preorderAll : List View → List View
  | [] => []
  | v :: vs => v.preorder ++ preorderAll vs

end

/-- How many views there are in some trees. -/
def total : List View → Nat
  | [] => 0
  | ⟨_, children⟩ :: rest => 1 + total children + total rest

theorem total_append (vs ws : List View) : total (vs ++ ws) = total vs + total ws := by
  induction vs with
  | nil => simp [total]
  | cons v vs ih =>
    obtain ⟨id, children⟩ := v
    simp only [List.cons_append, total, ih]
    omega

/-- The first view with an identifier in some pending trees. The children of a view that is passed
over become pending before everything else. -/
def findIn (id : String) : List View → Option View
  | [] => none
  | v :: pending => if v.id = id then some v else findIn id (v.children ++ pending)
termination_by pending => total pending
decreasing_by
  obtain ⟨id, children⟩ := v
  simp only [total_append, total]
  omega

/-- The first view with an identifier, including `v` itself. -/
def find? (v : View) (id : String) : Option View := findIn id [v]

end View

end ScreenSynthesis
