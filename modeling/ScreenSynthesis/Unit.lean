import ScreenSynthesis.Declaration
import ScreenSynthesis.TypeGraph

/-!
# Compilation units

A unit is what is compiled together: the classes it declares and the classpath they are resolved
against. No two entries of a unit share a name; `CompilationUnit.ofSource` refuses a source in
which they do, naming the first entry that repeats an earlier one.
-/

namespace ScreenSynthesis

/-- The contents of a unit as they are written down, before they are checked. -/
structure UnitSource where
  name : String := ""
  classes : List ClassDecl := []
  classpath : List ExternalType := []
deriving DecidableEq, Repr, Inhabited

/-- The names of all entries, the classes first. -/
def UnitSource.entryNames (s : UnitSource) : List QualifiedName :=
  s.classes.map ClassDecl.qualifiedName ++ s.classpath.map ExternalType.name

/-- The position of a declaration in its unit. -/
structure DeclId where
  index : Nat
deriving DecidableEq, Repr, Inhabited

/-- The first element that equals one of `seen` or an element before it. -/
def firstRepeat? {α : Type} [DecidableEq α] (seen : List α) : List α → Option α
  | [] => none
  | x :: xs => if x ∈ seen then some x else firstRepeat? (x :: seen) xs

/-- Nothing repeats exactly when the elements are distinct and none of them was seen before. -/
theorem firstRepeat?_eq_none_iff {α : Type} [DecidableEq α] {seen xs : List α} :
    firstRepeat? seen xs = none ↔ xs.Nodup ∧ ∀ x ∈ xs, x ∉ seen := by
  induction xs generalizing seen with
  | nil => simp [firstRepeat?]
  | cons x xs ih =>
    rw [firstRepeat?]
    split
    · rename_i h
      simp [h]
    · rename_i h
      -- for the rest, `x` is among the elements that were seen
      simp only [ih, List.mem_cons, List.nodup_cons, forall_eq_or_imp]
      constructor
      · rintro ⟨hnodup, hxs⟩
        exact ⟨⟨fun hx => hxs x hx (Or.inl rfl), hnodup⟩, h, fun y hy hseen => hxs y hy (Or.inr hseen)⟩
      · rintro ⟨⟨hx, hnodup⟩, _, hseen⟩
        refine ⟨hnodup, fun y hy hor => ?_⟩
        rcases hor with rfl | hmem
        · exact hx hy
        · exact hseen y hy hmem

/-- A unit whose entries have distinct names. -/
structure CompilationUnit where
  source : UnitSource
  nodup_entryNames : source.entryNames.Nodup

namespace CompilationUnit

/-- The unit of a source, or the first name that is declared again. -/
def ofSource (source : UnitSource) : Except QualifiedName CompilationUnit :=
  match h : firstRepeat? [] source.entryNames with
  | some name => .error name
  | none => .ok ⟨source, (firstRepeat?_eq_none_iff.1 h).1⟩

/-- A source whose entries have distinct names is accepted as it is. -/
theorem ofSource_eq_ok {source : UnitSource} (h : source.entryNames.Nodup) :
    ofSource source = .ok ⟨source, h⟩ := by
  have hnone : firstRepeat? [] source.entryNames = none :=
    firstRepeat?_eq_none_iff.2 ⟨h, fun _ _ => List.not_mem_nil⟩
  unfold ofSource
  split
  · rename_i name hname
    exact nomatch hname.symm.trans hnone
  · rfl

/-- The name of the unit. -/
def name (u : CompilationUnit) : String := u.source.name

/-- The declared classes, in source order. -/
def classes (u : CompilationUnit) : List ClassDecl := u.source.classes

/-- The types of the classpath. -/
def classpath (u : CompilationUnit) : List ExternalType := u.source.classpath

/-- The declared classes with their positions. -/
def declarations (u : CompilationUnit) : List (DeclId × ClassDecl) :=
  u.classes.mapIdx fun i c => (⟨i⟩, c)

/-- The class at a position. -/
def declaration? (u : CompilationUnit) (id : DeclId) : Option ClassDecl := u.classes[id.index]?

/-- The position of the class with this name. Types of the classpath have none. -/
def lookup? (u : CompilationUnit) (name : QualifiedName) : Option DeclId :=
  (u.classes.findIdx? (·.qualifiedName = name)).map DeclId.mk

/-- The types that the unit can see, with their supertypes. -/
def graph (u : CompilationUnit) : TypeGraph where
  entries :=
    u.classes.map (fun c => (c.qualifiedName, c.supertypes)) ++
      u.classpath.map (fun t => (t.name, t.supertypes))

/-- The direct supertypes of a declared class or of a type of the classpath, `none` for a name that
no entry has. -/
def supertypes? (u : CompilationUnit) (name : QualifiedName) : Option (List QualifiedName) :=
  u.graph.supertypes? name

/-- Whether some entry has this name. -/
def contains (u : CompilationUnit) (name : QualifiedName) : Bool := u.graph.contains name

end CompilationUnit

end ScreenSynthesis
