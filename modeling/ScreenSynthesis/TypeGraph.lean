import ScreenSynthesis.Name

/-!
# Type graphs

A type graph knows some types and the direct supertypes of each. Supertypes may be unknown
themselves, and may lead back to where they came from. `Reachable` is the lineage that the graph
describes: a type, its supertypes, theirs, and so on through known types.
-/

namespace ScreenSynthesis

/-- The known types with their direct supertypes. Of several entries for a type the first counts. -/
structure TypeGraph where
  entries : List (QualifiedName × List QualifiedName)
deriving DecidableEq, Repr, Inhabited

namespace TypeGraph

/-- The direct supertypes of a type, `none` when the type is unknown. -/
def supertypes? (g : TypeGraph) (t : QualifiedName) : Option (List QualifiedName) :=
  g.entries.lookup t

/-- Whether the type is known. -/
def contains (g : TypeGraph) (t : QualifiedName) : Bool := (g.supertypes? t).isSome

/-- Every name that stands as a supertype somewhere in the graph. -/
def mentioned (g : TypeGraph) : List QualifiedName := g.entries.flatMap (·.2)

/-- A supertype of a known type is mentioned. -/
theorem mem_mentioned {g : TypeGraph} {t u : QualifiedName} {supers : List QualifiedName}
    (h : g.supertypes? t = some supers) (hu : u ∈ supers) : u ∈ g.mentioned := by
  obtain ⟨entries⟩ := g
  simp only [supertypes?, mentioned] at h ⊢
  induction entries with
  | nil => simp at h
  | cons entry rest ih =>
    obtain ⟨name, names⟩ := entry
    rw [List.lookup_cons] at h
    simp only [List.flatMap_cons, List.mem_append]
    split at h
    · simp only [Option.some.injEq] at h
      exact Or.inl (h ▸ hu)
    · exact Or.inr (ih h)

/-- `u` is `t` itself or a supertype of some known type that is reachable from `t`. -/
inductive Reachable (g : TypeGraph) (t : QualifiedName) : QualifiedName → Prop where
  | refl : Reachable g t t
  | step {u v : QualifiedName} {supers : List QualifiedName} :
    Reachable g t u → g.supertypes? u = some supers → v ∈ supers → Reachable g t v

end TypeGraph

end ScreenSynthesis
