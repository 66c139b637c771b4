import ScreenSynthesis.TypeGraph

/-!
# Lineage queries

`Lineage` answers whether one type derives from another and remembers what it has found out: the
direct supertypes of every type it asked the graph for, and the answer to every query. A walk stops
as soon as it meets its target, so what is remembered depends on the queries; `ask_fst` says that it
never differs from the graph.
-/

namespace ScreenSynthesis

/-- What is known about the lineages in `g`, in the order in which it was found out. -/
structure Lineage (g : TypeGraph) where
  /-- The types that the graph was asked for, with its answers. -/
  edges : List (QualifiedName × Option (List QualifiedName)) := []
  /-- The queries answered by a walk, each a type and its target. -/
  results : List ((QualifiedName × QualifiedName) × Bool) := []
  edges_sound : ∀ entry ∈ edges, entry.2 = g.supertypes? entry.1 := by simp

namespace Lineage

variable {g : TypeGraph}

/-- The lineage of which nothing is known yet. -/
def empty (g : TypeGraph) : Lineage g := {}

/-- An entry that is looked up is an entry of the list. -/
theorem mem_of_lookup {α β : Type} [BEq α] [LawfulBEq α] {a : α} {b : β} {entries : List (α × β)}
    (h : entries.lookup a = some b) : (a, b) ∈ entries := by
  induction entries with
  | nil => simp at h
  | cons entry rest ih =>
    obtain ⟨key, value⟩ := entry
    rw [List.lookup_cons] at h
    split at h
    · rename_i heq
      simp only [Option.some.injEq] at h
      simp [eq_of_beq heq, h]
    · simp [ih h]

/-- The direct supertypes of a type, from memory if the graph was asked for it before. -/
def ask (l : Lineage g) (t : QualifiedName) : Option (List QualifiedName) × Lineage g :=
  match l.edges.lookup t with
  | some answer => (answer, l)
  | none =>
    (g.supertypes? t,
      { l with
        edges := l.edges ++ [(t, g.supertypes? t)]
        edges_sound := by
          intro entry h
          rcases List.mem_append.1 h with h | h
          · exact l.edges_sound entry h
          · simp only [List.mem_singleton] at h
            simp [h] })

/-- Memory never changes an answer. -/
theorem ask_fst (l : Lineage g) (t : QualifiedName) : (l.ask t).1 = g.supertypes? t := by
  unfold ask
  split
  · rename_i answer h
    exact l.edges_sound _ (mem_of_lookup h)
  · rfl

/-- The elements of a list that are not in `visited`, each once, in order. -/
def unseen (visited : List QualifiedName) : List QualifiedName → List QualifiedName
  | [] => []
  | t :: rest => if t ∈ visited then unseen visited rest else t :: unseen (t :: visited) rest

/-- How many names of a list have not been visited. -/
def unvisited (names visited : List QualifiedName) : Nat :=
  names.countP fun t => decide (t ∉ visited)

theorem unvisited_congr {names visited visited' : List QualifiedName}
    (h : ∀ t, t ∈ visited ↔ t ∈ visited') : unvisited names visited = unvisited names visited' := by
  simp only [unvisited, h]

/-- Visiting a name of the list leaves fewer. -/
theorem unvisited_cons_lt {names visited : List QualifiedName} {t : QualifiedName}
    (hmem : t ∈ names) (ht : t ∉ visited) :
    unvisited names (t :: visited) < unvisited names visited := by
  induction names with
  | nil => simp at hmem
  | cons u names ih =>
    rw [unvisited, unvisited, List.countP_cons, List.countP_cons]
    -- the name that is visited is no longer counted, and all others count as before
    by_cases hu : u = t
    · have hle : unvisited names (t :: visited) ≤ unvisited names visited :=
        List.countP_mono_left fun v _ h => by simp_all
      have hnew : decide (u ∉ visited) = true := by simp [hu, ht]
      have hold : decide (u ∉ t :: visited) = false := by simp [hu]
      simp only [hnew, hold]
      simp only [unvisited] at hle
      simp only [Bool.false_eq_true, if_false, if_true]
      omega
    · have hlt := ih (by simpa [Ne.symm hu] using hmem)
      have hsame : decide (u ∉ t :: visited) = decide (u ∉ visited) := by simp [hu]
      rw [hsame]
      simp only [unvisited] at hlt
      omega

/-- Every unseen name takes one away from what is left to visit. -/
theorem unvisited_unseen {names visited supers : List QualifiedName}
    (h : ∀ t ∈ supers, t ∈ names) :
    unvisited names (unseen visited supers ++ visited) + (unseen visited supers).length ≤
      unvisited names visited := by
  induction supers generalizing visited with
  | nil => simp [unseen]
  | cons t rest ih =>
    rw [unseen]
    split
    · exact ih fun u hu => h u (by simp [hu])
    · rename_i ht
      -- the new name is visited from here on, which makes up for the place that it takes
      have hlt := unvisited_cons_lt (h t (by simp)) ht
      have hle := @ih (t :: visited) fun u hu => h u (by simp [hu])
      have hsame : ∀ u, u ∈ t :: unseen (t :: visited) rest ++ visited ↔
          u ∈ unseen (t :: visited) rest ++ t :: visited := fun u => by
        simp only [List.cons_append, List.mem_cons, List.mem_append, or_left_comm]
      rw [unvisited_congr hsame]
      simp only [List.length_cons]
      omega

/-- Walks from the types in `frontier` through ever further supertypes until `target` is found
among them. Types that the graph does not know lead nowhere, and no type is walked through twice:
`visited` holds those that were put on the frontier. -/
def walk (target : QualifiedName) (l : Lineage g) (visited : List QualifiedName) :
    List QualifiedName → Bool × Lineage g
  | [] => (false, l)
  | t :: rest =>
    match _h : l.ask t with
    | (none, l) => walk target l visited rest
    | (some supers, l) =>
      if target ∈ supers then (true, l)
      else
        let new := unseen visited supers
        walk target l (new ++ visited) (rest ++ new)
termination_by frontier => unvisited g.mentioned visited + frontier.length
decreasing_by
  · -- the frontier loses a type and gets none
    simp
  · -- whatever is put on the frontier is no longer unvisited
    have hsupers : g.supertypes? t = some supers := by rw [← ask_fst, _h]
    have := @unvisited_unseen g.mentioned visited supers fun u hu =>
      TypeGraph.mem_mentioned hsupers hu
    simp only [List.length_append, List.length_cons]
    omega

/-- Whether `t` derives from `target`. Every type derives from itself; all else is found by a walk,
once. -/
def isDerived (l : Lineage g) (t target : QualifiedName) : Bool × Lineage g :=
  if t = target then (true, l)
  else
    match l.results.lookup (t, target) with
    | some answer => (answer, l)
    | none =>
      let (answer, l) := l.walk target [t] [t]
      (answer, { l with results := l.results ++ [((t, target), answer)] })

end Lineage

end ScreenSynthesis
