import ScreenSynthesis.Lineage

/-!
# Lineage queries answer reachability

A lineage is asked one query after the other, and each query leaves memories behind that later
queries use. Whatever was asked before, a query is answered by `TypeGraph.Reachable`.

The walk behind a query keeps two things: all it has put on the frontier is reachable from where it
started (`Reachable`, for the answer yes), and all that has left the frontier leads only to visited
types and not to the target (`Explored`, for the answer no).

## Key results

- `walk_eq_true_iff`: a walk from a type finds its target exactly when the target is reachable
- `resultsSound_isDerived`: a query remembers only answers that are right
- `isDerived_after_iff`: queries after any history are answered by reachability
- `TypeGraph.exists_supertypes?_eq`: type graphs are all finite assignments of supertypes
-/

namespace ScreenSynthesis

/-- Any assignment of supertypes that knows finitely many types is `supertypes?` of a
`TypeGraph`. -/
theorem TypeGraph.exists_supertypes?_eq (direct : QualifiedName → Option (List QualifiedName))
    (names : List QualifiedName) (h : ∀ t, (direct t).isSome → t ∈ names) :
    ∃ g : TypeGraph, ∀ t, g.supertypes? t = direct t := by
  -- a graph with one entry for each name that has supertypes
  refine ⟨⟨names.filterMap fun t => (direct t).map (t, ·)⟩, fun t => ?_⟩
  simp only [TypeGraph.supertypes?]
  have hnames : (direct t).isSome = true → t ∈ names := h t
  clear h
  -- the entries of the graph follow the names, so that the induction is on these
  induction names with
  | nil =>
    cases hd : direct t with
    | none => rfl
    | some supers => simp [hd] at hnames
  | cons name names ih =>
    by_cases hname : t = name
    · subst hname
      cases hd : direct t with
      | none =>
        rw [List.filterMap_cons_none (by simp [hd]), ih (by simp [hd])]
        exact hd
      | some supers =>
        rw [List.filterMap_cons_some (by simp [hd]; rfl)]
        simp
    · have hrest := ih fun hsome => (List.mem_cons.1 (hnames hsome)).resolve_left hname
      cases hd : direct name with
      | none => rw [List.filterMap_cons_none (by simp [hd]), hrest]
      | some supers =>
        rw [List.filterMap_cons_some (by simp [hd]; rfl), List.lookup_cons,
          beq_false_of_ne hname]
        exact hrest

namespace Lineage

variable {g : TypeGraph}

/-! ## Memory of answers -/

/-- `ask` remembers no answer to a query. -/
private theorem results_ask (l : Lineage g) (t : QualifiedName) :
    (l.ask t).2.results = l.results := by
  unfold ask
  split <;> rfl

/-- `walk` remembers no answer to a query, only supertypes: `results` stays as it is. -/
theorem results_walk (target : QualifiedName) (l : Lineage g)
    (visited frontier : List QualifiedName) :
    (walk target l visited frontier).2.results = l.results := by
  -- each step of the walk asks once, and asking leaves the answers alone
  fun_induction walk target l visited frontier with
  | case1 l visited => rfl
  | case2 l visited t rest l' h ih => rw [ih, ← results_ask l t, h]
  | case3 l visited t rest supers l' h hmem => rw [← results_ask l t, h]
  | case4 l visited t rest supers l' h hmem new ih => rw [ih, ← results_ask l t, h]

/-! ## The walk -/

/-- The `unseen` elements of a list are those that were not visited. -/
theorem mem_unseen {u : QualifiedName} {visited supers : List QualifiedName} :
    u ∈ unseen visited supers ↔ u ∈ supers ∧ u ∉ visited := by
  induction supers generalizing visited with
  | nil => simp [unseen]
  | cons t rest ih =>
    rw [unseen]
    split
    · rename_i ht
      rw [ih, List.mem_cons]
      constructor
      · rintro ⟨hu, hv⟩
        exact ⟨Or.inr hu, hv⟩
      · rintro ⟨rfl | hu, hv⟩
        · exact absurd ht hv
        · exact ⟨hu, hv⟩
    · rename_i ht
      rw [List.mem_cons, ih, List.mem_cons, List.mem_cons]
      -- the type itself counts as visited from here on
      by_cases hut : u = t
      · subst hut
        simp [ht]
      · simp [hut]

/-- If `walk` finds its target, then the target is `Reachable` from where the frontier is. -/
private theorem reachable_of_walk {source target : QualifiedName} {l : Lineage g}
    {visited frontier : List QualifiedName} (hfrontier : ∀ u ∈ frontier, g.Reachable source u)
    (h : (walk target l visited frontier).1 = true) : g.Reachable source target := by
  -- the walk ends empty-handed, skips an unknown type, meets its target, or goes on
  fun_induction walk target l visited frontier with
  | case1 l visited => exact absurd h (by simp)
  | case2 l visited t rest l' hask ih =>
    exact ih (fun u hu => hfrontier u (List.mem_cons_of_mem t hu)) h
  | case3 l visited t rest supers l' hask hmem =>
    have hsupers : g.supertypes? t = some supers := by rw [← ask_fst l, hask]
    exact .step (hfrontier t List.mem_cons_self) hsupers hmem
  | case4 l visited t rest supers l' hask hmem new ih =>
    have hsupers : g.supertypes? t = some supers := by rw [← ask_fst l, hask]
    refine ih (fun u hu => ?_) h
    rcases List.mem_append.1 hu with hu | hu
    · exact hfrontier u (List.mem_cons_of_mem t hu)
    · exact .step (hfrontier t List.mem_cons_self) hsupers (mem_unseen.1 hu).1

/-- Every visited type that is not on the frontier leads only to visited types, and not to the
target. This is what `walk` preserves as long as it has not found its target. -/
def Explored (g : TypeGraph) (target : QualifiedName) (visited frontier : List QualifiedName) :
    Prop :=
  ∀ u ∈ visited, u ∉ frontier → ∀ supers, g.supertypes? u = some supers →
    target ∉ supers ∧ ∀ v ∈ supers, v ∈ visited

/-- `Explored` stays true when a type that the graph does not know leaves the frontier. -/
theorem Explored.skip {target t : QualifiedName} {visited rest : List QualifiedName}
    (h : Explored g target visited (t :: rest)) (hnone : g.supertypes? t = none) :
    Explored g target visited rest := by
  intro u hu hrest supers hsupers
  have hut : u ≠ t := fun hut => by rw [hut, hnone] at hsupers; exact nomatch hsupers
  exact h u hu (by simp [hut, hrest]) supers hsupers

/-- `Explored` stays true when a type leaves the frontier and its `unseen` supertypes are put
there. -/
private theorem Explored.expand {target t : QualifiedName}
    {visited rest supers : List QualifiedName}
    (h : Explored g target visited (t :: rest)) (hsupers : g.supertypes? t = some supers)
    (htarget : target ∉ supers) :
    Explored g target (unseen visited supers ++ visited) (rest ++ unseen visited supers) := by
  intro u hu hfrontier supers' hsupers'
  have hrest : u ∉ rest := fun hmem => hfrontier (List.mem_append_left _ hmem)
  have hunseen : u ∉ unseen visited supers := fun hmem => hfrontier (List.mem_append_right _ hmem)
  have hvisited : u ∈ visited := (List.mem_append.1 hu).resolve_left hunseen
  -- the type itself has just been looked at; all others were explored before
  by_cases hut : u = t
  · subst hut
    rw [hsupers] at hsupers'
    obtain rfl : supers = supers' := Option.some.inj hsupers'
    refine ⟨htarget, fun v hv => List.mem_append.2 ?_⟩
    by_cases hseen : v ∈ visited
    · exact Or.inr hseen
    · exact Or.inl (mem_unseen.2 ⟨hv, hseen⟩)
  · have ⟨hout, hin⟩ := h u hvisited (by simp [hut, hrest]) supers' hsupers'
    exact ⟨hout, fun v hv => List.mem_append_right _ (hin v hv)⟩

/-- When the frontier is empty, `Explored` says that the visited types are closed under
`Reachable`. -/
private theorem Explored.mem_visited {target source u : QualifiedName}
    {visited : List QualifiedName}
    (h : Explored g target visited []) (hsource : source ∈ visited) (hu : g.Reachable source u) :
    u ∈ visited := by
  -- step by step along the way: what is visited has visited supertypes
  induction hu with
  | refl => exact hsource
  | step hreach hsupers hmem ih => exact (h _ ih List.not_mem_nil _ hsupers).2 _ hmem

/-- When the frontier is empty, `Explored` says that the target is not `Reachable` from another
visited type. -/
private theorem Explored.not_reachable {target source : QualifiedName}
    {visited : List QualifiedName}
    (h : Explored g target visited []) (hsource : source ∈ visited) (hne : source ≠ target) :
    ¬ g.Reachable source target := by
  intro hreach
  -- the last step of a way to the target would start at a visited type
  cases hreach with
  | refl => exact hne rfl
  | step hreach hsupers hmem =>
    exact (h _ (h.mem_visited hsource hreach) List.not_mem_nil _ hsupers).1 hmem

/-- A `walk` that ends without its target has explored all that is `Reachable`. -/
private theorem not_reachable_of_walk {source target : QualifiedName} {l : Lineage g}
    {visited frontier : List QualifiedName} (hexplored : Explored g target visited frontier)
    (hsource : source ∈ visited) (hne : source ≠ target)
    (h : (walk target l visited frontier).1 = false) : ¬ g.Reachable source target := by
  -- `Explored` is the invariant; only the end of the walk uses it
  fun_induction walk target l visited frontier with
  | case1 l visited => exact hexplored.not_reachable hsource hne
  | case2 l visited t rest l' hask ih =>
    have hnone : g.supertypes? t = none := by rw [← ask_fst l, hask]
    exact ih (hexplored.skip hnone) hsource h
  | case3 l visited t rest supers l' hask hmem => exact absurd h (by simp)
  | case4 l visited t rest supers l' hask hmem new ih =>
    have hsupers : g.supertypes? t = some supers := by rw [← ask_fst l, hask]
    exact ih (hexplored.expand hsupers hmem) (List.mem_append_right _ hsource) h

/-- `walk` from one type finds another exactly when it is `Reachable`. -/
theorem walk_eq_true_iff {t target : QualifiedName} (l : Lineage g) (hne : t ≠ target) :
    (walk target l [t] [t]).1 = true ↔ g.Reachable t target := by
  constructor
  · have hfrontier : ∀ u ∈ [t], g.Reachable t u := fun u hu => by
      rw [List.mem_singleton.1 hu]
      exact .refl
    exact reachable_of_walk hfrontier
  · intro hreach
    -- at first all visited types are on the frontier
    have hexplored : Explored g target [t] [t] := fun u hu hout => absurd hu hout
    cases hwalk : (walk target l [t] [t]).1 with
    | true => rfl
    | false =>
      exact absurd hreach (not_reachable_of_walk hexplored List.mem_cons_self hne hwalk)

/-! ## Queries one after the other -/

/-- Every answer among the `results` is right. -/
def ResultsSound (l : Lineage g) : Prop :=
  ∀ entry ∈ l.results, (entry.2 = true ↔ g.Reachable entry.1.1 entry.1.2)

/-- `isDerived` answers by `Reachable` if the remembered `results` are right. -/
theorem isDerived_eq_true_iff {l : Lineage g} (h : l.ResultsSound) (t target : QualifiedName) :
    (l.isDerived t target).1 = true ↔ g.Reachable t target := by
  unfold isDerived
  split
  · -- a type derives from itself without a walk
    rename_i heq
    subst heq
    exact ⟨fun _ => .refl, fun _ => rfl⟩
  · rename_i hne
    split
    · -- an answer is remembered, or it takes a walk to find it
      rename_i answer hlookup
      exact h _ (mem_of_lookup hlookup)
    · exact walk_eq_true_iff l hne

/-- `isDerived` preserves `ResultsSound`. -/
theorem resultsSound_isDerived {l : Lineage g} (h : l.ResultsSound) (t target : QualifiedName) :
    (l.isDerived t target).2.ResultsSound := by
  unfold isDerived
  split
  · exact h
  · rename_i hne
    split
    · exact h
    · intro entry hentry
      -- the walk itself remembers no answers, so the only new one is its own
      simp only [List.mem_append, List.mem_singleton, results_walk] at hentry
      rcases hentry with hentry | rfl
      · exact h entry hentry
      · exact walk_eq_true_iff l hne

/-- What is known after some queries, each a type and its target. -/
def after (l : Lineage g) (queries : List (QualifiedName × QualifiedName)) : Lineage g :=
  queries.foldl (fun l query => (l.isDerived query.1 query.2).2) l

/-- `ResultsSound` holds after any queries if it holds before them. -/
private theorem resultsSound_after {l : Lineage g} (h : l.ResultsSound)
    (queries : List (QualifiedName × QualifiedName)) : (l.after queries).ResultsSound := by
  induction queries generalizing l with
  | nil => exact h
  | cons query rest ih => exact ih (resultsSound_isDerived h query.1 query.2)

/-- `empty` has no `results` that could be wrong. -/
theorem resultsSound_empty (g : TypeGraph) : (empty g).ResultsSound :=
  fun _ hentry => nomatch hentry

/-- `isDerived` says whether the target is `Reachable`, whatever was asked before, and so gives the
answer that the first query of all would have got. -/
theorem isDerived_after_iff (g : TypeGraph) (queries : List (QualifiedName × QualifiedName))
    (t target : QualifiedName) :
    ((((empty g).after queries).isDerived t target).1 = true ↔ g.Reachable t target) ∧
    (((empty g).after queries).isDerived t target).1 = ((empty g).isDerived t target).1 := by
  have hfirst := isDerived_eq_true_iff (resultsSound_empty g) t target
  have hlater := isDerived_eq_true_iff (resultsSound_after (resultsSound_empty g) queries) t target
  exact ⟨hlater, Bool.eq_iff_iff.2 (hlater.trans hfirst.symm)⟩

end Lineage

end ScreenSynthesis
