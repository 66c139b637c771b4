import Mathlib.Data.Finset.Card
import ScreenSynthesis.Proofs.LineageReachability
import ScreenSynthesis.Proofs.Lookup

/-!
# What the memory of a lineage saves

Queries ask a graph for supertypes, and what they ask for is remembered. To say how often a graph is
asked, the queries are written down once more, for graphs whose answers have effects. A graph that
takes down every question shows that no type is asked for twice, and that what is remembered is just
what was asked: edges for the types, and answers for the queries.

## Key results

- `run_walkBy`, `run_isDerivedBy`: what a watched graph takes down, beside the same answers
- `Remembers.isDerived`, `run_afterBy`: memory and questions agree after one query and after many
- `asked_once_and_remembered`: what is asked and remembered over any history of queries
-/

namespace ScreenSynthesis

/-- What a graph may answer when it is asked for `supertypes?` of a type. -/
def TypeGraph.Answer (g : TypeGraph) (t : QualifiedName) : Type :=
  { answer : Option (List QualifiedName) // answer = g.supertypes? t }

/-- A graph that takes down every type for whose `supertypes?` it is asked. -/
def TypeGraph.watched (g : TypeGraph) (t : QualifiedName) :
    StateM (List QualifiedName) (g.Answer t) := do
  let asked ← get
  set (asked ++ [t])
  return ⟨g.supertypes? t, rfl⟩

namespace Lineage

variable {g : TypeGraph}

/-! ## Queries with effects -/

section Steps

variable {m : Type → Type} [Monad m] (direct : (t : QualifiedName) → m (g.Answer t))

/-- Keeps among the `edges` what the graph has answered for a type. -/
def remember (l : Lineage g) (t : QualifiedName) (answer : g.Answer t) : Lineage g :=
  { l with
    edges := l.edges ++ [(t, answer.1)]
    edges_sound := by
      intro entry h
      rcases List.mem_append.1 h with h | h
      · exact l.edges_sound entry h
      · rw [List.mem_singleton.1 h]
        exact answer.2 }

/-- `ask` with effects: the graph is asked through `direct` if memory does not have the type. -/
def askBy (l : Lineage g) (t : QualifiedName) : m (g.Answer t × Lineage g) :=
  match h : l.edges.lookup t with
  | some answer => pure (⟨answer, l.edges_sound _ (mem_of_lookup h)⟩, l)
  | none => do
    let answer ← direct t
    return (answer, l.remember t answer)

/-- `walk` with effects: the steps are the same, but each asks by `askBy`. -/
def walkBy (target : QualifiedName) (l : Lineage g) (visited : List QualifiedName) :
    List QualifiedName → m (Bool × Lineage g)
  | [] => return (false, l)
  | t :: rest => do
    match ← l.askBy direct t with
    | (⟨none, _⟩, l) => walkBy target l visited rest
    | (⟨some supers, _h⟩, l) =>
      if target ∈ supers then return (true, l)
      else
        let new := unseen visited supers
        walkBy target l (new ++ visited) (rest ++ new)
termination_by frontier => unvisited g.mentioned visited + frontier.length
decreasing_by
  · simp
  · have := @unvisited_unseen g.mentioned visited supers fun u hu =>
      TypeGraph.mem_mentioned _h.symm hu
    simp only [List.length_append, List.length_cons]
    omega

/-- `isDerived` with effects: a query that needs a walk takes it by `walkBy`. -/
def isDerivedBy (l : Lineage g) (t target : QualifiedName) : m (Bool × Lineage g) :=
  if t = target then return (true, l)
  else
    match l.results.lookup (t, target) with
    | some answer => return (answer, l)
    | none => do
      let (answer, l) ← l.walkBy direct target [t] [t]
      return (answer, { l with results := l.results ++ [((t, target), answer)] })

/-- `after` with effects: the steps of some queries, one after the other. -/
def afterBy (l : Lineage g) (queries : List (QualifiedName × QualifiedName)) : m (Lineage g) :=
  queries.foldlM (fun l query => return (← l.isDerivedBy direct query.1 query.2).2) l

end Steps

/-! ## Questions to the graph -/

/-- How `edges` grow while the graph is asked for types that were not remembered. A type is not
remembered twice if none was before. -/
structure Learns (l : Lineage g) (asked : List QualifiedName) (l' : Lineage g) : Prop where
  edges_eq : l'.edges = l.edges ++ asked.map fun t => (t, g.supertypes? t)
  nodup : (l.edges.map Prod.fst).Nodup → (l'.edges.map Prod.fst).Nodup

theorem Learns.refl (l : Lineage g) : l.Learns [] l := ⟨(List.append_nil _).symm, id⟩

theorem Learns.trans {l l' l'' : Lineage g} {asked asked' : List QualifiedName}
    (h : l.Learns asked l') (h' : l'.Learns asked' l'') : l.Learns (asked ++ asked') l'' := by
  refine ⟨?_, fun hnodup => h'.nodup (h.nodup hnodup)⟩
  rw [h'.edges_eq, h.edges_eq, List.map_append, List.append_assoc]

/-- `askBy` of a `watched` graph gives what `ask` gives, and takes down the type if memory does not
have it. -/
private theorem run_askBy {l l' : Lineage g} {t : QualifiedName}
    {answer : Option (List QualifiedName)}
    (hask : l.ask t = (answer, l')) (before : List QualifiedName) :
    ∃ asked h, (l.askBy g.watched t).run before = ((⟨answer, h⟩, l'), before ++ asked) ∧
      l.Learns asked l' ∧ ∀ u ∈ asked, u = t := by
  have hanswer : answer = g.supertypes? t := by rw [← ask_fst l t, hask]
  unfold ask at hask
  unfold askBy
  -- memory has the type, and then nothing is taken down, or it has not
  split at hask
  · rename_i known hlookup
    obtain ⟨rfl, rfl⟩ := Prod.mk.inj hask
    refine ⟨[], hanswer, ?_, .refl l, List.forall_mem_nil _⟩
    rw [List.append_nil]
    split
    · rename_i known' hlookup'
      obtain rfl : known = known' := Option.some.inj (hlookup.symm.trans hlookup')
      rfl
    · rename_i hnone
      exact nomatch hlookup.symm.trans hnone
  · rename_i hlookup
    obtain ⟨rfl, rfl⟩ := Prod.mk.inj hask
    -- the type is new to memory, so its edges are no second ones
    refine ⟨[t], hanswer, ?_, ⟨rfl, fun hnodup => ?_⟩, fun u hu => List.mem_singleton.1 hu⟩
    · split
      · rename_i known hsome
        exact nomatch hsome.symm.trans hlookup
      · rfl
    · rw [List.map_append, List.map_singleton, ← List.concat_eq_append]
      exact hnodup.concat (lookup_eq_none_iff_not_mem.1 hlookup)

section

variable {target t : QualifiedName} {l l' : Lineage g} {visited rest supers : List QualifiedName}
  {before after : List QualifiedName}

private theorem run_walkBy_of_unknown {h : none = g.supertypes? t}
    (hrun : (l.askBy g.watched t).run before = ((⟨none, h⟩, l'), after)) :
    (walkBy g.watched target l visited (t :: rest)).run before =
      (walkBy g.watched target l' visited rest).run after := by
  rw [walkBy, StateT.run_bind, hrun]
  rfl

private theorem run_walkBy_of_mem {h : some supers = g.supertypes? t}
    (hrun : (l.askBy g.watched t).run before = ((⟨some supers, h⟩, l'), after))
    (hmem : target ∈ supers) :
    (walkBy g.watched target l visited (t :: rest)).run before = ((true, l'), after) := by
  rw [walkBy, StateT.run_bind, hrun]
  show StateT.run (if target ∈ supers then _ else _) after = _
  rw [if_pos hmem]
  rfl

private theorem run_walkBy_of_not_mem {h : some supers = g.supertypes? t}
    (hrun : (l.askBy g.watched t).run before = ((⟨some supers, h⟩, l'), after))
    (hmem : target ∉ supers) :
    (walkBy g.watched target l visited (t :: rest)).run before =
      (walkBy g.watched target l' (unseen visited supers ++ visited)
        (rest ++ unseen visited supers)).run after := by
  rw [walkBy, StateT.run_bind, hrun]
  show StateT.run (if target ∈ supers then _ else _) after = _
  rw [if_neg hmem]

end

/-- `walkBy` of a `watched` graph gives what `walk` gives. All that it asks for is `Reachable`. -/
theorem run_walkBy {source : QualifiedName} (target : QualifiedName) (l : Lineage g)
    (visited : List QualifiedName) {frontier : List QualifiedName}
    (hfrontier : ∀ u ∈ frontier, g.Reachable source u) (before : List QualifiedName) :
    ∃ asked, (walkBy g.watched target l visited frontier).run before =
        (walk target l visited frontier, before ++ asked) ∧
      l.Learns asked (walk target l visited frontier).2 ∧ ∀ u ∈ asked, g.Reachable source u := by
  -- along the walk: the frontier can be reached, and so can what is asked for there
  fun_induction walk target l visited frontier generalizing before with
  | case1 l visited =>
    rw [walkBy]
    exact ⟨[], by rw [List.append_nil]; rfl, .refl l, List.forall_mem_nil _⟩
  | case2 l visited t rest l' hask ih =>
    obtain ⟨asked, h, hrun, hlearns, hasked⟩ := run_askBy hask before
    obtain ⟨ht, hrest⟩ := List.forall_mem_cons.1 hfrontier
    obtain ⟨asked', hrun', hlearns', hasked'⟩ := ih hrest (before ++ asked)
    refine ⟨asked ++ asked', ?_, hlearns.trans hlearns', ?_⟩
    · rw [run_walkBy_of_unknown hrun, hrun', List.append_assoc]
    · exact List.forall_mem_append.2 ⟨fun u hu => hasked u hu ▸ ht, hasked'⟩
  | case3 l visited t rest supers l' hask hmem =>
    obtain ⟨asked, h, hrun, hlearns, hasked⟩ := run_askBy hask before
    exact ⟨asked, run_walkBy_of_mem hrun hmem, hlearns,
      fun u hu => hasked u hu ▸ hfrontier t List.mem_cons_self⟩
  | case4 l visited t rest supers l' hask hmem new ih =>
    obtain ⟨asked, h, hrun, hlearns, hasked⟩ := run_askBy hask before
    obtain ⟨ht, hrest⟩ := List.forall_mem_cons.1 hfrontier
    have hnew : ∀ u ∈ new, g.Reachable source u := fun u hu =>
      .step ht h.symm (mem_unseen.1 hu).1
    obtain ⟨asked', hrun', hlearns', hasked'⟩ :=
      ih (List.forall_mem_append.2 ⟨hrest, hnew⟩) (before ++ asked)
    refine ⟨asked ++ asked', ?_, hlearns.trans hlearns', ?_⟩
    · rw [run_walkBy_of_not_mem hrun hmem, hrun', List.append_assoc]
    · exact List.forall_mem_append.2 ⟨fun u hu => hasked u hu ▸ ht, hasked'⟩

/-- `isDerivedBy` of a `watched` graph gives what `isDerived` gives. All that it asks for is
`Reachable`, and a query that is remembered or that needs no walk asks for nothing. -/
theorem run_isDerivedBy (l : Lineage g) (t target : QualifiedName)
    (before : List QualifiedName) :
    ∃ asked, (l.isDerivedBy g.watched t target).run before =
        (l.isDerived t target, before ++ asked) ∧
      l.Learns asked (l.isDerived t target).2 ∧ (∀ u ∈ asked, g.Reachable t u) ∧
      (t = target ∨ (t, target) ∈ l.results.map Prod.fst → asked = []) := by
  unfold isDerivedBy isDerived
  split
  · -- a type derives from itself, and nothing is asked
    exact ⟨[], by rw [List.append_nil]; rfl, .refl l, List.forall_mem_nil _, fun _ => rfl⟩
  · rename_i hne
    cases hlookup : l.results.lookup (t, target) with
    | some answer =>
      exact ⟨[], by rw [List.append_nil]; rfl, .refl l, List.forall_mem_nil _, fun _ => rfl⟩
    | none =>
      -- a walk starts at the type alone, which it can reach
      have hsource : ∀ u ∈ [t], g.Reachable t u := fun u hu => List.mem_singleton.1 hu ▸ .refl
      obtain ⟨asked, hrun, hlearns, hasked⟩ := run_walkBy target l [t] hsource before
      refine ⟨asked, ?_, ⟨hlearns.edges_eq, hlearns.nodup⟩, hasked, fun h => ?_⟩
      · rw [StateT.run_bind, hrun]
        rfl
      · exact absurd (h.resolve_left hne) (lookup_eq_none_iff_not_mem.1 hlookup)

/-! ## What is remembered -/

/-- `isDerived` adds its query to the `results` if it is not among them and a walk is needed for
it. -/
private theorem map_fst_results_isDerived (l : Lineage g) (t target : QualifiedName) :
    (l.isDerived t target).2.results.map Prod.fst =
      if t = target ∨ (t, target) ∈ l.results.map Prod.fst then l.results.map Prod.fst
      else l.results.map Prod.fst ++ [(t, target)] := by
  unfold isDerived
  split
  · rename_i heq
    rw [if_pos (Or.inl heq)]
  · rename_i hne
    cases hlookup : l.results.lookup (t, target) with
    | some answer =>
      have hmem : (t, target) ∈ l.results.map Prod.fst := isSome_lookup_iff.1 (by simp [hlookup])
      rw [if_pos (Or.inr hmem)]
    | none =>
      have hnew : (t, target) ∉ l.results.map Prod.fst := lookup_eq_none_iff_not_mem.1 hlookup
      rw [if_neg (not_or.2 ⟨hne, hnew⟩)]
      -- a walk remembers edges only; the one answer is that of the query
      simp only [results_walk, List.map_append, List.map_singleton]

private theorem mem_results_isDerived_iff {l : Lineage g} {t target : QualifiedName}
    {query : QualifiedName × QualifiedName} :
    query ∈ (l.isDerived t target).2.results.map Prod.fst ↔
      query ∈ l.results.map Prod.fst ∨ query = (t, target) ∧ t ≠ target := by
  rw [map_fst_results_isDerived]
  split
  · rename_i hold
    refine ⟨Or.inl, ?_⟩
    -- the query itself adds nothing: it is there, or it is about a type and itself
    rintro (hmem | ⟨rfl, hne⟩)
    · exact hmem
    · exact hold.resolve_left hne
  · rename_i hnew
    rw [List.mem_append, List.mem_singleton, and_iff_left (not_or.1 hnew).1]

/-- `isDerived` adds no second answer to a query. -/
private theorem nodup_results_isDerived {l : Lineage g} (h : (l.results.map Prod.fst).Nodup)
    (t target : QualifiedName) : ((l.isDerived t target).2.results.map Prod.fst).Nodup := by
  rw [map_fst_results_isDerived]
  split
  · exact h
  · rename_i hnew
    rw [← List.concat_eq_append]
    exact h.concat (not_or.1 hnew).2

/-! ## Histories of queries -/

/-- Memory is what came of some queries, for which the graph was asked for some types: these have
their `edges`, and the queries about two types have `results`. -/
structure Remembers (l : Lineage g) (asked : List QualifiedName)
    (queries : List (QualifiedName × QualifiedName)) : Prop where
  edges_eq : l.edges = asked.map fun t => (t, g.supertypes? t)
  nodup_edges : (l.edges.map Prod.fst).Nodup
  nodup_results : (l.results.map Prod.fst).Nodup
  mem_results_iff : ∀ query, query ∈ l.results.map Prod.fst ↔ query ∈ queries ∧ query.1 ≠ query.2

private theorem remembers_empty (g : TypeGraph) : (empty g).Remembers [] [] :=
  ⟨rfl, .nil, .nil, fun _ => by simp [empty]⟩

section

variable {l : Lineage g} {asked : List QualifiedName}
  {queries : List (QualifiedName × QualifiedName)}

/-- `Remembers` after one more query, with the types that were asked for it. -/
theorem Remembers.isDerived (h : l.Remembers asked queries) {t target : QualifiedName}
    {new : List QualifiedName} (hnew : l.Learns new (l.isDerived t target).2) :
    (l.isDerived t target).2.Remembers (asked ++ new) (queries ++ [(t, target)]) := by
  refine ⟨?_, hnew.nodup h.nodup_edges, nodup_results_isDerived h.nodup_results t target,
    fun query => ?_⟩
  · rw [hnew.edges_eq, h.edges_eq, List.map_append]
  · rw [mem_results_isDerived_iff, h.mem_results_iff, List.mem_append, List.mem_singleton,
      or_and_right]
    refine or_congr_right (and_congr_right ?_)
    -- of a pair that is the query itself both sides say the same
    rintro rfl
    rfl

/-- Of the `results` there is one for each query about two types. -/
private theorem Remembers.length_results (h : l.Remembers asked queries) :
    l.results.length = (queries.filter fun query => query.1 ≠ query.2).toFinset.card := by
  rw [← List.length_map Prod.fst, ← List.toFinset_card_of_nodup h.nodup_results]
  congr 1
  ext query
  simp [h.mem_results_iff]

private theorem Remembers.nodup_asked (h : l.Remembers asked queries) : asked.Nodup := by
  -- edges are remembered under the types that were asked for
  have hkeys := h.nodup_edges
  rw [h.edges_eq, List.map_map] at hkeys
  exact hkeys.of_map

/-- `afterBy` of a `watched` graph leaves the memory that `after` leaves, and this `Remembers` the
queries with the types that were asked for. -/
theorem run_afterBy (h : l.Remembers asked queries)
    (more : List (QualifiedName × QualifiedName)) :
    ∃ new, (l.afterBy g.watched more).run asked = (l.after more, asked ++ new) ∧
      (l.after more).Remembers (asked ++ new) (queries ++ more) := by
  -- by induction on the queries that are still to come, with what is remembered so far
  induction more generalizing l asked queries with
  | nil =>
    refine ⟨[], by rw [List.append_nil]; rfl, ?_⟩
    rw [List.append_nil, List.append_nil]
    exact h
  | cons query more ih =>
    obtain ⟨new, hrun, hlearns, -⟩ := run_isDerivedBy l query.1 query.2 asked
    obtain ⟨new', hrun', hremembers⟩ := ih (h.isDerived hlearns)
    refine ⟨new ++ new', ?_, ?_⟩
    · rw [afterBy, List.foldlM_cons, StateT.run_bind, StateT.run_bind, hrun, ← List.append_assoc]
      exact hrun'
    · rw [← List.append_assoc, List.append_cons]
      exact hremembers

end

/-- After any queries, what has been asked of a `watched` graph, and what one more query asks: no
type is asked for twice (1), and all that the query asks for is `Reachable` from its type (2). A
query that was made before, or that is about a type and itself, asks for nothing (3). The `results`
have an answer for each of the queries that are about two types, and for nothing else (4), and just
the types that were asked for have `edges`, which say their supertypes or that they are unknown
(5). -/
theorem asked_once_and_remembered (g : TypeGraph) (queries : List (QualifiedName × QualifiedName))
    (t target : QualifiedName) :
    ∃ asked new : List QualifiedName,
      let l := (empty g).after queries
      ((empty g).afterBy g.watched queries).run [] = (l, asked) ∧
      (l.isDerivedBy g.watched t target).run asked = (l.isDerived t target, asked ++ new) ∧
      -- (1)
      (asked ++ new).Nodup ∧
      -- (2)
      (∀ u ∈ new, g.Reachable t u) ∧
      -- (3)
      ((t, target) ∈ queries ∨ t = target → new = []) ∧
      -- (4)
      l.results.length = (queries.filter fun query => query.1 ≠ query.2).toFinset.card ∧
      -- (5)
      l.edges = asked.map (fun u => (u, g.supertypes? u)) ∧
      l.edges.length = asked.toFinset.card := by
  obtain ⟨asked, hrun, hmemory⟩ := run_afterBy (remembers_empty g) queries
  -- nothing was asked or remembered in the beginning
  rw [List.nil_append] at hrun
  rw [List.nil_append, List.nil_append] at hmemory
  obtain ⟨new, hquery, hlearns, hreach, hnothing⟩ :=
    run_isDerivedBy ((empty g).after queries) t target asked
  refine ⟨asked, new, hrun, hquery, (hmemory.isDerived hlearns).nodup_asked, hreach,
    fun hold => hnothing ?_, hmemory.length_results, hmemory.edges_eq, ?_⟩
  · -- a query that was made before has its answer in memory, unless none was needed
    by_cases heq : t = target
    · exact Or.inl heq
    · exact Or.inr ((hmemory.mem_results_iff _).2 ⟨hold.resolve_right heq, heq⟩)
  · rw [List.toFinset_card_of_nodup hmemory.nodup_asked, hmemory.edges_eq, List.length_map]

end Lineage

end ScreenSynthesis
