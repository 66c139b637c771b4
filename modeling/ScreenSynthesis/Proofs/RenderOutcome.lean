import ScreenSynthesis.Proofs.RenderedText
import ScreenSynthesis.Proofs.RenderedTypes

/-!
# The outcome of rendering

What rendering comes to can be told from the candidates, their short names and their symbols. A
candidate is rendered if one of its symbols is filled and no container. Rendering succeeds if the
short names of the rendered candidates are identifiers and no two of them are equal. Otherwise it
fails at the first candidate in the order of the source that is at fault behind those before it.

## Key results

- `Session.Reachable.exists_texts_iff`: when candidates can be rendered
- `Session.Reachable.singleton_eq_error_iff`: when a candidate is at fault behind others
- `Session.render_joins_blocks_or_names_fault`: the source, or the error, that rendering gives
-/

namespace ScreenSynthesis

namespace Session

open Rendering

variable {s : Session} {cs : List Candidate} {c : Candidate}

/-- The candidates of which something is rendered. -/
def renderedOf (s : Session) (cs : List Candidate) : List Candidate := cs.filter s.IsRendered

/-- `renderedOf` are the candidates that `IsRendered` holds for. -/
private theorem mem_renderedOf_iff : c ∈ s.renderedOf cs ↔ c ∈ cs ∧ s.IsRendered c := by
  rw [renderedOf, List.mem_filter, decide_eq_true_iff]

/-- The text of the block of a candidate, if its short name is an identifier: a comment with the
name of the owner, and below it the `impl` with the items of `memberItems`, one behind the other. -/
def ownerBlock? (s : Session) (c : Candidate) : Option String :=
  (identifier? c.owner.shortName).map fun word =>
    "// " ++ c.owner.text ++ "\n" ++
      ("impl " ++ word ++ " \x7b " ++ " ".intercalate ((s.memberItems c).map printTokens) ++
        " \x7d") ++ "\n"

/-- Whether candidates can be rendered together. -/
structure Renderable (s : Session) (cs : List Candidate) : Prop where
  named : ∀ c ∈ s.renderedOf cs, identifier? c.owner.shortName ≠ none
  distinct : ((s.renderedOf cs).map (·.owner.shortName)).Nodup

/-- What is wrong with a candidate behind others: its short name is no identifier, or another
candidate has been rendered under this name. -/
inductive RenderFault (s : Session) (before : List Candidate) (c : Candidate) :
    SynthesisError → Prop where
  | invalidIdentifier (hrendered : s.IsRendered c) (hnone : identifier? c.owner.shortName = none) :
    RenderFault s before c (.invalidIdentifier c.owner.shortName)
  | collision {first : Candidate} (hrendered : s.IsRendered c)
      (hsome : identifier? c.owner.shortName ≠ none) (hfirst : first ∈ s.renderedOf before)
      (hname : first.owner.shortName = c.owner.shortName)
      (hunique : ∀ other ∈ s.renderedOf before,
        other.owner.shortName = c.owner.shortName → other = first) :
    RenderFault s before c (.renderCollision c.owner.shortName first.owner c.owner)

/-- `renderOwner` succeeds if the short name is an identifier, or if there is nothing to render. -/
private theorem Reachable.exists_renderOwner_iff (h : s.Reachable)
    (hphase : s.phase = .bodiesSynthesized) (hc : c ∈ s.candidates.candidates) :
    (∃ found, s.renderOwner c.owner = .ok found) ↔
      (s.IsRendered c → identifier? c.owner.shortName ≠ none) := by
  rw [h.renderOwner_eq hphase hc, requireIdentifier]
  -- the short name matters only if something is rendered
  by_cases hyes : s.IsRendered c
  · cases identifier? c.owner.shortName <;> simp [hyes, Except.map]
  · simp [hyes]

/-- `blocks` are those of the rendered candidates whose short names are identifiers. -/
private theorem Reachable.blocks_eq (h : s.Reachable) (hphase : s.phase = .bodiesSynthesized)
    (hcs : ∀ c ∈ cs, c ∈ s.candidates.candidates) :
    s.blocks cs = (s.renderedOf cs).filterMap fun c =>
      (identifier? c.owner.shortName).map fun word =>
        (c.owner, implBlock word (s.memberItems c)) := by
  rw [blocks, renderedOf, List.filterMap_filter]
  refine List.filterMap_congr fun c hc => ?_
  rw [h.renderOwner_eq hphase (hcs c hc), requireIdentifier]
  by_cases hyes : s.IsRendered c
  · cases identifier? c.owner.shortName <;> simp [hyes, Except.map]
  · simp [hyes]

/-- `blockNames` are the short names of all rendered candidates, if these are identifiers. -/
private theorem Reachable.blockNames_eq (h : s.Reachable) (hphase : s.phase = .bodiesSynthesized)
    (hcs : ∀ c ∈ cs, c ∈ s.candidates.candidates)
    (hnamed : ∀ c ∈ s.renderedOf cs, identifier? c.owner.shortName ≠ none) :
    s.blockNames cs = (s.renderedOf cs).map (·.owner.shortName) := by
  rw [blockNames, h.blocks_eq hphase hcs, List.map_filterMap, ← List.filterMap_eq_map]
  refine List.filterMap_congr fun c hc => ?_
  obtain ⟨word, hword⟩ := Option.ne_none_iff_exists'.1 (hnamed c hc)
  rw [hword]
  rfl

/-- `ownerBlock?` is the text of the `block` of a rendered candidate. -/
private theorem Reachable.ownerBlock?_eq (h : s.Reachable) (hphase : s.phase = .bodiesSynthesized)
    (hc : c ∈ s.renderedOf cs) :
    s.ownerBlock? c = (identifier? c.owner.shortName).map fun word =>
      block c.owner (implBlock word (s.memberItems c)) := by
  have hyes := (mem_renderedOf_iff.1 hc).2
  simp only [ownerBlock?, block, h.printTokens_implBlock hphase hyes]

/-- Candidates are `Renderable` if `renderOwner` succeeds for each and their `blockNames` are
different. -/
private theorem Reachable.renderable_iff (h : s.Reachable) (hphase : s.phase = .bodiesSynthesized)
    (hcs : ∀ c ∈ cs, c ∈ s.candidates.candidates) :
    s.Renderable cs ↔
      (∀ c ∈ cs, ∃ found, s.renderOwner c.owner = .ok found) ∧ (s.blockNames cs).Nodup := by
  -- whatever is rendered has a name that is an identifier
  have howners : (∀ c ∈ cs, ∃ found, s.renderOwner c.owner = .ok found) ↔
      ∀ c ∈ s.renderedOf cs, identifier? c.owner.shortName ≠ none := by
    simp only [mem_renderedOf_iff, and_imp]
    exact forall₂_congr fun c hc => h.exists_renderOwner_iff hphase (hcs c hc)
  rw [howners]
  constructor
  · rintro ⟨hnamed, hdistinct⟩
    exact ⟨hnamed, (h.blockNames_eq hphase hcs hnamed).symm ▸ hdistinct⟩
  · rintro ⟨hnamed, hdistinct⟩
    exact ⟨hnamed, h.blockNames_eq hphase hcs hnamed ▸ hdistinct⟩

/-- `renderCandidates` succeeds exactly for candidates that are `Renderable`. -/
theorem Reachable.exists_texts_iff (h : s.Reachable) (hphase : s.phase = .bodiesSynthesized)
    (hcs : ∀ c ∈ cs, c ∈ s.candidates.candidates) :
    (∃ texts, s.renderCandidates [] cs = .ok texts) ↔ s.Renderable cs := by
  rw [h.renderable_iff hphase hcs]
  simp [renderCandidates_eq_ok_iff]

/-- Of `Renderable` candidates, those that are rendered have different short names. -/
private theorem Renderable.eq_of_shortName_eq (h : s.Renderable cs) {first second : Candidate}
    (hfirst : first ∈ s.renderedOf cs) (hsecond : second ∈ s.renderedOf cs)
    (hname : first.owner.shortName = second.owner.shortName) : first = second :=
  List.inj_on_of_nodup_map h.distinct hfirst hsecond hname

/-- `renderedAfter` has an entry for each of the `Renderable` candidates that is rendered. -/
private theorem Reachable.mem_renderedAfter_iff (h : s.Reachable)
    (hphase : s.phase = .bodiesSynthesized) (hcs : ∀ c ∈ cs, c ∈ s.candidates.candidates)
    (hrenderable : s.Renderable cs) {entry : String × QualifiedName} :
    entry ∈ s.renderedAfter [] cs ↔
      ∃ first ∈ s.renderedOf cs, (first.owner.shortName, first.owner) = entry := by
  have hok := ((h.renderable_iff hphase hcs).1 hrenderable).1
  rw [renderedAfter, List.append_nil, List.mem_reverse, List.mem_map]
  constructor
  · rintro ⟨b, hb, rfl⟩
    obtain ⟨first, hfirst, howner, htokens⟩ := mem_blocks_iff.1 hb
    have hyes := (h.exists_implBlock hphase (hcs first hfirst) htokens).1
    exact ⟨first, mem_renderedOf_iff.2 ⟨hfirst, hyes⟩, by rw [howner]⟩
  · rintro ⟨first, hfirst, rfl⟩
    obtain ⟨hin, hyes⟩ := mem_renderedOf_iff.1 hfirst
    obtain ⟨tokens, htokens⟩ := h.exists_tokens hphase (hcs first hin) hyes (hok first hin)
    exact ⟨(first.owner, tokens), mem_blocks_iff.2 ⟨first, hin, rfl, htokens⟩, rfl⟩

/-- Behind `Renderable` candidates, a name is taken by the one that is rendered under it. -/
private theorem Reachable.lookup_renderedAfter_eq_some_iff (h : s.Reachable)
    (hphase : s.phase = .bodiesSynthesized) (hcs : ∀ c ∈ cs, c ∈ s.candidates.candidates)
    (hrenderable : s.Renderable cs) {name : String} {owner : QualifiedName} :
    (s.renderedAfter [] cs).lookup name = some owner ↔
      ∃ first ∈ s.renderedOf cs, first.owner.shortName = name ∧ first.owner = owner := by
  constructor
  · intro hlookup
    obtain ⟨first, hfirst, hentry⟩ :=
      (h.mem_renderedAfter_iff hphase hcs hrenderable).1 (Lineage.mem_of_lookup hlookup)
    obtain ⟨hname, howner⟩ := Prod.mk.inj hentry
    exact ⟨first, hfirst, hname, howner⟩
  · rintro ⟨first, hfirst, rfl, rfl⟩
    -- whoever has taken the name is the same candidate
    have hmem := (h.mem_renderedAfter_iff hphase hcs hrenderable).2 ⟨first, hfirst, rfl⟩
    refine lookup_eq_some_of_mem hmem fun owner hentry => ?_
    obtain ⟨other, hother, heq⟩ := (h.mem_renderedAfter_iff hphase hcs hrenderable).1 hentry
    obtain ⟨hname, rfl⟩ := Prod.mk.inj heq
    rw [hrenderable.eq_of_shortName_eq hother hfirst hname]

/-- `renderCandidates` fails at a candidate behind `Renderable` ones exactly for its
`RenderFault`. -/
theorem Reachable.singleton_eq_error_iff (h : s.Reachable) (hphase : s.phase = .bodiesSynthesized)
    (hcs : ∀ c ∈ cs, c ∈ s.candidates.candidates) (hc : c ∈ s.candidates.candidates)
    (hrenderable : s.Renderable cs) {e : SynthesisError} :
    s.renderCandidates (s.renderedAfter [] cs) [c] = .error e ↔ s.RenderFault cs c e := by
  -- one candidate fails by itself, or because its name is taken
  rw [renderCandidates_singleton_eq_error_iff, h.renderOwner_eq_error_iff hphase hc]
  constructor
  · rintro (⟨hyes, hnone, rfl⟩ | ⟨tokens, owner, htokens, htaken, rfl⟩)
    · exact .invalidIdentifier hyes hnone
    · obtain ⟨hyes, word, _, hword, -⟩ := h.exists_implBlock hphase hc htokens
      obtain ⟨first, hfirst, hname, rfl⟩ :=
        (h.lookup_renderedAfter_eq_some_iff hphase hcs hrenderable).1 htaken
      exact .collision hyes (hword ▸ nofun) hfirst hname fun other hother hsame =>
        hrenderable.eq_of_shortName_eq hother hfirst (hsame.trans hname.symm)
  · rintro (⟨hyes, hnone⟩ | ⟨hyes, hsome, hfirst, hname, -⟩)
    · exact Or.inl ⟨hyes, hnone, rfl⟩
    · obtain ⟨tokens, htokens⟩ := h.exists_tokens hphase hc hyes
        ((h.exists_renderOwner_iff hphase hc).2 fun _ => hsome)
      exact Or.inr ⟨tokens, _, htokens,
        (h.lookup_renderedAfter_eq_some_iff hphase hcs hrenderable).2 ⟨_, hfirst, hname, rfl⟩, rfl⟩

/-- In the last phase `render` succeeds exactly if the candidates are `Renderable`: the short names
of those of which something is rendered are identifiers and all different. The source is made of
their `ownerBlock?`s in the order of the candidates, each with one item for every symbol of its
owner but the container, and an empty line between them. Otherwise the error is the `RenderFault` of
the first candidate that has one: its short name is no identifier, or the one candidate rendered
under this name before is the first of the two that collide. A candidate of which nothing is
rendered is never at fault. -/
theorem render_joins_blocks_or_names_fault (hs : s.Reachable)
    (hphase : s.phase = .bodiesSynthesized) : (∀ source, s.render = .ok source ↔
      s.Renderable s.candidates.candidates ∧
        source = "\n".intercalate
          ((s.renderedOf s.candidates.candidates).filterMap s.ownerBlock?)) ∧
    ∀ e, s.render = .error e ↔
      ∃ before c after, s.candidates.candidates = before ++ c :: after ∧
        s.Renderable before ∧ s.RenderFault before c e := by
  constructor
  · intro source
    have htexts : (s.blocks s.candidates.candidates).map (fun b => block b.1 b.2) =
        (s.renderedOf s.candidates.candidates).filterMap s.ownerBlock? := by
      rw [hs.blocks_eq hphase fun _ hc => hc, List.map_filterMap]
      refine List.filterMap_congr fun c hc => ?_
      rw [hs.ownerBlock?_eq hphase hc, Option.map_map]
      rfl
    rw [render_eq_ok_iff hphase, hs.renderable_iff hphase fun _ hc => hc, and_assoc, htexts]
  · intro e
    rw [render_eq_map hphase, Result.map_eq_error_iff, renderCandidates_eq_error_iff]
    -- a prefix that is rendered is one that can be rendered together
    refine exists_congr fun before => exists_congr fun c => exists_congr fun after => ?_
    refine and_congr_right fun hsplit => ?_
    have hbefore : ∀ c ∈ before, c ∈ s.candidates.candidates := fun c hc =>
      hsplit ▸ List.mem_append_left _ hc
    have hc : c ∈ s.candidates.candidates :=
      hsplit ▸ List.mem_append_right _ List.mem_cons_self
    rw [hs.exists_texts_iff hphase hbefore]
    exact and_congr_right fun hrenderable =>
      hs.singleton_eq_error_iff hphase hbefore hc hrenderable

/-- A screen with a layout, whose argument is required. -/
def sketch : ClassDecl where
  package := "art"
  name := "Sketch"
  supertypes := [⟨"androidx.fragment.app.Fragment"⟩]
  annotations := [{ name := ⟨markerName⟩, arguments := [⟨none, .classRef "app.Draft"⟩] }]
  delegation := some { arguments := [.path "R.layout.sketch"] }

/-- The source for the editor and the sketch: a nullable argument beside a factory of the user's,
and a required one with all the other members. -/
def drawingSource : String :=
  "// app.Editor\n" ++
  "impl Editor \x7b pub const KEY : & str = \"app.Editor\" ; fn arg (controller : " ++
  "& :: screenkit_runtime :: Controller ,) -> :: core :: result :: Result < " ++
  ":: core :: option :: Option < :: screenkit_runtime :: Parcel > , " ++
  ":: screenkit_runtime :: RuntimeError , > \x7b :: core :: result :: Result :: Ok " ++
  "(controller . arguments () . get_typed (\"app.Editor\" , \"app.Draft\") . cloned ()) " ++
  "\x7d \x7d\n" ++
  "\n" ++
  "// art.Sketch\n" ++
  "impl Sketch \x7b pub const KEY : & str = \"art.Sketch\" ; fn arg (controller : " ++
  "& :: screenkit_runtime :: Controller ,) -> :: core :: result :: Result < " ++
  ":: screenkit_runtime :: Parcel , :: screenkit_runtime :: RuntimeError > " ++
  "\x7b controller . arguments () . require (\"art.Sketch\" , \"app.Draft\") . cloned () \x7d " ++
  "# [must_use] pub fn create_screen (arg : :: screenkit_runtime :: Parcel) -> " ++
  ":: screenkit_runtime :: NavigationDescriptor \x7b # [allow (unused_mut)] let mut arguments = " ++
  ":: screenkit_runtime :: Bundle :: new () ; arguments . put (\"art.Sketch\" , arg) ; " ++
  ":: screenkit_runtime :: NavigationDescriptor :: new (\"art.Sketch\" , move || " ++
  "\x7b :: screenkit_runtime :: Controller :: new (\"art.Sketch\") . with_arguments " ++
  "(arguments . clone ()) \x7d) \x7d " ++
  "fn binding (controller : & :: screenkit_runtime :: Controller , " ++
  "binders : & :: screenkit_runtime :: BinderRegistry ,) -> :: core :: result :: Result < " ++
  ":: std :: sync :: Arc < :: screenkit_runtime :: BoundView > , " ++
  ":: screenkit_runtime :: RuntimeError , > \x7b let binder = binders . get " ++
  "(\"art.databinding.SketchBinding\") ? ; controller . binding_or_init " ++
  "(binder . as_ref ()) \x7d \x7d\n"

/-- The editor and the sketch are rendered. A name that is no identifier does no harm to a class
that is no controller. The first collision behind it is reported. -/
theorem render_joins_blocks_or_names_fault_homes :
    let t := ((new ⟨{ classes := [draft, { screenNamed "a" "1st" with supertypes := [] }, editor,
      sketch] }, by decide⟩ { appNamespace := some "art" } fun _ => true).call .runAll).2
    let s := ((new ⟨{ classes := [{ screenNamed "a" "1st" with supertypes := [] },
      screenNamed "a" "Home", screenNamed "b" "Home", screenNamed "c" "Home"] }, by decide⟩
      {}).call .runAll).2
    (t.Reachable ∧ t.phase = .bodiesSynthesized ∧
      t.render = .ok drawingSource) ∧
    s.Reachable ∧ s.phase = .bodiesSynthesized ∧
      s.render = .error (.renderCollision "Home" ⟨"a.Home"⟩ ⟨"b.Home"⟩) := by
  intro t s
  have ht : t.Reachable := .call (.new _ _ _) .runAll
  have htphase : t.phase = .bodiesSynthesized := by decide +kernel
  have htrenderable : t.Renderable t.candidates.candidates :=
    ⟨by decide +kernel, by decide +kernel⟩
  have hs : s.Reachable := .call (.new _ _ _) .runAll
  have hphase : s.phase = .bodiesSynthesized := by decide +kernel
  let home := candidateNamed 1 "a.Home"
  let other := candidateNamed 2 "b.Home"
  let before := [candidateNamed 0 "a.1st", home]
  have hcandidates : s.candidates.candidates = before ++ other :: [candidateNamed 3 "c.Home"] := by
    decide +kernel
  have hbefore : s.renderedOf before = [home] := by decide +kernel
  have hidentifier : identifier? "Home" ≠ none := by decide +kernel
  have hhome : home.owner.shortName = "Home" := by decide +kernel
  have hother : other.owner.shortName = "Home" := by decide +kernel
  -- what stands before the fault is one screen and a class of which nothing is rendered
  have hrenderable : s.Renderable before := by
    constructor
    · rw [hbefore]
      intro c hc
      rwa [List.mem_singleton.1 hc, hhome]
    · rw [hbefore]
      exact List.nodup_singleton _
  have hfault : s.RenderFault before other
      (.renderCollision other.owner.shortName home.owner other.owner) := by
    refine .collision (by decide +kernel) (hother ▸ hidentifier) ?_ (hhome.trans hother.symm)
      fun c hc _ => ?_
    · rw [hbefore]
      exact List.mem_singleton_self home
    · rw [hbefore] at hc
      exact List.mem_singleton.1 hc
  rw [hother] at hfault
  obtain ⟨hsource, -⟩ := render_joins_blocks_or_names_fault ht htphase
  obtain ⟨-, herror⟩ := render_joins_blocks_or_names_fault hs hphase
  exact ⟨⟨ht, htphase, (hsource _).2 ⟨htrenderable, by decide +kernel⟩⟩, hs, hphase,
    (herror _).2 ⟨before, other, _, hcandidates, hrenderable, hfault⟩⟩

end Session

end ScreenSynthesis
