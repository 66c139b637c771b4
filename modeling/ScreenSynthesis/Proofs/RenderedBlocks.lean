import ScreenSynthesis.Proofs.ExecutorErrors
import ScreenSynthesis.Rendering.Source

/-!
# Blocks of rendered source

The source of a unit is put together from blocks, one for each candidate with something to render.
Rendering succeeds if every owner can be rendered and no two blocks belong to owners of one short
name. What an owner's block holds is known without rendering: members have names that are fixed, and
so the only identifier that can be missing is the owner's.

## Key results

- `Session.renderCandidates_append`: candidates are rendered one part after the other
- `Session.renderCandidates_eq_ok_iff`, `Session.render_eq_ok_iff`: when rendering succeeds, and
  with which source
- `Session.renderCandidates_eq_error_iff`: where rendering fails
- `Session.Reachable.renderOwner_eq`: what the block of a candidate is
- `Session.Reachable.renderOwner_eq_error_iff`: when a candidate cannot be rendered
-/

namespace ScreenSynthesis

namespace Session

open Rendering

variable {s : Session}

/-! ## Rendering candidates -/

/-- The blocks of some candidates, each an owner with its tokens. Owners without a block are passed
over. -/
def blocks (s : Session) (cs : List Candidate) : List (QualifiedName × List Token) :=
  cs.filterMap fun c =>
    match s.renderOwner c.owner with
    | .ok (some tokens) => some (c.owner, tokens)
    | _ => none

/-- `blocks` passes over an owner without a block. -/
private theorem blocks_cons_of_none {c : Candidate} (h : s.renderOwner c.owner = .ok none)
    (rest : List Candidate) : s.blocks (c :: rest) = s.blocks rest := by
  simp only [blocks, List.filterMap_cons, h]

/-- `blocks` puts the block of the first owner in front. -/
private theorem blocks_cons_of_some {c : Candidate} {tokens : List Token}
    (h : s.renderOwner c.owner = .ok (some tokens)) (rest : List Candidate) :
    s.blocks (c :: rest) = (c.owner, tokens) :: s.blocks rest := by
  simp only [blocks, List.filterMap_cons, h]

/-- `blocks` has the blocks of the candidates, each with the owner of one. -/
theorem mem_blocks_iff {cs : List Candidate} {b : QualifiedName × List Token} :
    b ∈ s.blocks cs ↔ ∃ c ∈ cs, c.owner = b.1 ∧ s.renderOwner c.owner = .ok (some b.2) := by
  rw [blocks, List.mem_filterMap]
  constructor
  · rintro ⟨c, hc, hblock⟩
    split at hblock
    · rename_i tokens htokens
      obtain rfl := Option.some.inj hblock
      exact ⟨c, hc, rfl, htokens⟩
    · exact nomatch hblock
  · rintro ⟨c, hc, howner, htokens⟩
    exact ⟨c, hc, by rw [htokens, howner]⟩

/-- The names under which the owners of some candidates are rendered. -/
def blockNames (s : Session) (cs : List Candidate) : List String :=
  (s.blocks cs).map fun b => b.1.shortName

/-- `blockNames` are the short names of the owners that have a block. -/
theorem mem_blockNames_iff {cs : List Candidate} {name : String} :
    name ∈ s.blockNames cs ↔
      ∃ c ∈ cs, c.owner.shortName = name ∧ ∃ tokens, s.renderOwner c.owner = .ok (some tokens) := by
  rw [blockNames, List.mem_map]
  constructor
  · rintro ⟨b, hb, rfl⟩
    obtain ⟨c, hc, howner, htokens⟩ := mem_blocks_iff.1 hb
    exact ⟨c, hc, by rw [howner], b.2, htokens⟩
  · rintro ⟨c, hc, rfl, tokens, htokens⟩
    exact ⟨(c.owner, tokens), mem_blocks_iff.2 ⟨c, hc, rfl, htokens⟩, rfl⟩

/-! ## One candidate after the other -/

section

variable {c : Candidate} {rendered : List (String × QualifiedName)} {rest : List Candidate}

/-- `renderCandidates` fails with the first owner. -/
private theorem renderCandidates_cons_of_error {e : SynthesisError}
    (h : s.renderOwner c.owner = .error e) :
    s.renderCandidates rendered (c :: rest) = .error e := by
  rw [renderCandidates, h]
  rfl

/-- `renderCandidates` passes over an owner without a block. -/
private theorem renderCandidates_cons_of_none (h : s.renderOwner c.owner = .ok none) :
    s.renderCandidates rendered (c :: rest) = s.renderCandidates rendered rest := by
  rw [renderCandidates, h]
  rfl

/-- `renderCandidates` fails if the short name of the first owner is taken. -/
private theorem renderCandidates_cons_of_taken {tokens : List Token} {first : QualifiedName}
    (h : s.renderOwner c.owner = .ok (some tokens))
    (htaken : rendered.lookup c.owner.shortName = some first) :
    s.renderCandidates rendered (c :: rest) =
      .error (.renderCollision c.owner.shortName first c.owner) := by
  rw [renderCandidates, h]
  simp only [bind, Except.bind, htaken]
  rfl

/-- `renderCandidates` puts the block of the first owner in front, and its short name is taken
then. -/
private theorem renderCandidates_cons_of_free {tokens : List Token}
    (h : s.renderOwner c.owner = .ok (some tokens))
    (hfree : rendered.lookup c.owner.shortName = none) :
    s.renderCandidates rendered (c :: rest) =
      (s.renderCandidates ((c.owner.shortName, c.owner) :: rendered) rest).map
        (block c.owner tokens :: ·) := by
  rw [renderCandidates, h]
  simp only [bind, Except.bind, hfree]
  rfl

end

/-- `renderCandidates` gives the `blocks` of the candidates, provided that every owner can be
rendered and that no two `blockNames` are equal, those of the blocks before included. -/
theorem renderCandidates_eq_ok_iff {rendered : List (String × QualifiedName)} {cs : List Candidate}
    {texts : List String} :
    s.renderCandidates rendered cs = .ok texts ↔
      (∀ c ∈ cs, ∃ found, s.renderOwner c.owner = .ok found) ∧
      (s.blockNames cs).Nodup ∧ (∀ name ∈ s.blockNames cs, rendered.lookup name = none) ∧
      texts = (s.blocks cs).map fun b => block b.1 b.2 := by
  induction cs generalizing rendered texts with
  | nil =>
    constructor
    · intro h
      obtain rfl := Except.ok.inj h
      exact ⟨nofun, List.nodup_nil, nofun, rfl⟩
    · rintro ⟨-, -, -, rfl⟩
      rfl
  | cons c rest ih =>
    cases howner : s.renderOwner c.owner with
    | error e =>
      rw [renderCandidates_cons_of_error howner]
      constructor
      · exact nofun
      · rintro ⟨hall, -⟩
        obtain ⟨found, hfound⟩ := hall c List.mem_cons_self
        rw [howner] at hfound
        exact nomatch hfound
    | ok found =>
      have hall : (∀ c' ∈ c :: rest, ∃ found, s.renderOwner c'.owner = .ok found) ↔
          ∀ c' ∈ rest, ∃ found, s.renderOwner c'.owner = .ok found := by
        rw [List.forall_mem_cons]
        exact and_iff_right ⟨found, howner⟩
      cases found with
      | none =>
        rw [renderCandidates_cons_of_none howner, ih, hall, blockNames, blockNames,
          blocks_cons_of_none howner]
      | some tokens =>
        rw [hall, blockNames, blocks_cons_of_some howner, List.map_cons, List.map_cons,
          List.nodup_cons, List.forall_mem_cons]
        -- the name of the block may be taken by an owner before
        cases htaken : rendered.lookup c.owner.shortName with
        | some first =>
          rw [renderCandidates_cons_of_taken howner htaken]
          simp
        | none =>
          rw [renderCandidates_cons_of_free howner htaken, Result.map_eq_ok_iff]
          simp only [ih, lookup_cons_eq_none_iff]
          constructor
          · rintro ⟨more, ⟨hok, hnodup, hfree, rfl⟩, rfl⟩
            exact ⟨hok, ⟨fun hmem => (hfree _ hmem).1 rfl, hnodup⟩,
              ⟨trivial, fun name hname => (hfree name hname).2⟩, rfl⟩
          · rintro ⟨hok, ⟨hnew, hnodup⟩, ⟨-, hfree⟩, rfl⟩
            exact ⟨_, ⟨hok, hnodup,
              fun name hname => ⟨fun heq => hnew (heq ▸ hname), hfree name hname⟩, rfl⟩, rfl⟩

/-- The owners that are rendered after some more candidates, under their short names. -/
def renderedAfter (s : Session) (rendered : List (String × QualifiedName)) (cs : List Candidate) :
    List (String × QualifiedName) :=
  ((s.blocks cs).map fun b => (b.1.shortName, b.1)).reverse ++ rendered

/-- `renderedAfter` some candidates and some more is what comes after the latter behind the
former. -/
private theorem renderedAfter_append (rendered : List (String × QualifiedName))
    (before rest : List Candidate) :
    s.renderedAfter rendered (before ++ rest) =
      s.renderedAfter (s.renderedAfter rendered before) rest := by
  simp [renderedAfter, blocks, List.filterMap_append]

/-- `renderCandidates` renders one part of the candidates after the other. -/
theorem renderCandidates_append (rendered : List (String × QualifiedName))
    (before rest : List Candidate) :
    s.renderCandidates rendered (before ++ rest) =
      s.renderCandidates rendered before >>= fun texts =>
        (s.renderCandidates (s.renderedAfter rendered before) rest).map (texts ++ ·) := by
  induction before generalizing rendered with
  | nil =>
    show _ = (s.renderCandidates rendered rest).map fun texts => texts
    cases h : s.renderCandidates rendered rest <;> simp [h, Except.map]
  | cons c before ih =>
    rw [List.cons_append]
    cases howner : s.renderOwner c.owner with
    | error e =>
      rw [renderCandidates_cons_of_error howner, renderCandidates_cons_of_error howner]
      rfl
    | ok found =>
      -- an owner without a block takes no name
      cases found with
      | none =>
        rw [renderCandidates_cons_of_none howner, renderCandidates_cons_of_none howner, ih,
          renderedAfter, renderedAfter, blocks_cons_of_none howner]
      | some tokens =>
        cases hlookup : rendered.lookup c.owner.shortName with
        | some first =>
          rw [renderCandidates_cons_of_taken howner hlookup,
            renderCandidates_cons_of_taken howner hlookup]
          rfl
        | none =>
          -- the owner's name is taken for the others before and behind alike
          have hafter : s.renderedAfter ((c.owner.shortName, c.owner) :: rendered) before =
              s.renderedAfter rendered (c :: before) := by
            simp [renderedAfter, blocks_cons_of_some howner]
          rw [renderCandidates_cons_of_free howner hlookup,
            renderCandidates_cons_of_free howner hlookup, ih, hafter]
          cases s.renderCandidates ((c.owner.shortName, c.owner) :: rendered) before with
          | error e => rfl
          | ok texts =>
            show ((s.renderCandidates _ rest).map _).map _ = (s.renderCandidates _ rest).map _
            cases s.renderCandidates (s.renderedAfter rendered (c :: before)) rest <;> rfl

/-- `renderCandidates` fails for a single candidate if its owner cannot be rendered, or if another
owner is rendered under its short name. -/
theorem renderCandidates_singleton_eq_error_iff {rendered : List (String × QualifiedName)}
    {c : Candidate} {e : SynthesisError} :
    s.renderCandidates rendered [c] = .error e ↔
      s.renderOwner c.owner = .error e ∨
        ∃ tokens first, s.renderOwner c.owner = .ok (some tokens) ∧
          rendered.lookup c.owner.shortName = some first ∧
          e = .renderCollision c.owner.shortName first c.owner := by
  cases howner : s.renderOwner c.owner with
  | error e' =>
    rw [renderCandidates_cons_of_error howner]
    simp
  | ok found =>
    cases found with
    | none =>
      rw [renderCandidates_cons_of_none howner]
      simp [renderCandidates]
    | some tokens =>
      cases hlookup : rendered.lookup c.owner.shortName with
      | some first =>
        rw [renderCandidates_cons_of_taken howner hlookup]
        simp [eq_comm]
      | none =>
        rw [renderCandidates_cons_of_free howner hlookup, Result.map_eq_error_iff]
        simp [renderCandidates]

/-- `renderCandidates` fails at the first candidate that cannot be rendered behind those before
it. -/
theorem renderCandidates_eq_error_iff {rendered : List (String × QualifiedName)}
    {cs : List Candidate} {e : SynthesisError} :
    s.renderCandidates rendered cs = .error e ↔
      ∃ before c after, cs = before ++ c :: after ∧
        (∃ texts, s.renderCandidates rendered before = .ok texts) ∧
        s.renderCandidates (s.renderedAfter rendered before) [c] = .error e := by
  constructor
  · intro h
    induction cs generalizing rendered with
    | nil => exact nomatch h
    | cons c rest ih =>
      rw [← List.singleton_append, renderCandidates_append] at h
      cases hfirst : s.renderCandidates rendered [c] with
      | error e' =>
        rw [hfirst] at h
        exact ⟨[], c, rest, rfl, ⟨[], rfl⟩, hfirst.trans h⟩
      | ok texts =>
        -- the failure is among the others
        rw [hfirst] at h
        obtain ⟨before, c', after, rfl, ⟨more, hmore⟩, hfail⟩ := ih (Result.map_eq_error_iff.1 h)
        refine ⟨c :: before, c', after, rfl, ⟨texts ++ more, ?_⟩, ?_⟩
        · rw [← List.singleton_append, renderCandidates_append, hfirst]
          exact congrArg (Except.map _) hmore
        · rw [← List.singleton_append, renderedAfter_append]
          exact hfail
  · rintro ⟨before, c, after, rfl, ⟨texts, htexts⟩, hfail⟩
    rw [renderCandidates_append, htexts, ← List.singleton_append]
    refine Result.map_eq_error_iff.2 ?_
    rw [renderCandidates_append, hfail]
    rfl

/-- `renderCandidates` fails because an owner cannot be rendered, or because two names are equal. -/
theorem renderCandidates_eq_error {rendered : List (String × QualifiedName)} {cs : List Candidate}
    {e : SynthesisError} (h : s.renderCandidates rendered cs = .error e) :
    (∃ c ∈ cs, s.renderOwner c.owner = .error e) ∨
      ∃ name first second, e = .renderCollision name first second := by
  obtain ⟨before, c, after, rfl, -, hfail⟩ := renderCandidates_eq_error_iff.1 h
  rcases renderCandidates_singleton_eq_error_iff.1 hfail with howner | ⟨_, first, -, -, rfl⟩
  · exact Or.inl ⟨c, List.mem_append_right before List.mem_cons_self, howner⟩
  · exact Or.inr ⟨_, first, c.owner, rfl⟩

/-! ## Rendering a session -/

/-- In the last phase `render` is about the candidates alone. -/
theorem render_eq_map (hphase : s.phase = .bodiesSynthesized) :
    s.render = (s.renderCandidates [] s.candidates.candidates).map ("\n".intercalate ·) := by
  have hrank : Phase.rank .bodiesSynthesized ≤ s.phase.rank := by simp [hphase]
  rw [render, requireAtLeast, if_pos hrank]
  rfl

/-- `render` gives nothing before the last phase. -/
theorem phase_of_render_eq_ok {source : String} (h : s.render = .ok source) :
    s.phase = .bodiesSynthesized := by
  obtain ⟨_, hrequire, -⟩ := Result.bind_eq_ok_iff.1 h
  unfold requireAtLeast at hrequire
  split at hrequire
  · rename_i hrank
    -- no other phase has come as far
    cases hphase : s.phase <;> rw [hphase] at hrank <;> first | rfl | exact absurd hrank (by decide)
  · exact nomatch hrequire

/-- In the last phase `render` succeeds if every owner can be rendered and no two `blockNames` are
equal. The source is made of the `blocks`, an empty line between them. -/
theorem render_eq_ok_iff (hphase : s.phase = .bodiesSynthesized) {source : String} :
    s.render = .ok source ↔
      (∀ c ∈ s.candidates.candidates, ∃ found, s.renderOwner c.owner = .ok found) ∧
      (s.blockNames s.candidates.candidates).Nodup ∧
      source = "\n".intercalate
        ((s.blocks s.candidates.candidates).map fun b => block b.1 b.2) := by
  rw [render_eq_map hphase, Result.map_eq_ok_iff]
  simp only [renderCandidates_eq_ok_iff, List.lookup_nil, implies_true, true_and]
  constructor
  · rintro ⟨texts, ⟨hok, hnodup, rfl⟩, rfl⟩
    exact ⟨hok, hnodup, rfl⟩
  · rintro ⟨hok, hnodup, rfl⟩
    exact ⟨_, ⟨hok, hnodup, rfl⟩, rfl⟩

/-! ## The block of a candidate -/

/-- Whether something of a candidate is rendered: one of its symbols is filled and no container. -/
def IsRendered (s : Session) (c : Candidate) : Prop :=
  ∃ symbol ∈ s.symbols.forOwner c.decl,
    symbol.isFilled = true ∧ symbol.signature.kind ≠ .container

instance (s : Session) (c : Candidate) : Decidable (s.IsRendered c) :=
  inferInstanceAs (Decidable (∃ symbol ∈ s.symbols.forOwner c.decl,
    symbol.isFilled = true ∧ symbol.signature.kind ≠ .container))

/-- The item of a synthesized member. The names of members are fixed, and their identifiers with
them. -/
def memberItem (symbol : Symbol) : List Token :=
  let vis := visibility symbol.signature.visibility
  match symbol.body with
  | some (.stringLiteral value) => keyItem vis "KEY" value
  | some (.readArgument key type nullable) => accessorItem vis "arg" key type.text nullable
  | some (.createScreen key owner parameter) =>
    factoryItem vis "create_screen" key owner.text parameter
  | some (.lazyBind binding) => bindingItem vis "binding" binding.text
  | _ => []

/-- In the last phase `item?` renders every symbol but a container as its `memberItem`: the names of
members are identifiers. -/
private theorem Reachable.item?_eq (h : s.Reachable) (hphase : s.phase = .bodiesSynthesized)
    {symbol : Symbol} (hsymbol : symbol ∈ s.symbols.symbols) :
    item? symbol =
      .ok (if symbol.signature.kind = .container then none else some (memberItem symbol)) := by
  obtain ⟨body, hbody, hshape⟩ := h.exists_memberShape hphase hsymbol
  obtain ⟨id, ⟨owner, ownerName, scope, name, kind, type, parameters, vis⟩, _⟩ := symbol
  obtain rfl : _ = some body := hbody
  -- the names of all shapes are known, and each of them is an identifier
  cases hshape with
  | container => rfl
  | key value =>
    have hname : requireIdentifier "KEY" = .ok "KEY" :=
      requireIdentifier_eq_ok_iff.2 (by decide +kernel)
    simp [item?, memberItem, hname, bind, Except.bind, pure, Except.pure]
  | accessor key type =>
    have hname : requireIdentifier (snakeCase "arg") = .ok "arg" :=
      requireIdentifier_eq_ok_iff.2 (by decide +kernel)
    simp [item?, memberItem, hname, bind, Except.bind, pure, Except.pure]
  | factory key owner parameter =>
    have hname : requireIdentifier (snakeCase "createScreen") = .ok "create_screen" :=
      requireIdentifier_eq_ok_iff.2 (by decide +kernel)
    simp [item?, memberItem, hname, bind, Except.bind, pure, Except.pure]
  | binding type =>
    have hname : requireIdentifier (snakeCase "binding") = .ok "binding" :=
      requireIdentifier_eq_ok_iff.2 (by decide +kernel)
    simp [item?, memberItem, hname, bind, Except.bind, pure, Except.pure]

/-- In the last phase `items` are the `memberItem`s of all symbols but the containers. -/
private theorem Reachable.items_eq (h : s.Reachable) (hphase : s.phase = .bodiesSynthesized)
    {symbols : List Symbol} (hsymbols : ∀ symbol ∈ symbols, symbol ∈ s.symbols.symbols) :
    items symbols = .ok ((symbols.filter (·.signature.kind ≠ .container)).map memberItem) := by
  induction symbols with
  | nil => rfl
  | cons symbol rest ih =>
    obtain ⟨hsymbol, hrest⟩ := List.forall_mem_cons.1 hsymbols
    rw [items, h.item?_eq hphase hsymbol, ih hrest]
    by_cases hkind : symbol.signature.kind = .container <;>
      simp [hkind, bind, Except.bind, pure, Except.pure]

/-- `lookup?` leads from the owner of a candidate to its declaration. -/
private theorem Reachable.lookup?_owner (h : s.Reachable) {c : Candidate}
    (hc : c ∈ s.candidates.candidates) : s.unit.lookup? c.owner = some c.decl := by
  obtain ⟨d, a, hd, -, howner, -⟩ := CandidateIndex.exists_declaration (h.mem_scan hc)
  rw [howner]
  exact CompilationUnit.lookup?_of_declaration? hd

/-- `forOwner` lists symbols of the table. -/
theorem mem_of_mem_forOwner (decl : DeclId) :
    ∀ symbol ∈ s.symbols.forOwner decl, symbol ∈ s.symbols.symbols :=
  fun _ hsymbol => (List.mem_filter.1 hsymbol).1

/-- In the last phase `IsRendered` holds unless all symbols of the candidate are containers. -/
private theorem Reachable.isRendered_iff (h : s.Reachable) (hphase : s.phase = .bodiesSynthesized)
    {c : Candidate} :
    s.IsRendered c ↔
      ¬ ∀ symbol ∈ s.symbols.forOwner c.decl, symbol.signature.kind = .container := by
  simp only [Classical.not_forall, exists_prop]
  constructor
  · rintro ⟨symbol, hsymbol, -, hkind⟩
    exact ⟨symbol, hsymbol, hkind⟩
  · rintro ⟨symbol, hsymbol, hkind⟩
    obtain ⟨body, hbody, -⟩ := h.exists_memberShape hphase (mem_of_mem_forOwner _ _ hsymbol)
    exact ⟨symbol, hsymbol, by rw [Symbol.isFilled, hbody]; rfl, hkind⟩

/-- The items of a candidate's members: one for each symbol that is no container, in the order of
the symbol table. -/
def memberItems (s : Session) (c : Candidate) : List (List Token) :=
  ((s.symbols.forOwner c.decl).filter (·.signature.kind ≠ .container)).map memberItem

/-- `memberItems` is empty exactly if nothing of the candidate is rendered. -/
theorem Reachable.memberItems_eq_nil_iff (h : s.Reachable) (hphase : s.phase = .bodiesSynthesized)
    {c : Candidate} : s.memberItems c = [] ↔ ¬ s.IsRendered c := by
  rw [h.isRendered_iff hphase, Classical.not_not, memberItems, List.map_eq_nil_iff,
    List.filter_eq_nil_iff]
  simp

/-- `renderOwner` gives an `implBlock` with the `memberItems` for a candidate that `IsRendered`,
unless its short name is no identifier, and no block for any other candidate. -/
theorem Reachable.renderOwner_eq (h : s.Reachable) (hphase : s.phase = .bodiesSynthesized)
    {c : Candidate} (hc : c ∈ s.candidates.candidates) :
    s.renderOwner c.owner =
      if s.IsRendered c then
        (requireIdentifier c.owner.shortName).map fun word =>
          some (implBlock word (s.memberItems c))
      else .ok none := by
  have hitems : items (s.symbols.forOwner c.decl) = .ok (s.memberItems c) :=
    h.items_eq hphase (mem_of_mem_forOwner c.decl)
  have hempty := h.memberItems_eq_nil_iff hphase (c := c)
  simp only [renderOwner, h.lookup?_owner hc, hitems, bind, Except.bind, List.isEmpty_iff]
  -- the block is left out for the lack of items, which is the same
  by_cases hyes : s.IsRendered c
  · rw [if_neg fun heq => hempty.1 heq hyes, if_pos hyes]
    cases requireIdentifier c.owner.shortName <;> rfl
  · rw [if_pos (hempty.2 hyes), if_neg hyes]
    rfl

/-- `renderOwner` gives no block for a candidate of which nothing is rendered. -/
private theorem Reachable.renderOwner_of_not_isRendered (h : s.Reachable)
    (hphase : s.phase = .bodiesSynthesized) {c : Candidate} (hc : c ∈ s.candidates.candidates)
    (hno : ¬ s.IsRendered c) : s.renderOwner c.owner = .ok none := by
  rw [h.renderOwner_eq hphase hc, if_neg hno]

/-- `renderOwner` gives a block for any other candidate, with the type that its short name is the
identifier of, unless that is no identifier. -/
private theorem Reachable.renderOwner_of_isRendered (h : s.Reachable)
    (hphase : s.phase = .bodiesSynthesized) {c : Candidate} (hc : c ∈ s.candidates.candidates)
    (hyes : s.IsRendered c) :
    s.renderOwner c.owner = (requireIdentifier c.owner.shortName).map fun word =>
      some (implBlock word (s.memberItems c)) := by
  rw [h.renderOwner_eq hphase hc, if_pos hyes]

/-- `renderOwner` fails if there is something to render and the short name is no identifier. -/
theorem Reachable.renderOwner_eq_error_iff (h : s.Reachable)
    (hphase : s.phase = .bodiesSynthesized) {c : Candidate} (hc : c ∈ s.candidates.candidates)
    {e : SynthesisError} :
    s.renderOwner c.owner = .error e ↔
      s.IsRendered c ∧ identifier? c.owner.shortName = none ∧
        e = .invalidIdentifier c.owner.shortName := by
  by_cases hyes : s.IsRendered c
  · rw [h.renderOwner_of_isRendered hphase hc hyes, Result.map_eq_error_iff, requireIdentifier]
    cases identifier? c.owner.shortName <;> simp [hyes, eq_comm]
  · rw [h.renderOwner_of_not_isRendered hphase hc hyes]
    simp [hyes]

/-- The tokens of a block are those of an `implBlock` for the identifier that the owner's short name
is read as. -/
theorem Reachable.exists_implBlock (h : s.Reachable) (hphase : s.phase = .bodiesSynthesized)
    {c : Candidate} (hc : c ∈ s.candidates.candidates) {tokens : List Token}
    (htokens : s.renderOwner c.owner = .ok (some tokens)) :
    s.IsRendered c ∧ ∃ word found, identifier? c.owner.shortName = some word ∧
      tokens = implBlock word found := by
  by_cases hyes : s.IsRendered c
  · rw [h.renderOwner_of_isRendered hphase hc hyes] at htokens
    obtain ⟨word, hword, htype⟩ := Result.map_eq_ok_iff.1 htokens
    exact ⟨hyes, word, _, requireIdentifier_eq_ok_iff.1 hword, (Option.some.inj htype).symm⟩
  · rw [h.renderOwner_of_not_isRendered hphase hc hyes] at htokens
    exact nomatch htokens

/-- If `renderOwner` succeeds for a candidate with something to render, then there is a block. -/
theorem Reachable.exists_tokens (h : s.Reachable) (hphase : s.phase = .bodiesSynthesized)
    {c : Candidate} (hc : c ∈ s.candidates.candidates) (hyes : s.IsRendered c)
    (hok : ∃ found, s.renderOwner c.owner = .ok found) :
    ∃ tokens, s.renderOwner c.owner = .ok (some tokens) := by
  obtain ⟨found, hfound⟩ := hok
  obtain ⟨word, -, rfl⟩ :=
    Result.map_eq_ok_iff.1 ((h.renderOwner_of_isRendered hphase hc hyes).symm.trans hfound)
  exact ⟨_, hfound⟩

end Session

end ScreenSynthesis
