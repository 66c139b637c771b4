import Mathlib.Data.List.Nodup
import Mathlib.Data.List.Pairwise
import ScreenSynthesis.Proofs.RenderedBlocks

/-!
# Types of rendered blocks

Owners are told apart by their short names when they are rendered, while a block is for the type
that the short name is read as. Blanks and comments around an identifier are passed over, and a raw
identifier names the type that it spells, so that names of one type may differ. Two owners of one
short name are never rendered together; two owners whose short names spell one type differently are.

## Key results

- `Session.Reachable.implTypes_eq`: the types of the blocks are read off the short names
- `Session.implTypes_nodup_iff`: which owners are refused, and when the types that are left are
  distinct
- `Session.not_forall_implTypes_nodup`: there are sources with two blocks for one type
-/

namespace ScreenSynthesis

namespace Rendering

/-- The type that an identifier names. The mark of a raw identifier is no part of its name. -/
def typeOf (word : String) : String :=
  match word.toList with
  | 'r' :: '#' :: cs => String.ofList cs
  | _ => word

/-- The type that a name is read as, if it is an identifier. -/
def typeNamed? (name : String) : Option String := (identifier? name).map typeOf

/-- The type that an `impl` block is for. -/
def blockType? : List Token → Option String
  | .word _ :: .word word :: _ => some (typeOf word)
  | _ => none

/-- Blanks, comments and the mark of a raw identifier make no difference to the type. -/
example : typeNamed? " Home // x" = some "Home" ∧ typeNamed? "r#Home" = some "Home" := by decide

end Rendering

/-- `filterMap` gives distinct values if and only if elements with one value are the same, where all
elements have values. -/
private theorem nodup_filterMap_iff {α β : Type} {f : α → Option β} {l : List α} (hnodup : l.Nodup)
    (hsome : ∀ a ∈ l, f a ≠ none) :
    (l.filterMap f).Nodup ↔ ∀ a ∈ l, ∀ a' ∈ l, f a = f a' → a = a' := by
  rw [List.Nodup, List.pairwise_filterMap]
  constructor
  · intro h a ha a' ha' heq
    -- different elements have different values
    by_contra hne
    obtain ⟨b, hb⟩ := Option.ne_none_iff_exists'.1 (hsome a ha)
    have : Std.Symm fun a a' => ∀ b ∈ f a, ∀ b' ∈ f a', b ≠ b' :=
      ⟨fun _ _ h b hb b' hb' => (h b' hb' b hb).symm⟩
    exact h.forall ha ha' hne b hb b (heq ▸ hb) rfl
  · intro h
    refine hnodup.imp_of_mem fun ha ha' hne b hb b' hb' heq => hne (h _ ha _ ha' ?_)
    rw [Option.mem_def.1 hb, Option.mem_def.1 hb', heq]

namespace Session

open Rendering

variable {s : Session}

/-- The types that the blocks of the rendered source are for, in the order of the blocks. -/
def implTypes (s : Session) : List String :=
  (s.blocks s.candidates.candidates).filterMap fun b => blockType? b.2

/-- `blockType?` of a block is the type that the owner's short name is read as. -/
private theorem Reachable.blockType_eq (h : s.Reachable) (hphase : s.phase = .bodiesSynthesized)
    {b : QualifiedName × List Token} (hb : b ∈ s.blocks s.candidates.candidates) :
    blockType? b.2 = typeNamed? b.1.shortName ∧ typeNamed? b.1.shortName ≠ none := by
  obtain ⟨c, hc, howner, htokens⟩ := mem_blocks_iff.1 hb
  obtain ⟨-, word, found, hword, htype⟩ := h.exists_implBlock hphase hc htokens
  rw [howner] at hword
  -- the block is for the word that the name is read as, behind its first word
  have htypeNamed : typeNamed? b.1.shortName = some (typeOf word) := by
    rw [typeNamed?, hword, Option.map_some]
  rw [htypeNamed, htype]
  exact ⟨rfl, nofun⟩

/-- `implTypes` are read off the `blockNames`. -/
theorem Reachable.implTypes_eq (h : s.Reachable) (hphase : s.phase = .bodiesSynthesized) :
    s.implTypes = (s.blockNames s.candidates.candidates).filterMap typeNamed? := by
  rw [blockNames, List.filterMap_map]
  exact List.filterMap_congr fun b hb => (h.blockType_eq hphase hb).1

/-- `blockNames` are the short names of all candidates with something to render, once the source is
rendered. -/
theorem Reachable.mem_blockNames_iff (h : s.Reachable) (hphase : s.phase = .bodiesSynthesized)
    (hok : ∀ c ∈ s.candidates.candidates, ∃ found, s.renderOwner c.owner = .ok found)
    {name : String} :
    name ∈ s.blockNames s.candidates.candidates ↔
      ∃ c ∈ s.candidates.candidates, s.IsRendered c ∧ c.owner.shortName = name := by
  rw [Session.mem_blockNames_iff]
  constructor
  · rintro ⟨c, hc, hname, tokens, htokens⟩
    exact ⟨c, hc, (h.exists_implBlock hphase hc htokens).1, hname⟩
  · rintro ⟨c, hc, hyes, hname⟩
    exact ⟨c, hc, hname, h.exists_tokens hphase hc hyes (hok c hc)⟩

/-- Of two owners with one short name at most one can be rendered: if there is something of both to
render, `render` refuses the source, for this or for a name that is no identifier. Of the sources
that are rendered, the `implTypes` are distinct exactly if no two short names are different
spellings of one type. -/
theorem implTypes_nodup_iff (hs : s.Reachable) (hphase : s.phase = .bodiesSynthesized) :
    (∀ c ∈ s.candidates.candidates, ∀ c' ∈ s.candidates.candidates,
      s.IsRendered c → s.IsRendered c' → c ≠ c' → c.owner.shortName = c'.owner.shortName →
      (∃ name first second, s.render = .error (.renderCollision name first second)) ∨
      ∃ c ∈ s.candidates.candidates, s.IsRendered c ∧ identifier? c.owner.shortName = none ∧
        s.render = .error (.invalidIdentifier c.owner.shortName)) ∧
    ∀ source, s.render = .ok source →
      source = "\n".intercalate
        ((s.blocks s.candidates.candidates).map fun b => block b.1 b.2) ∧
      (s.implTypes.Nodup ↔
        ∀ c ∈ s.candidates.candidates, ∀ c' ∈ s.candidates.candidates,
          s.IsRendered c → s.IsRendered c' →
          typeNamed? c.owner.shortName = typeNamed? c'.owner.shortName →
          c.owner.shortName = c'.owner.shortName) := by
  constructor
  · intro c hc c' hc' hyes hyes' hne hname
    have herror : ∃ e, s.render = .error e := by
      refine Result.exists_error_of_forall_ne_ok fun source hsource => ?_
      obtain ⟨hok, hnodup, -⟩ := (render_eq_ok_iff hphase).1 hsource
      obtain ⟨tokens, htokens⟩ := hs.exists_tokens hphase hc hyes (hok c hc)
      obtain ⟨tokens', htokens'⟩ := hs.exists_tokens hphase hc' hyes' (hok c' hc')
      -- both have blocks, and a name belongs to one block only
      have hblock : (c.owner, tokens) = (c'.owner, tokens') :=
        List.inj_on_of_nodup_map hnodup (mem_blocks_iff.2 ⟨c, hc, rfl, htokens⟩)
          (mem_blocks_iff.2 ⟨c', hc', rfl, htokens'⟩) hname
      exact hne (CandidateIndex.eq_of_owner_eq (hs.mem_scan hc) (hs.mem_scan hc')
        (congrArg Prod.fst hblock))
    obtain ⟨e, he⟩ := herror
    have hcandidates := he
    rw [render_eq_map hphase, Result.map_eq_error_iff] at hcandidates
    -- a candidate fails by itself, or two have one name
    rcases renderCandidates_eq_error hcandidates with ⟨c, hc, howner⟩ | ⟨name, first, second, rfl⟩
    · obtain ⟨hyes, hnone, rfl⟩ := (hs.renderOwner_eq_error_iff hphase hc).1 howner
      exact Or.inr ⟨c, hc, hyes, hnone, he⟩
    · exact Or.inl ⟨name, first, second, he⟩
  · intro source hsource
    obtain ⟨hok, hnodup, hblocks⟩ := (render_eq_ok_iff hphase).1 hsource
    refine ⟨hblocks, ?_⟩
    -- the short name of a block has been read already
    have hsome : ∀ name ∈ s.blockNames s.candidates.candidates, typeNamed? name ≠ none := by
      intro name hname
      obtain ⟨b, hb, rfl⟩ := List.mem_map.1 hname
      exact (hs.blockType_eq hphase hb).2
    rw [hs.implTypes_eq hphase, nodup_filterMap_iff hnodup hsome]
    have hmem : ∀ name, name ∈ s.blockNames s.candidates.candidates ↔
        ∃ c ∈ s.candidates.candidates, s.IsRendered c ∧ c.owner.shortName = name :=
      fun _ => hs.mem_blockNames_iff hphase hok
    constructor
    · intro h c hc c' hc' hyes hyes' heq
      exact h _ ((hmem _).2 ⟨c, hc, hyes, rfl⟩) _ ((hmem _).2 ⟨c', hc', hyes', rfl⟩) heq
    · intro h name hname name' hname' heq
      obtain ⟨c, hc, hyes, rfl⟩ := (hmem _).1 hname
      obtain ⟨c', hc', hyes', rfl⟩ := (hmem _).1 hname'
      exact h c hc c' hc' hyes hyes' heq

/-- A screen of some name in some package, without an argument. -/
def screenNamed (package name : String) : ClassDecl where
  package := package
  name := name
  supertypes := [controllerBase]
  annotations := [{ name := ⟨markerName⟩ }]

/-- The candidate for such a screen, if it is the first of its unit or the one behind. -/
def candidateNamed (index : Nat) (owner : String) : Candidate :=
  { id := ⟨index⟩, decl := ⟨index⟩, owner := ⟨owner⟩, marker := {}, location := {} }

/-- The raw spelling of a name leads to a second block for its type. -/
theorem implTypes_nodup_iff_raw :
    let s := ((new ⟨{ classes := [screenNamed "a" "Home", screenNamed "b" "r#Home"] }, by decide⟩
      {}).call .runAll).2
    s.Reachable ∧ s.phase = .bodiesSynthesized ∧
      ∃ source, s.render = .ok source ∧ ¬ s.implTypes.Nodup := by
  intro s
  have hs : s.Reachable := .call (.new _ _ _) .runAll
  have hphase : s.phase = .bodiesSynthesized := by decide +kernel
  obtain ⟨source, hsource⟩ : ∃ source, s.render = .ok source :=
    Result.exists_ok_of_isOk (by decide +kernel)
  refine ⟨hs, hphase, source, hsource, fun hnodup => ?_⟩
  have hplain : candidateNamed 0 "a.Home" ∈ s.candidates.candidates := by decide +kernel
  have hraw : candidateNamed 1 "b.r#Home" ∈ s.candidates.candidates := by decide +kernel
  have hspelling := (((implTypes_nodup_iff hs hphase).2 source hsource).2.1 hnodup) _ hplain _ hraw
    (by decide +kernel) (by decide +kernel) (by decide +kernel)
  exact absurd hspelling (by decide +kernel)

/-- The `implTypes` of a rendered source are not always distinct: blanks in a name lead to a second
block as well. -/
theorem not_forall_implTypes_nodup :
    ¬ ∀ s : Session, s.Reachable → s.phase = .bodiesSynthesized → ∀ source, s.render = .ok source →
      s.implTypes.Nodup := by
  intro h
  let s := ((new ⟨{ classes := [screenNamed "a" " Home", screenNamed "b" "Home"] }, by decide⟩
    {}).call .runAll).2
  have hphase : s.phase = .bodiesSynthesized := by decide +kernel
  obtain ⟨source, hsource⟩ : ∃ source, s.render = .ok source :=
    Result.exists_ok_of_isOk (by decide +kernel)
  have htypes : s.implTypes = ["Home", "Home"] := by decide +kernel
  have hnodup := h s (.call (.new _ _ _) .runAll) hphase source hsource
  rw [htypes] at hnodup
  exact absurd hnodup (by decide)

end Session

end ScreenSynthesis
