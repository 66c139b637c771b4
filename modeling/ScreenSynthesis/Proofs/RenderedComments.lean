import Mathlib.Algebra.GroupWithZero.Nat
import ScreenSynthesis.Proofs.RenderedBlocks

/-!
# Comments of rendered source

Every block of the source starts with a comment that holds the name of its owner. The tokens of a
block stand on one line, but a name may have line breaks, and a comment ends with its line. So what
is left of a source without its comments are the tokens of its blocks and, in front of them, the
lines of the names that are not behind two slashes of their own.

## Key results

- `Rendering.joinCode_append`: lines lose their comments independently of each other
- `Session.isCodeLine_of_renderOwner`: the tokens of a block stand on one line, and that is no
  comment
- `Session.withoutComments_render`: what is left of a source without its comments
- `Session.not_forall_withoutComments_eq`: there are sources in which more is left than tokens
-/

namespace ScreenSynthesis

namespace Rendering

/-! ## Comments of a text -/

/-- Whether a line is a comment. -/
def isComment : List Char → Bool
  | '/' :: '/' :: _ => true
  | _ => false

/-- The lines of a text. -/
def lines (text : String) : List (List Char) := Text.pieces '\n' text.toList

/-- `lines` of two texts with a line break between them are the lines of both. -/
private theorem lines_append (text more : String) :
    lines (text ++ "\n" ++ more) = lines text ++ lines more := by
  have hlist : (text ++ "\n" ++ more).toList = text.toList ++ '\n' :: more.toList := by simp
  rw [lines, hlist, Text.pieces_append_cons, lines, lines]

/-- A line with its line break, unless it is a comment. -/
def codeLine (line : List Char) : List Char := if isComment line then [] else line ++ ['\n']

/-- A text made of lines, without those that are comments. A comment goes with its line break; the
last line has none. -/
def joinCode : List (List Char) → List Char
  | [] => []
  | [last] => if isComment last then [] else last
  | line :: rest => codeLine line ++ joinCode rest

/-- A text without its comments, each of which goes from two slashes at the start of a line up to
the next line. -/
def withoutComments (text : String) : String := String.ofList (joinCode (lines text))

/-- Slashes elsewhere in a line start no comment. -/
example : withoutComments "// a\nb // c\n//d" = "b // c\n" := by decide

/-- `joinCode` takes lines in front of others away or keeps them independently of what is behind. -/
theorem joinCode_append {front rest : List (List Char)} (h : rest ≠ []) :
    joinCode (front ++ rest) = front.flatMap codeLine ++ joinCode rest := by
  induction front with
  | nil => rfl
  | cons line front ih =>
    -- the last line of all has no line break, and it is not among those in front
    have hne : front ++ rest ≠ [] := fun heq => h (List.append_eq_nil_iff.1 heq).2
    obtain ⟨next, more, hmore⟩ := List.exists_cons_of_ne_nil hne
    rw [List.cons_append, hmore, joinCode, ← hmore, ih, List.flatMap_cons, List.append_assoc]
    exact nofun

/-- `codeLine` leaves nothing of lines exactly if all of them are comments. -/
private theorem flatMap_codeLine_eq_nil_iff {front : List (List Char)} :
    front.flatMap codeLine = [] ↔ ∀ line ∈ front, isComment line = true := by
  rw [List.flatMap_eq_nil_iff]
  refine forall₂_congr fun line _ => ?_
  unfold codeLine
  cases isComment line <;> simp

/-! ## Comments of a block -/

/-- What is left of a name in a comment: its lines behind the first, without those that are comments
again. -/
def leaked (owner : QualifiedName) : String :=
  String.ofList ((lines owner.text).tail.flatMap codeLine)

/-- Nothing of a name is `leaked` if it has no line breaks, or if each is followed by two
slashes. -/
private theorem leaked_eq_empty_iff {owner : QualifiedName} :
    leaked owner = "" ↔ ∀ line ∈ (lines owner.text).tail, isComment line = true := by
  rw [leaked, ← String.toList_inj, String.toList_ofList]
  exact flatMap_codeLine_eq_nil_iff

/-- Whether tokens are printed on one line, and this line is no comment. -/
def IsCodeLine (tokens : List Token) : Prop :=
  '\n' ∉ (printTokens tokens).toList ∧ isComment (printTokens tokens).toList = false

/-- The lines of a block: its comment, and its tokens. -/
def blockLines (owner : QualifiedName) (tokens : List Token) : List (List Char) :=
  ("// ".toList ++ (lines owner.text).headD []) :: (lines owner.text).tail ++
    [(printTokens tokens).toList]

/-- `lines` of a `block` are its `blockLines`, and an empty one behind the last line break. -/
private theorem lines_block (owner : QualifiedName) {tokens : List Token} (h : IsCodeLine tokens) :
    lines (block owner tokens) = blockLines owner tokens ++ [[]] := by
  -- the line breaks of a block are those of the name and the two that are added
  have hslashes : '\n' ∉ "// ".toList := by decide
  have hlist : (block owner tokens).toList =
      ("// ".toList ++ owner.text.toList) ++ '\n' ::
        ((printTokens tokens).toList ++ '\n' :: []) := by
    simp [block]
  rw [lines, hlist, Text.pieces_append_cons, Text.pieces_append_of_not_mem hslashes,
    Text.pieces_append_cons, Text.pieces_of_not_mem h.1, blockLines, List.append_assoc]
  rfl

/-- `codeLine` leaves of a block what is `leaked` of its owner's name, and its tokens. -/
private theorem flatMap_codeLine_blockLines (owner : QualifiedName) {tokens : List Token}
    (h : IsCodeLine tokens) :
    (blockLines owner tokens).flatMap codeLine =
      (leaked owner ++ printTokens tokens ++ "\n").toList := by
  have hcomment : codeLine ("// ".toList ++ (lines owner.text).headD []) = [] := rfl
  have htokens : codeLine (printTokens tokens).toList = (printTokens tokens).toList ++ ['\n'] := by
    rw [codeLine, h.2]
    rfl
  rw [blockLines, List.flatMap_append, List.flatMap_cons, List.flatMap_singleton, hcomment, htokens]
  simp [leaked]

/-- `intercalate` by its first two parts, where the parts are made of elements. -/
private theorem intercalate_map_cons_cons {α : Type} (separator : String) (f : α → String)
    (a a' : α) (rest : List α) :
    separator.intercalate ((a :: a' :: rest).map f) =
      f a ++ separator ++ separator.intercalate ((a' :: rest).map f) :=
  String.intercalate_cons_cons

/-- `withoutComments` leaves of blocks what is `leaked` of the names of their owners, and their
tokens. -/
private theorem withoutComments_blocks {bs : List (QualifiedName × List Token)}
    (h : ∀ b ∈ bs, IsCodeLine b.2) :
    withoutComments ("\n".intercalate (bs.map fun b => block b.1 b.2)) =
      "\n".intercalate (bs.map fun b => leaked b.1 ++ printTokens b.2 ++ "\n") := by
  induction bs with
  | nil => rfl
  | cons b rest ih =>
    obtain ⟨hb, hrest⟩ := List.forall_mem_cons.1 h
    cases rest with
    | nil =>
      rw [List.map_singleton, List.map_singleton, String.intercalate_singleton,
        String.intercalate_singleton, withoutComments, lines_block b.1 hb,
        joinCode_append (List.cons_ne_nil _ _), flatMap_codeLine_blockLines b.1 hb]
      exact (congrArg String.ofList (List.append_nil _)).trans String.ofList_toList
    | cons b' rest =>
      have hmore : lines ("\n".intercalate ((b' :: rest).map fun b => block b.1 b.2)) ≠ [] :=
        Text.pieces_ne_nil _ _
      -- the line break between two blocks ends the empty line behind the first
      rw [intercalate_map_cons_cons, intercalate_map_cons_cons, ← ih hrest, withoutComments,
        lines_append, lines_block b.1 hb, joinCode_append hmore, List.flatMap_append,
        flatMap_codeLine_blockLines b.1 hb, String.ofList_append, String.ofList_append,
        String.ofList_toList]
      rfl

/-- `intercalate` gets longer by the lengths of what is put in front of its parts. -/
private theorem length_intercalate_append (separator : String) {α : Type} (f g : α → String)
    (as : List α) : (separator.intercalate (as.map fun a => f a ++ g a)).length =
      (separator.intercalate (as.map g)).length + (as.map fun a => (f a).length).sum := by
  induction as with
  | nil => rfl
  | cons a rest ih =>
    cases rest with
    | nil =>
      rw [List.map_singleton, List.map_singleton, List.map_singleton, String.intercalate_singleton,
        String.intercalate_singleton, String.length_append, List.sum_singleton, Nat.add_comm]
    | cons a' rest =>
      have hsum : ((a :: a' :: rest).map fun a => (f a).length).sum =
          (f a).length + ((a' :: rest).map fun a => (f a).length).sum := List.sum_cons
      rw [intercalate_map_cons_cons, intercalate_map_cons_cons, hsum]
      simp only [String.length_append, ih]
      omega

/-- Blocks leave more than their tokens exactly if something is `leaked` of a name. -/
private theorem intercalate_leaked_eq_iff {bs : List (QualifiedName × List Token)} :
    "\n".intercalate (bs.map fun b => leaked b.1 ++ printTokens b.2 ++ "\n") =
        "\n".intercalate (bs.map fun b => printTokens b.2 ++ "\n") ↔
      ∀ b ∈ bs, leaked b.1 = "" := by
  constructor
  · intro h b hb
    -- what is leaked can be measured, and here it has no length
    have hlength := length_intercalate_append "\n" (fun b => leaked b.1)
      (fun b : QualifiedName × List Token => printTokens b.2 ++ "\n") bs
    simp only [← String.append_assoc] at hlength
    rw [h] at hlength
    have hsum : (bs.map fun b => (leaked b.1).length).sum = 0 := by omega
    have hzero := List.sum_eq_zero_iff_forall_eq_nat.1 hsum _ (List.mem_map_of_mem hb)
    exact String.length_eq_zero_iff.1 hzero
  · intro h
    have hmap : bs.map (fun b => leaked b.1 ++ printTokens b.2 ++ "\n") =
        bs.map fun b => printTokens b.2 ++ "\n" :=
      List.map_congr_left fun b hb => by rw [h b hb, String.empty_append]
    rw [hmap]

end Rendering

namespace Session

open Rendering

variable {s : Session}

/-- `items` of symbols stand on one line. -/
private theorem allOneLine_of_items {symbols : List Symbol} {found : List (List Token)}
    (h : items symbols = .ok found) : Token.AllOneLine found.flatten := by
  induction symbols generalizing found with
  | nil =>
    obtain rfl := Except.ok.inj h
    trivial
  | cons symbol rest ih =>
    obtain ⟨item, hitem, h⟩ := Result.bind_eq_ok_iff.1 h
    obtain ⟨more, hmore, h⟩ := Result.bind_eq_ok_iff.1 h
    obtain rfl := Except.ok.inj h
    rw [List.flatten_append, Token.allOneLine_append]
    refine ⟨?_, ih hmore⟩
    cases item with
    | none => trivial
    | some item =>
      rw [Option.toList_some, List.flatten_singleton]
      exact allOneLine_of_item? hitem

/-- `renderOwner` gives tokens that stand on one line, which starts with the word `impl`. -/
theorem isCodeLine_of_renderOwner {owner : QualifiedName} {tokens : List Token}
    (h : s.renderOwner owner = .ok (some tokens)) : IsCodeLine tokens := by
  unfold renderOwner at h
  split at h
  · exact nomatch h
  · obtain ⟨found, hfound, h⟩ := Result.bind_eq_ok_iff.1 h
    split at h
    · exact nomatch Except.ok.inj h
    · obtain ⟨word, hword, h⟩ := Result.bind_eq_ok_iff.1 h
      obtain rfl := Option.some.inj (Except.ok.inj h)
      have hword := newline_not_mem_identifier (requireIdentifier_eq_ok_iff.1 hword)
      have himpl : '\n' ∉ "impl".toList := by decide
      -- the word of the type and the items have no line break either
      have honeLine : Token.AllOneLine (implBlock word found) :=
        ⟨himpl, hword, allOneLine_of_items hfound, trivial⟩
      refine ⟨Token.newline_not_mem_streamText true _ honeLine, ?_⟩
      rw [printTokens, implBlock, Token.streamText, String.toList_append, String.toList_append]
      rfl

/-- `withoutComments` leaves of a rendered source what it leaves of its blocks. -/
private theorem withoutComments_of_render {source : String} (h : s.render = .ok source) :
    withoutComments source = "\n".intercalate
      ((s.blocks s.candidates.candidates).map fun b => leaked b.1 ++ printTokens b.2 ++ "\n") := by
  obtain ⟨-, -, rfl⟩ := (render_eq_ok_iff (phase_of_render_eq_ok h)).1 h
  refine withoutComments_blocks fun b hb => ?_
  obtain ⟨c, -, -, htokens⟩ := mem_blocks_iff.1 hb
  exact isCodeLine_of_renderOwner htokens

/-- `withoutComments` leaves of a rendered source the tokens of its blocks, and in front of them
what is `leaked` of the names of their owners. This is nothing but the tokens exactly if behind
every line break in a name there are two slashes. -/
theorem withoutComments_render {source : String} (h : s.render = .ok source) :
    let bs := s.blocks s.candidates.candidates
    withoutComments source =
        "\n".intercalate (bs.map fun b => leaked b.1 ++ printTokens b.2 ++ "\n") ∧
      (withoutComments source = "\n".intercalate (bs.map fun b => printTokens b.2 ++ "\n") ↔
        ∀ b ∈ bs, ∀ line ∈ (lines b.1.text).tail, isComment line = true) := by
  intro bs
  have hleft := withoutComments_of_render h
  refine ⟨hleft, ?_⟩
  rw [hleft, intercalate_leaked_eq_iff]
  exact forall₂_congr fun b _ => leaked_eq_empty_iff

/-- A screen in a package of some name, without an argument. -/
def screenIn (package : String) : ClassDecl where
  package := package
  name := "Home"
  supertypes := [controllerBase]
  annotations := [{ name := ⟨markerName⟩ }]

/-- A line break in the name of a package may be harmless: the line behind it can be a comment. -/
theorem withoutComments_render_commented :
    let s := ((new ⟨{ classes := [screenIn "app\n// x"] }, by decide⟩ {}).call .runAll).2
    ∃ source, s.render = .ok source ∧
      withoutComments source =
        "\n".intercalate
          ((s.blocks s.candidates.candidates).map fun b => printTokens b.2 ++ "\n") := by
  intro s
  obtain ⟨source, hsource⟩ : ∃ source, s.render = .ok source :=
    Result.exists_ok_of_isOk (by decide +kernel)
  refine ⟨source, hsource, (withoutComments_render hsource).2.2 ?_⟩
  have hcomments : ∀ b ∈ s.blocks s.candidates.candidates,
      (lines b.1.text).tail.all isComment = true := List.all_eq_true.1 (by decide +kernel)
  exact fun b hb => List.all_eq_true.1 (hcomments b hb)

/-- It is not so that nothing but tokens is left of a rendered source without its comments: the name
of a package may hold an item of its own. -/
theorem not_forall_withoutComments_eq :
    ¬ ∀ s : Session, s.Reachable → s.phase = .bodiesSynthesized → ∀ source, s.render = .ok source →
      withoutComments source =
        "\n".intercalate
          ((s.blocks s.candidates.candidates).map fun b => printTokens b.2 ++ "\n") := by
  intro h
  let s := ((new ⟨{ classes := [screenIn "app\nfn leaked() \x7b\x7d\n//"] }, by decide⟩ {}).call
    .runAll).2
  have hphase : s.phase = .bodiesSynthesized := by decide +kernel
  obtain ⟨source, hsource⟩ : ∃ source, s.render = .ok source :=
    Result.exists_ok_of_isOk (by decide +kernel)
  have heq := h s (.call (.new _ _ _) .runAll) hphase source hsource
  rw [withoutComments_of_render hsource, intercalate_leaked_eq_iff] at heq
  have hleaked : (s.blocks s.candidates.candidates).any (fun b => leaked b.1 ≠ "") = true := by
    decide +kernel
  obtain ⟨b, hb, hne⟩ := List.any_eq_true.1 hleaked
  exact of_decide_eq_true hne (heq b hb)

end Session

end ScreenSynthesis
