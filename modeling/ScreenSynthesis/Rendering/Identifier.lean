import ScreenSynthesis.Text.IdentifierContinue
import ScreenSynthesis.Text.WhiteSpace

/-!
# Identifiers of the rendered source

A name can be rendered when it lexes as exactly one identifier of Rust. Blanks and plain comments
around the identifier are skipped; documentation comments are tokens and so are refused. A raw
identifier `r#x` may be a keyword, an ordinary one may not.
-/

namespace ScreenSynthesis.Rendering

/-- The words that are no ordinary identifiers, in use or reserved. -/
def keywords : List String :=
  ["_", "abstract", "as", "async", "await", "become", "box", "break", "const", "continue", "crate",
   "do", "dyn", "else", "enum", "extern", "false", "final", "fn", "for", "if", "impl", "in", "let",
   "loop", "macro", "match", "mod", "move", "mut", "override", "priv", "pub", "ref", "return",
   "Self", "self", "static", "struct", "super", "trait", "true", "try", "type", "typeof", "unsafe",
   "unsized", "use", "virtual", "where", "while", "yield"]

/-- The words that are not even raw identifiers. -/
def neverRaw : List String := ["_", "super", "self", "Self", "crate"]

/-- Whether the character separates tokens. The marks for the direction of text count as blank. -/
def isSourceBlank (c : Char) : Bool :=
  Text.isWhiteSpace c || c = '\u200e' || c = '\u200f'

/-- The text from the end of the line on. -/
def dropLine : List Char → List Char
  | [] => []
  | '\n' :: rest => '\n' :: rest
  | '\r' :: '\n' :: rest => '\n' :: rest
  | _ :: rest => dropLine rest

/-- The text behind `depth` nested block comments. -/
def dropBlock (depth : Nat) : List Char → Option (List Char)
  | [] => none
  | '/' :: '*' :: rest => dropBlock (depth + 1) rest
  | '*' :: '/' :: rest => if depth ≤ 1 then some rest else dropBlock (depth - 1) rest
  | _ :: rest => dropBlock depth rest

/-- Whether a line comment, given by what follows its two slashes, is documentation. -/
def isLineDoc : List Char → Bool
  | '!' :: _ => true
  | '/' :: '/' :: _ => false
  | '/' :: _ => true
  | _ => false

/-- Whether a block comment, given by what follows its opening, is documentation. -/
def isBlockDoc : List Char → Bool
  | '!' :: _ => true
  | '*' :: '*' :: _ => false
  | '*' :: '/' :: _ => false
  | '*' :: _ => true
  | _ => false

/-- The text behind at most `fuel` blanks and plain comments. -/
def skipWithin : Nat → List Char → List Char
  | 0, cs => cs
  | _, [] => []
  | fuel + 1, '/' :: '/' :: rest =>
    if isLineDoc rest then '/' :: '/' :: rest else skipWithin fuel (dropLine rest)
  | fuel + 1, '/' :: '*' :: rest =>
    if isBlockDoc rest then '/' :: '*' :: rest
    else
      match dropBlock 1 rest with
      | some rest => skipWithin fuel rest
      | none => '/' :: '*' :: rest
  | fuel + 1, c :: rest => if isSourceBlank c then skipWithin fuel rest else c :: rest

/-- The text behind its leading blanks and plain comments. Each takes at least one character, so
the length bounds their number. -/
def skipBlanks (cs : List Char) : List Char := skipWithin cs.length cs

/-- The word at the front of a text, and what follows it. -/
def word? : List Char → Option (String × List Char)
  | [] => none
  | c :: cs =>
    if c = '_' || Text.isIdentifierStart c then
      some (String.ofList (c :: cs.takeWhile Text.isIdentifierContinue),
        cs.dropWhile Text.isIdentifierContinue)
    else none

/-- The identifier at the front of a text as it is printed, and what follows it. -/
def identifierToken? : List Char → Option (String × List Char)
  | 'r' :: '#' :: cs =>
    match word? cs with
    | some (word, rest) => if word ∈ neverRaw then none else some ("r#" ++ word, rest)
    | none => none
  | cs =>
    match word? cs with
    | some (word, rest) => if word ∈ keywords then none else some (word, rest)
    | none => none

/-- The text without the byte order mark that may start it. -/
def dropByteOrderMark : List Char → List Char
  | '\ufeff' :: cs => cs
  | cs => cs

/-- The identifier that a name lexes as, if it lexes as nothing else. -/
def identifier? (name : String) : Option String :=
  match identifierToken? (skipBlanks (dropByteOrderMark name.toList)) with
  | some (word, rest) => if skipBlanks rest = [] then some word else none
  | none => none

/-- Comments and blanks around an identifier do not belong to it; keywords need the raw form. -/
example : identifier? " /*c*/Home // x" = some "Home" ∧ identifier? "r#fn" = some "r#fn" ∧
    identifier? "fn" = none ∧ identifier? "r#self" = none ∧ identifier? "///x\nA" = none ∧
    identifier? "a b" = none ∧ identifier? "" = none := by decide

/-- The characters of a word continue an identifier. -/
theorem isIdentifierContinue_of_mem_word {cs rest : List Char} {word : String}
    (h : word? cs = some (word, rest)) {c : Char} (hc : c ∈ word.toList) :
    Text.isIdentifierContinue c = true := by
  unfold word? at h
  split at h
  · exact nomatch h
  · rename_i first cs
    split at h
    · rename_i hfirst
      obtain ⟨rfl, -⟩ := Prod.mk.inj (Option.some.inj h)
      rw [String.toList_ofList] at hc
      rcases List.mem_cons.1 hc with rfl | hc
      · simp only [Bool.or_eq_true, decide_eq_true_eq] at hfirst
        rcases hfirst with rfl | hfirst
        · decide
        · exact Text.isIdentifierContinue_of_start hfirst
      · exact List.all_eq_true.1 List.all_takeWhile c hc
    · exact nomatch h

/-- The characters of an identifier continue one, but for the mark `r#` of a raw one. -/
theorem mem_identifierToken {cs rest : List Char} {word : String}
    (h : identifierToken? cs = some (word, rest)) {c : Char} (hc : c ∈ word.toList) :
    c = '#' ∨ Text.isIdentifierContinue c = true := by
  unfold identifierToken? at h
  split at h
  · split at h
    · rename_i word rest hword
      split at h
      · exact nomatch h
      · obtain ⟨rfl, -⟩ := Prod.mk.inj (Option.some.inj h)
        rw [String.toList_append, List.mem_append] at hc
        -- a raw identifier is printed with its mark in front of the word
        rcases hc with hmark | hc
        · have hmark : c = 'r' ∨ c = '#' := by simpa using hmark
          rcases hmark with rfl | rfl
          · exact Or.inr (by decide)
          · exact Or.inl rfl
        · exact Or.inr (isIdentifierContinue_of_mem_word hword hc)
    · exact nomatch h
  · split at h
    · rename_i word rest hword
      split at h
      · exact nomatch h
      · obtain ⟨rfl, -⟩ := Prod.mk.inj (Option.some.inj h)
        exact Or.inr (isIdentifierContinue_of_mem_word hword hc)
    · exact nomatch h

/-- An identifier stands on one line, whatever stands around it. -/
theorem newline_not_mem_identifier {name word : String} (h : identifier? name = some word) :
    '\n' ∉ word.toList := by
  unfold identifier? at h
  split at h
  · rename_i word' rest htoken
    split at h
    · obtain rfl := Option.some.inj h
      intro hmem
      -- a line break is no mark, and it continues no word
      rcases mem_identifierToken htoken hmem with hmark | hcontinue
      · exact absurd hmark (by decide)
      · exact absurd hcontinue (by decide)
    · exact nomatch h
  · exact nomatch h

end ScreenSynthesis.Rendering
