import ScreenSynthesis.Text.Quoted

/-!
# Token streams

Rendered source is built as a stream of tokens and printed with one space between them. Punctuation
that is joined to the next character prints without the space, and so do the insides of parentheses
and brackets at their ends.
-/

namespace ScreenSynthesis.Rendering

/-- The brackets around a group of tokens. -/
inductive Delimiter where
  | parenthesis
  | bracket
  | brace
deriving DecidableEq, Repr

/-- A token of the rendered source. -/
inductive Token where
  | word (text : String)
  /-- A character of punctuation, possibly joined to the one that follows. -/
  | punct (char : Char) (joint : Bool)
  /-- A string literal, by its value. -/
  | literal (value : String)
  | group (delimiter : Delimiter) (inner : List Token)
deriving Repr

namespace Token

/-- Whether no space follows the token. -/
def isJoint : Token → Bool
  | .punct _ joint => joint
  | _ => false

/-- The text of a group around the text inside. -/
def enclose (delimiter : Delimiter) (inner : String) : String :=
  match delimiter with
  | .parenthesis => "(" ++ inner ++ ")"
  | .bracket => "[" ++ inner ++ "]"
  | .brace => if inner = "" then "\x7b \x7d" else "\x7b " ++ inner ++ " \x7d"

mutual

/-- The text of a token. -/
def text : Token → String
  | .word text => text
  | .punct char _ => String.singleton char
  | .literal value => Text.quoteLiteral value
  | .group delimiter inner => enclose delimiter (streamText true inner)

/-- The text of a stream. `joint` says that nothing separates its first token from what is in front
of it. -/
def streamText (joint : Bool) : List Token → String
  | [] => ""
  | t :: ts => (if joint then "" else " ") ++ t.text ++ streamText t.isJoint ts

end

mutual

/-- Whether the token has no line break in it. A string literal has none whatever its value is. -/
def OneLine : Token → Prop
  | .word text => '\n' ∉ text.toList
  | .punct char _ => char ≠ '\n'
  | .literal _ => True
  | .group _ inner => AllOneLine inner

def AllOneLine : List Token → Prop
  | [] => True
  | t :: ts => t.OneLine ∧ AllOneLine ts

end

theorem allOneLine_append {ts us : List Token} :
    AllOneLine (ts ++ us) ↔ AllOneLine ts ∧ AllOneLine us := by
  induction ts with
  | nil => simp [AllOneLine]
  | cons t ts ih => simp [AllOneLine, ih, and_assoc]

/-- A group stands on one line if what is inside does. -/
theorem newline_not_mem_enclose (delimiter : Delimiter) {inner : String}
    (h : '\n' ∉ inner.toList) : '\n' ∉ (enclose delimiter inner).toList := by
  cases delimiter with
  | parenthesis => simp [enclose, h]
  | bracket => simp [enclose, h]
  | brace =>
    rw [enclose]
    split
    · decide
    · simp [h]

mutual

/-- A token is printed on one line. -/
theorem newline_not_mem_text : ∀ t : Token, t.OneLine → '\n' ∉ t.text.toList
  | .word _, h => h
  | .punct char _, h => by simpa [text, OneLine, eq_comm] using h
  | .literal value, _ => Text.newline_not_mem_quoteLiteral value
  | .group delimiter inner, h =>
    newline_not_mem_enclose delimiter (newline_not_mem_streamText true inner h)

theorem newline_not_mem_streamText (joint : Bool) :
    ∀ ts : List Token, AllOneLine ts → '\n' ∉ (streamText joint ts).toList
  | [], _ => by simp [streamText]
  | t :: ts, ⟨ht, hts⟩ => by
    have htext := newline_not_mem_text t ht
    have hrest := newline_not_mem_streamText t.isJoint ts hts
    have hspace : '\n' ∉ (if joint then "" else " ").toList := by cases joint <;> decide
    simp [streamText, htext, hrest, hspace]

end

end Token

/-- The text of a token stream. -/
def printTokens (ts : List Token) : String := Token.streamText true ts

/-- Joint punctuation stays together; braces keep their inner spaces. -/
example : printTokens [.punct ':' true, .punct ':' false, .word "a", .group .parenthesis [],
    .group .brace [.literal "x"]] = ":: a () \x7b \"x\" \x7d" := by decide

end ScreenSynthesis.Rendering
