import ScreenSynthesis.Text.GraphemeExtend
import ScreenSynthesis.Text.Printable

/-!
# Quoted text

Text is shown between double quotes with escapes for the quote, the backslash and everything that
would not be seen as a character of its own. Messages use `quote`; rendered string literals use
`quoteLiteral`, which differs only in how it writes a NUL that stands before an octal digit.
-/

namespace ScreenSynthesis.Text

/-- How `c` is written between quotes: a short escape, a code point in hexadecimal, or itself. -/
def escapeChar (c : Char) : List Char :=
  if c = '\x00' then ['\\', '0']
  else if c = '\t' then ['\\', 't']
  else if c = '\n' then ['\\', 'n']
  else if c = '\r' then ['\\', 'r']
  else if c = '"' then ['\\', '"']
  else if c = '\\' then ['\\', '\\']
  else if isGraphemeExtend c || !isPrintable c then
    ['\\', 'u', '\x7b'] ++ Nat.toDigits 16 c.toNat ++ ['\x7d']
  else [c]

/-- Text between double quotes. -/
def quote (s : String) : String :=
  "\"" ++ String.ofList (s.toList.flatMap escapeChar) ++ "\""

/-- Whether the text starts with a digit that would lengthen an octal escape. -/
def startsWithOctalDigit : List Char → Bool
  | c :: _ => '0' ≤ c && c ≤ '7'
  | [] => false

/-- The inside of a string literal. A NUL before an octal digit takes the longer escape, so that
the digit cannot be read as part of it. -/
def literalChars : List Char → List Char
  | [] => []
  | c :: rest =>
    (if c = '\x00' && startsWithOctalDigit rest then ['\\', 'x', '0', '0'] else escapeChar c) ++
      literalChars rest

/-- A string literal with the value `s`. -/
def quoteLiteral (s : String) : String :=
  "\"" ++ String.ofList (literalChars s.toList) ++ "\""

/-- Only the NUL before `1` is written the long way. -/
example : quoteLiteral "a\x001\x008\"" = "\"a\\x001\\08\\\"\"" ∧ quote "e\u0301" = "\"e\\u\x7b301\x7d\"" := by
  decide

/-- No digit is a line break. -/
theorem digitChar_ne_newline (n : Nat) : Nat.digitChar n ≠ '\n' := by
  have hsmall : ∀ k < 16, Nat.digitChar k ≠ '\n' := by decide
  by_cases h : n < 16
  · exact hsmall n h
  · -- there are no digits beyond the sixteen
    have hstar : Nat.digitChar n = '*' := by
      unfold Nat.digitChar
      repeat' rw [if_neg (by omega)]
    rw [hstar]
    decide

/-- The digits of a number stand on one line. -/
theorem newline_not_mem_toDigitsCore (base fuel n : Nat) {digits : List Char}
    (h : '\n' ∉ digits) : '\n' ∉ Nat.toDigitsCore base fuel n digits := by
  induction fuel generalizing n digits with
  | zero => exact h
  | succ fuel ih =>
    have hdigits : '\n' ∉ Nat.digitChar (n % base) :: digits :=
      List.not_mem_cons_of_ne_of_not_mem (digitChar_ne_newline _).symm h
    rw [Nat.toDigitsCore]
    split
    · exact hdigits
    · exact ih _ hdigits

/-- However a character is written between quotes, it stands on one line. -/
theorem newline_not_mem_escapeChar (c : Char) : '\n' ∉ escapeChar c := by
  by_cases hc : c = '\n'
  · subst hc
    decide
  · unfold escapeChar
    iterate 5
      split
      · decide
    -- after the short escapes there are the code point and the character itself
    split
    · have hdigits : '\n' ∉ Nat.toDigits 16 c.toNat :=
        newline_not_mem_toDigitsCore 16 _ _ List.not_mem_nil
      simp [hdigits]
    · exact List.not_mem_cons_of_ne_of_not_mem (Ne.symm hc) List.not_mem_nil

theorem newline_not_mem_literalChars (cs : List Char) : '\n' ∉ literalChars cs := by
  induction cs with
  | nil => exact List.not_mem_nil
  | cons c rest ih =>
    rw [literalChars, List.mem_append, not_or]
    refine ⟨?_, ih⟩
    split
    · decide
    · exact newline_not_mem_escapeChar c

/-- A string literal stands on one line, whatever its value is. -/
theorem newline_not_mem_quoteLiteral (s : String) : '\n' ∉ (quoteLiteral s).toList := by
  simp [quoteLiteral, newline_not_mem_literalChars]

end ScreenSynthesis.Text
