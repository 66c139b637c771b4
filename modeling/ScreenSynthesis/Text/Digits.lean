/-!
# Digits

Reading numbers in some base, and the characters that hexadecimal digits stand for.
-/

namespace ScreenSynthesis.Text

/-- A text in lower case, as far as ASCII goes. -/
def lowerCase (cs : List Char) : List Char := cs.map Char.toLower

/-- The value of a digit in bases up to sixteen. -/
def digitValue? (c : Char) : Option Nat :=
  if c.isDigit then some (c.toNat - '0'.toNat)
  else if 'a' ≤ c.toLower ∧ c.toLower ≤ 'f' then some (c.toLower.toNat - 'a'.toNat + 10)
  else none

/-- The number that at least one digit of a base writes. -/
def inBase? (base : Nat) (cs : List Char) : Option Nat :=
  if cs.isEmpty then none
  else cs.foldlM (fun n c => do
    let d ← digitValue? c
    if d < base then some (base * n + d) else none) 0

/-- The character whose code some hexadecimal digits write. -/
def codePoint? (digits : List Char) : Option Char := do
  let n ← inBase? 16 digits
  if n.isValidChar then some (Char.ofNat n) else none

/-- A sign off the front of a text: whether it is a minus, and what follows. -/
def splitSign : List Char → Bool × List Char
  | '-' :: cs => (true, cs)
  | '+' :: cs => (false, cs)
  | cs => (false, cs)

/-- Digits must fit their base, and halves of surrogate pairs are no characters. -/
example : inBase? 16 ['f', 'F'] = some 255 ∧ inBase? 8 ['8'] = none ∧ inBase? 10 [] = none ∧
    codePoint? ['e', '9'] = some 'é' ∧ codePoint? ['d', '8', '0', '0'] = none := by decide

end ScreenSynthesis.Text
