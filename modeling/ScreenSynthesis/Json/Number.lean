import ScreenSynthesis.Decimal.Shortest

/-!
# Numbers of the interchange format

A number is whole or real. It is whole when it is written without a fraction and without an
exponent and fits 64 bits, signed if it is negative; every other number is real and keeps the
precision of 64-bit floating point.
-/

namespace ScreenSynthesis.Json

/-- A number. -/
inductive Number where
  /-- A whole number between `-2^63` and `2^64 - 1`. -/
  | whole (n : Int)
  /-- A number with a fraction, an exponent, or more digits than a whole number may have. -/
  | real (x : Float)
deriving Repr

/-- The number `2^63`, past which no signed number of 64 bits goes. -/
abbrev signedBound : Nat := 0x8000000000000000

/-- Whether a number fits 64 bits, one of them for its sign. -/
def fitsSigned (n : Int) : Bool := n.toNat < signedBound && (-n).toNat ≤ signedBound

/-- Whether a number fits 64 bits, signed only if it is negative. -/
def fitsWord (n : Int) : Bool := n.toNat < UInt64.size && (-n).toNat ≤ signedBound

/-- Where positional notation ends: decimal points beyond this many digits take an exponent. -/
def maxPointPosition : Int := 16

/-- Leading zeros after the point beyond this many take an exponent. -/
def maxLeadingZeros : Int := 4

/-- `digits · 10^exponent`, always with a fraction or an exponent. Positional notation is used
while the point stands at most sixteen digits from the first one and at most four zeros follow
it. -/
def decimalText (d : Decimal.Scaled) : String :=
  let digits := (toString d.digits).toList
  let point : Int := digits.length + d.exponent
  if 0 ≤ d.exponent ∧ point ≤ maxPointPosition then
    String.ofList (digits ++ List.replicate d.exponent.toNat '0' ++ ['.', '0'])
  else if 0 < point ∧ point ≤ maxPointPosition then
    String.ofList (digits.take point.toNat ++ ['.'] ++ digits.drop point.toNat)
  else if -maxLeadingZeros ≤ point ∧ point ≤ 0 then
    String.ofList (['0', '.'] ++ List.replicate (-point).toNat '0' ++ digits)
  else
    let fraction := if digits.length = 1 then [] else '.' :: digits.drop 1
    String.ofList (digits.take 1 ++ fraction ++ ['e']) ++ toString (point - 1)

/-- The text of a real number: its sign, then its shortest digits. -/
def realText (x : Float) : String :=
  let (negative, size) := Decimal.ofFloat x
  (if negative then "-" else "") ++
    match size with
    | some b => decimalText b.shortest
    | none => "0.0"

/-- The text of a number. -/
def Number.text : Number → String
  | .whole n => toString n
  | .real x => realText x

/-- Whole values keep a fraction, and an exponent takes over from the seventeenth digit and from
the fifth zero after the point. -/
example : decimalText ⟨1, 2⟩ = "100.0" ∧ decimalText ⟨15, -1⟩ = "1.5" ∧
    decimalText ⟨1, 16⟩ = "1e16" ∧ decimalText ⟨12, -6⟩ = "0.000012" ∧
    decimalText ⟨12, -7⟩ = "1.2e-6" := by decide +kernel

/-- Equality of numbers as values: a whole number and a real one are never the same. -/
def Number.same : Number → Number → Bool
  | .whole a, .whole b => a = b
  | .real a, .real b => a == b
  | _, _ => false

end ScreenSynthesis.Json
