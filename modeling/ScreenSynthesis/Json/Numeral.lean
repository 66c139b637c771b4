import ScreenSynthesis.Json.Number

/-!
# Numerals

A numeral is an optional minus sign, whole digits without a superfluous zero, and possibly a
fraction and an exponent. `Numeral.scan?` takes one off the front of a text and `Numeral.value?`
says which number it is.

A real number is computed from the first digits that fit 64 bits and a power of ten: one exact
conversion and one multiplication or division.
-/

namespace ScreenSynthesis.Json

/-- A numeral, taken apart. -/
structure Numeral where
  negative : Bool
  whole : List Char
  /-- The digits behind the point. -/
  fraction : Option (List Char)
  /-- The power of ten. -/
  exponent : Option Int
deriving DecidableEq, Repr

/-- The number that a list of decimal digits writes. -/
def digitsValue (ds : List Char) : Nat :=
  ds.foldl (fun n d => 10 * n + (d.toNat - '0'.toNat)) 0

namespace Numeral

/-- Digits off the front of a text, at least one. -/
def digits? (cs : List Char) : Option (List Char × List Char) :=
  match cs.takeWhile Char.isDigit with
  | [] => none
  | ds => some (ds, cs.dropWhile Char.isDigit)

/-- The whole digits: a single zero, or digits that start with another one. -/
def whole? (cs : List Char) : Option (List Char × List Char) :=
  match digits? cs with
  | some ('0' :: _ :: _, _) => none
  | found => found

/-- A point and the digits behind it, if a point comes next. -/
def fraction? : List Char → Option (Option (List Char) × List Char)
  | '.' :: cs => (digits? cs).map fun (ds, rest) => (some ds, rest)
  | cs => some (none, cs)

/-- An exponent, if one comes next. -/
def exponent? : List Char → Option (Option Int × List Char)
  | c :: cs =>
    if c = 'e' ∨ c = 'E' then
      let (sign, cs) : Int × List Char :=
        match cs with
        | '-' :: cs => (-1, cs)
        | '+' :: cs => (1, cs)
        | cs => (1, cs)
      (digits? cs).map fun (ds, rest) => (some (sign * digitsValue ds), rest)
    else some (none, c :: cs)
  | [] => some (none, [])

/-- The numeral at the front of a text, and what follows it. -/
def scan? (cs : List Char) : Option (Numeral × List Char) := do
  let (negative, cs) := match cs with
    | '-' :: cs => (true, cs)
    | cs => (false, cs)
  let (whole, cs) ← whole? cs
  let (fraction, cs) ← fraction? cs
  let (exponent, cs) ← exponent? cs
  return (⟨negative, whole, fraction, exponent⟩, cs)

/-- Digits appended to `n` as long as the result fits 64 bits: that result, how many digits were
taken, and how many were left. -/
def absorb (n : Nat) : List Char → Nat × Nat × Nat
  | [] => (n, 0, 0)
  | d :: ds =>
    let next := 10 * n + (d.toNat - '0'.toNat)
    if next < UInt64.size then
      let (m, taken, left) := absorb next ds
      (m, taken + 1, left)
    else (n, 0, ds.length + 1)

/-- The largest power of ten that is multiplied or divided by at once. -/
def maxPower : Nat := 308

/-- The power of ten `10^n` as a floating point number. -/
def power (n : Nat) : Float := Float.ofScientific 1 false n

/-- `x · 10^exponent`, unless it is out of range. Division by more than the largest power takes
several steps, and ends when the quotient has become zero. -/
def scale (x : Float) (exponent : Int) : Nat → Option Float
  | 0 => some x
  | fuel + 1 =>
    if exponent.natAbs ≤ maxPower then
      if 0 ≤ exponent then
        let product := x * power exponent.toNat
        if product.isInf then none else some product
      else some (x / power (-exponent).toNat)
    else if x == 0 then some x
    else if 0 ≤ exponent then none
    else scale (x / power maxPower) (exponent + maxPower) fuel

/-- The real number of a numeral, unless it is out of range. -/
def real? (n : Numeral) : Option Float :=
  let (significand, _, dropped) := absorb 0 n.whole
  let (significand, taken, _) := absorb significand (n.fraction.getD [])
  let exponent : Int := n.exponent.getD 0 + dropped - taken
  -- Two divisions by the largest power leave nothing of a number of 64 bits.
  (scale (UInt64.ofNat significand).toFloat exponent 4).map fun x => if n.negative then -x else x

/-- The number of a numeral, unless it is out of range. Minus zero is real, as no whole number has
its sign. -/
def value? (n : Numeral) : Option Number :=
  let size := digitsValue n.whole
  let whole : Int := if n.negative then -size else size
  if n.fraction = none ∧ n.exponent = none ∧ (n.negative → size ≠ 0) ∧ fitsWord whole then
    some (.whole whole)
  else n.real?.map .real

/-- A zero takes no more whole digits, and a point takes at least one digit. -/
example : scan? "-12.5e+3x".toList = some (⟨true, ['1', '2'], some ['5'], some 3⟩, ['x']) ∧
    scan? "01".toList = none ∧ scan? "1.".toList = none := by decide

end Numeral

end ScreenSynthesis.Json
