/-!
# Shortest decimals

A binary floating point number stands for every real number that rounds to it. `shortest` finds the
decimal with the fewest digits among those, and of several the nearest to the number itself.

The number is `m · 2^q`. Everything is measured in quarters of `2^q`, so that the bounds of the
interval of real numbers that round to it are whole: half a unit away, or a quarter where the
neighbour below lies closer.
-/

namespace ScreenSynthesis.Decimal

/-- The value `digits · 10^exponent`. -/
structure Scaled where
  digits : Nat
  exponent : Int
deriving DecidableEq, Repr

/-- A positive binary number `significand · 2^exponent`. `narrowBelow` says that the neighbour
below is only half a unit away. -/
structure Binary where
  significand : Nat
  exponent : Int
  narrowBelow : Bool
deriving DecidableEq, Repr

/-- Two to a power. -/
def twoTo (n : Nat) : Nat := 1 <<< n

/-- Ten to a power. -/
def tenTo (n : Nat) : Nat := Nat.pow 10 n

/-- The fraction `quarters · 2^(exponent - 2) / 10^grid` as numerator and denominator. -/
def Binary.ratio (b : Binary) (grid : Int) (quarters : Nat) : Nat × Nat :=
  (quarters * twoTo (b.exponent - 2).toNat * tenTo (-grid).toNat,
   twoTo (2 - b.exponent).toNat * tenTo grid.toNat)

/-- Whether `d · 10^grid` rounds to `b`. The bounds of the interval themselves round to the even
significand. -/
def Binary.holds (b : Binary) (grid : Int) (d : Nat) : Bool :=
  let (low, den) := b.ratio grid (4 * b.significand - if b.narrowBelow then 1 else 2)
  let (high, _) := b.ratio grid (4 * b.significand + 2)
  if b.significand % 2 = 0 then low ≤ d * den && d * den ≤ high
  else low < d * den && d * den < high

/-- The multiple of `10^grid` that rounds to `b` and is nearest to it, a tie going to the even
multiple. Only the two multiples around `b` are tried: if any multiple rounds to `b`, one of them
does. -/
def Binary.onGrid (b : Binary) (grid : Int) : Option Nat :=
  let (num, den) := b.ratio grid (4 * b.significand)
  let below := num / den
  let rest := 2 * (num % den)
  let preferAbove := den < rest || (rest = den && below % 2 = 1)
  let (first, second) := if preferAbove then (below + 1, below) else (below, below + 1)
  if b.holds grid first then some first else if b.holds grid second then some second else none

/-- The coarsest power of ten worth trying for a number below `10^309`. -/
def coarsest : Nat := 310

/-- The fewest digits that read back as `b`, tried on ever finer grids. -/
def Binary.shortest (b : Binary) : Scaled :=
  let tried := (List.range 700).findSome? fun (i : Nat) =>
    let grid : Int := coarsest - i
    (b.onGrid grid).map fun d => ⟨d, grid⟩
  tried.getD ⟨0, 0⟩

/-- The parts of a finite number: its sign, and its size unless it is zero. -/
def ofFloat (x : Float) : Bool × Option Binary :=
  let bits : Nat := x.toBits.toNat
  let fraction : Nat := bits % twoTo 52
  let exponent : Nat := bits / twoTo 52 % twoTo 11
  let size : Binary :=
    if exponent = 0 then ⟨fraction, -1074, false⟩
    else ⟨twoTo 52 + fraction, (exponent : Int) - 1075, fraction = 0 && 1 < exponent⟩
  (bits / twoTo 63 = 1, if size.significand = 0 then none else some size)

/-- One and a half, and the smallest number of all, whose bounds are wide. -/
example : (Binary.mk (3 * twoTo 51) (-52) false).shortest = ⟨15, -1⟩ := by decide +kernel
example : (Binary.mk 1 (-1074) false).shortest = ⟨5, -324⟩ := by decide +kernel

end ScreenSynthesis.Decimal
