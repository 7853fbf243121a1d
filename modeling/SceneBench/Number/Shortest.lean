import SceneBench.Number.Scalar

/-!
# The shortest decimal that reads back

A binary floating-point number stands for every real that rounds to it. Its text is the decimal
with the fewest digits in that interval, and of several such decimals the nearest to the number.

The number is `significand * 2 ^ exponent`. All comparisons are made on integers, with the number,
its neighbouring midpoints and the decimal grid scaled by one common factor, so nothing is rounded
on the way. A grid of `n` digits has a point in the interval exactly when one of the two grid
points around the number is in it; the first grid with a hit therefore gives the fewest digits.
-/

namespace SceneBench

/-- The number `digits * 10 ^ exponent`. -/
structure Decimal where
  digits : Nat
  exponent : Int
  deriving DecidableEq, Repr

namespace Decimal

/-- How many decimal digits a natural number is written with. -/
def length (n : Nat) : Nat := (Nat.toDigits 10 n).length

/-- The exponent of the leading digit: the number is `d.ddd * 10 ^ leading`. -/
def leading (d : Decimal) : Int := d.exponent + (length d.digits : Int) - 1

/-- The same number without trailing zeros; `fuel` bounds how many are dropped. -/
def dropZeros : Nat → Decimal → Decimal
  | 0, d => d
  | fuel + 1, d =>
    if d.digits ≠ 0 ∧ d.digits % 10 = 0 then dropZeros fuel ⟨d.digits / 10, d.exponent + 1⟩ else d

end Decimal

/-- How a binary format packs a number: the width of its fraction and the exponent of its smallest
positive number. -/
structure BinaryFormat where
  fractionBits : Nat
  leastExponent : Int

namespace BinaryFormat

def single : BinaryFormat := ⟨23, -149⟩
def double : BinaryFormat := ⟨52, -1074⟩

/-- The significand of a packed magnitude. -/
def significand (format : BinaryFormat) (magnitude : Nat) : Nat :=
  let fraction := magnitude % 2 ^ format.fractionBits
  if magnitude / 2 ^ format.fractionBits = 0 then fraction else fraction + 2 ^ format.fractionBits

/-- The exponent of a packed magnitude. -/
def exponent (format : BinaryFormat) (magnitude : Nat) : Int :=
  let field := magnitude / 2 ^ format.fractionBits
  if field = 0 then format.leastExponent else format.leastExponent + (field : Int) - 1

/-- The gap below a power of two is half the gap above it, except at the least exponent. -/
def narrowBelow (format : BinaryFormat) (magnitude : Nat) : Bool :=
  decide (magnitude % 2 ^ format.fractionBits = 0 ∧ 1 < magnitude / 2 ^ format.fractionBits)

end BinaryFormat

/-- Which of two decimals is taken when the number lies in the middle between them. -/
inductive Tie where
  | even
  | up
  deriving DecidableEq, Repr

/-- Whether the lower one is taken, given by its digits. -/
def Tie.takesLower : Tie → Nat → Bool
  | even, digits => digits % 2 == 0
  | up, _ => false

/-- The reals that round to one number, as integers over a common denominator. -/
structure RoundingInterval where
  low : Nat
  value : Nat
  high : Nat
  denominator : Nat
  closed : Bool

namespace RoundingInterval

def ofMagnitude (format : BinaryFormat) (magnitude : Nat) : RoundingInterval :=
  let m := format.significand magnitude
  let quarter := format.exponent magnitude - 2
  let up := 2 ^ quarter.toNat
  { low := (4 * m - if format.narrowBelow magnitude then 1 else 2) * up
    value := 4 * m * up
    high := (4 * m + 2) * up
    denominator := 2 ^ (-quarter).toNat
    closed := m % 2 = 0 }

/-- Whether the fraction `numerator / denominator` lies in the interval. -/
def holds (i : RoundingInterval) (numerator denominator : Nat) : Bool :=
  let x := numerator * i.denominator
  if i.closed then decide (i.low * denominator ≤ x ∧ x ≤ i.high * denominator)
  else decide (i.low * denominator < x ∧ x < i.high * denominator)

/-- The exponent of the leading decimal digit of the number. -/
def leading (i : RoundingInterval) : Int :=
  if i.denominator ≤ i.value then (Decimal.length (i.value / i.denominator) : Int) - 1
  else -(Decimal.length ((i.denominator - 1) / i.value) : Int)

/-- The decimal on the grid of `n` digits that reads back, if there is one: the nearer of the two
grid points around the number. -/
def onGrid (i : RoundingInterval) (tie : Tie) (n : Nat) : Option Decimal :=
  let step : Int := i.leading - (n : Int) + 1
  let up := 10 ^ step.toNat
  let down := 10 ^ (-step).toNat
  let below := i.value * down / (i.denominator * up)
  let above := below + 1
  let hitBelow := i.holds (below * up) down
  let hitAbove := i.holds (above * up) down
  let twice := 2 * (i.value * down)
  let middle := (below + above) * up * i.denominator
  let nearerBelow := decide (twice < middle) || (decide (twice = middle) && tie.takesLower below)
  if hitBelow && (nearerBelow || !hitAbove) then some ⟨below, step⟩
  else if hitAbove then some ⟨above, step⟩
  else none

end RoundingInterval

/-- The shortest decimal that reads back as the finite positive number of the given magnitude.
Seventeen digits always read back in both formats. -/
def shortestDecimal (format : BinaryFormat) (tie : Tie) (magnitude : Nat) : Decimal :=
  let i := RoundingInterval.ofMagnitude format magnitude
  match (List.range' 1 17).findSome? (i.onGrid tie) with
  | some d => d.dropZeros 20
  | none => ⟨0, 0⟩

end SceneBench
