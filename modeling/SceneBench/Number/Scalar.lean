/-!
# Single-precision numbers, kept as words

Scene content is written to disk word for word, so a number of a scene is its 32-bit pattern and
nothing else: two scalars are equal exactly when their patterns are. Arithmetic reads the patterns
as IEEE single-precision numbers and writes the rounded result back as a pattern.

Order is not left to the arithmetic unit. `rank` places every pattern that is a number on one
integer line, with the two zeros at the same point, and comparisons, `min` and `max` are stated
through it. A remainder is exact: both operands are counts of the smallest positive number
(`units`), and the remainder of the counts is again such a count.
-/

namespace SceneBench

-- A power of natural numbers is the same term everywhere, also where powers in a monoid are known.
attribute [instance (high), default_instance 20000] instPowNat

/-- A single-precision number as its 32-bit pattern. -/
structure Scalar where
  bits : UInt32
  deriving DecidableEq, Repr, Inhabited

namespace Scalar

/-! ## Patterns -/

/-- The pattern without its sign, read as a number. -/
def magnitude (a : Scalar) : Nat := a.bits.toNat % 2 ^ 31

/-- The sign bit is set, also for negative zero. -/
def isNegative (a : Scalar) : Bool := decide (2 ^ 31 ≤ a.bits.toNat)

/-- The magnitude of infinity; every larger one stands for no number. -/
def infinityMagnitude : Nat := 0x7f800000

def isNaN (a : Scalar) : Bool := decide (infinityMagnitude < a.magnitude)

def isInfinite (a : Scalar) : Bool := decide (a.magnitude = infinityMagnitude)

/-- The pattern with the given sign and magnitude. -/
def ofMagnitude (negative : Bool) (magnitude : Nat) : Scalar :=
  ⟨UInt32.ofNat (if negative then 2 ^ 31 + magnitude else magnitude)⟩

/-- The pattern that arithmetic gives where there is no answer. -/
def nan : Scalar := ⟨0x7fc00000⟩

/-! ## Arithmetic -/

/-- The arithmetic unit's view of the pattern. -/
def toFloat32 (a : Scalar) : Float32 := Float32.ofBits a.bits

def ofFloat32 (x : Float32) : Scalar := ⟨x.toBits⟩

instance : Add Scalar := ⟨fun a b => ofFloat32 (a.toFloat32 + b.toFloat32)⟩
instance : Sub Scalar := ⟨fun a b => ofFloat32 (a.toFloat32 - b.toFloat32)⟩
instance : Mul Scalar := ⟨fun a b => ofFloat32 (a.toFloat32 * b.toFloat32)⟩
instance : Div Scalar := ⟨fun a b => ofFloat32 (a.toFloat32 / b.toFloat32)⟩

/-- Negation turns the sign over, also of a pattern that is no number. -/
instance : Neg Scalar := ⟨fun a => ofMagnitude (!a.isNegative) a.magnitude⟩

def abs (a : Scalar) : Scalar := ofMagnitude false a.magnitude

def sqrt (a : Scalar) : Scalar := ofFloat32 a.toFloat32.sqrt

/-- The nearest number to a natural number, ties to the even pattern. -/
def ofNat (n : Nat) : Scalar := ofFloat32 (Float32.ofNat n)

/-- The nearest number to an integer, ties to the even pattern. -/
def ofInt : Int → Scalar
  | .ofNat n => ofNat n
  | .negSucc n => -ofNat (n + 1)

instance (n : Nat) : OfNat Scalar n := ⟨ofNat n⟩

/-- A decimal literal is the number nearest to it. -/
instance : OfScientific Scalar :=
  ⟨fun mantissa negative exponent =>
    ofFloat32 (OfScientific.ofScientific mantissa negative exponent)⟩

/-! ## Wider arithmetic

The angle functions are evaluated in double precision and rounded once. -/

def toFloat (a : Scalar) : Float := a.toFloat32.toFloat

/-- The nearest single-precision number, infinite beyond the range. -/
def ofFloat (x : Float) : Scalar := ofFloat32 x.toFloat32

def sin (a : Scalar) : Scalar := ofFloat a.toFloat.sin

def cos (a : Scalar) : Scalar := ofFloat a.toFloat.cos

def asin (a : Scalar) : Scalar := ofFloat a.toFloat.asin

/-- The angle whose tangent is `y / x`, in the quadrant of the two. -/
def atan2 (y x : Scalar) : Scalar := ofFloat (Float.atan2 y.toFloat x.toFloat)

/-- The ratio of a circle's circumference to its diameter, rounded. -/
def pi : Scalar := ⟨0x40490fdb⟩

/-! ## Order -/

/-- The place of a number on the integer line; both zeros stand at `0`. -/
def rank (a : Scalar) : Int := if a.isNegative then -(a.magnitude : Int) else a.magnitude

/-- Comparison as numbers: false as soon as one side is no number. -/
def le (a b : Scalar) : Bool := !a.isNaN && !b.isNaN && decide (a.rank ≤ b.rank)

def lt (a b : Scalar) : Bool := !a.isNaN && !b.isNaN && decide (a.rank < b.rank)

/-- Equality as numbers: the two zeros agree, and what is no number agrees with nothing. -/
def same (a b : Scalar) : Bool := !a.isNaN && !b.isNaN && decide (a.rank = b.rank)

/-- The smaller of two numbers; of a number and no number, the number. -/
def min (a b : Scalar) : Scalar :=
  if a.isNaN then b else if b.isNaN then a else if b.rank < a.rank then b else a

/-- The larger of two numbers; of a number and no number, the number. -/
def max (a b : Scalar) : Scalar :=
  if a.isNaN then b else if b.isNaN then a else if a.rank < b.rank then b else a

/-- Move into an interval; what is no number stays as it is. -/
def clamp (a low high : Scalar) : Scalar :=
  let raised := if a.lt low then low else a
  if high.lt raised then high else raised

/-! ## Exact remainders and whole parts -/

/-- The size of a finite number, counted in the smallest positive number (`2 ^ -149`). -/
def units (a : Scalar) : Nat :=
  let exponent := a.magnitude / 2 ^ 23
  let fraction := a.magnitude % 2 ^ 23
  if exponent = 0 then fraction else (fraction + 2 ^ 23) * 2 ^ (exponent - 1)

/-- The magnitude of a count of units; digits beyond the 24 leading ones are dropped, so it is
exact on every count that is the size of a scalar. -/
def magnitudeOfUnits (n : Nat) : Nat :=
  if n < 2 ^ 24 then n
  else
    let shift := n.log2 - 23
    (shift + 1) * 2 ^ 23 + (n / 2 ^ shift - 2 ^ 23)

/-- The remainder of a division that rounds towards zero. It takes the sign of the dividend and
is exact, because a remainder of two counts of units is a count that a scalar can hold. -/
def rem (a b : Scalar) : Scalar :=
  if a.isNaN || b.isNaN || a.isInfinite || b.magnitude = 0 then nan
  else if b.isInfinite then a
  else ofMagnitude a.isNegative (magnitudeOfUnits (a.units % b.units))

instance : Mod Scalar := ⟨rem⟩

/-- The whole part as a 32-bit integer: towards zero, held at the ends of the range, and `0` for
what is no number. -/
def truncate (a : Scalar) : Int :=
  if a.isNaN then 0
  else
    let whole := a.units / 2 ^ 149
    if a.isNegative then -(Nat.min whole (2 ^ 31) : Int) else (Nat.min whole (2 ^ 31 - 1) : Int)

end Scalar

end SceneBench
