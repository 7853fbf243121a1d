import SceneBench.Number.Scalar
import SceneBench.Number.Shortest

/-!
# The text of a number

A number is written with the fewest digits that read back, in one of two notations. Which one
depends only on the exponent of the leading digit: inside a window the number is written
positionally and always with a decimal point, outside it with an exponent. The layouts of this
module fix the window, the sign of the exponent, which way ties go and what is written where there
is no number.
-/

namespace SceneBench

/-- Where positional notation ends and how the other notation looks. -/
structure NumberLayout where
  leastPositional : Int
  greatestPositional : Int
  signedExponent : Bool
  tie : Tie
  infinity : String
  notANumber : String

namespace NumberLayout

/-- Single-precision numbers of a data document. What has no number there is `null`. -/
def document : NumberLayout := ⟨-6, 12, true, .even, "null", "null"⟩

/-- Double-precision numbers quoted in a message about a document. -/
def message : NumberLayout := ⟨-5, 15, true, .even, "null", "null"⟩

/-- Numbers shown to a reader. -/
def display : NumberLayout := ⟨-4, 15, false, .up, "inf", "NaN"⟩

/-- Digits and point of a number whose leading digit has the given exponent. -/
def positional (digits : List Char) (leading : Int) : List Char :=
  if leading < 0 then
    '0' :: '.' :: (List.replicate (-leading - 1).toNat '0' ++ digits)
  else
    let whole := leading.toNat + 1
    let fraction := digits.drop whole
    digits.take whole ++ List.replicate (whole - digits.length) '0' ++
      '.' :: (if fraction.isEmpty then ['0'] else fraction)

/-- One digit, the others behind a point, and the exponent. -/
def scientific (layout : NumberLayout) (digits : List Char) (leading : Int) : List Char :=
  let fraction := digits.drop 1
  let sign := if leading < 0 then ['-'] else if layout.signedExponent then ['+'] else []
  digits.take 1 ++ (if fraction.isEmpty then [] else '.' :: fraction) ++
    'e' :: (sign ++ Nat.toDigits 10 leading.natAbs)

/-- The text of a positive decimal. -/
def decimal (layout : NumberLayout) (d : Decimal) : List Char :=
  let digits := Nat.toDigits 10 d.digits
  if layout.leastPositional ≤ d.leading ∧ d.leading ≤ layout.greatestPositional then
    positional digits d.leading
  else layout.scientific digits d.leading

/-- The text of a number of a binary format, given by sign and magnitude. -/
def render (layout : NumberLayout) (format : BinaryFormat) (infinity : Nat) (negative : Bool)
    (magnitude : Nat) : String :=
  let signed (text : String) := if negative then "-" ++ text else text
  if infinity < magnitude then layout.notANumber
  else if magnitude = infinity then
    if layout.infinity = layout.notANumber then layout.infinity else signed layout.infinity
  else if magnitude = 0 then signed "0.0"
  else signed (String.ofList (layout.decimal (shortestDecimal format layout.tie magnitude)))

end NumberLayout

/-- The text of a scalar under a layout. -/
def Scalar.text (layout : NumberLayout) (a : Scalar) : String :=
  layout.render .single Scalar.infinityMagnitude a.isNegative a.magnitude

/-- The text of a double-precision number in a message. -/
def messageText (x : Float) : String :=
  let bits := x.toBits.toNat
  NumberLayout.message.render .double 0x7ff0000000000000 (2 ^ 63 ≤ bits) (bits % 2 ^ 63)

end SceneBench
