import SceneBench.Json.Cursor

/-!
# Numbers in a document

A number is read twice over: its text is taken apart into digits, and the digits are made into a
value. The first digits that fit in 64 bits are the significand; what cannot be added to it is only
counted. A real number is the significand, as a double-precision number, times or divided by a power
of ten, and one beyond the range of double precision is a fault.

A number whose value does not matter is only looked over.
-/

namespace SceneBench.Json

namespace Number

def isDigit (b : UInt8) : Bool := 0x30 ≤ b && b ≤ 0x39

def digitValue (b : UInt8) : Nat := b.toNat - 0x30

/-- Numbers below are kept whole. -/
def wholeLimit : Nat := 2 ^ 64

/-- Add digits to a significand as long as it stays below the limit; the significand, and how many
digits were added. -/
def accumulate (limit : Nat) (significand : Nat) : List UInt8 → Nat × Nat
  | [] => (significand, 0)
  | d :: rest =>
    let longer := significand * 10 + digitValue d
    if longer < limit then
      let (all, added) := accumulate limit longer rest
      (all, added + 1)
    else (significand, 0)

/-- The power of ten as a double-precision number; there are powers up to 308. -/
def tenTo (exponent : Nat) : Float := OfScientific.ofScientific 1 false exponent

/-- Divide by a power of ten, in steps that the powers reach. -/
def divideByTenTo (x : Float) (exponent : Nat) : Float :=
  if exponent ≤ 308 then x / tenTo exponent
  else if x == 0 then x
  else divideByTenTo (x / tenTo 308) (exponent - 308)
termination_by exponent

/-- The number `significand * 10 ^ exponent`, unless it is out of range. -/
def real? (significand : Nat) (exponent : Int) : Option Float :=
  let x := Float.ofNat significand
  if exponent < 0 then some (divideByTenTo x exponent.natAbs)
  else if exponent ≤ 308 then
    let product := x * tenTo exponent.toNat
    if product.isInf then none else some product
  else if x == 0 then some x
  else none

/-- A whole number with its sign. What does not fit in 64 bits, and a negative zero, is real. -/
def whole (negative : Bool) (value : Nat) : Number :=
  if negative then
    if 0 < value ∧ value ≤ 2 ^ 63 then .negative value else .real (-Float.ofNat value)
  else .natural value

end Number

namespace Scan

open Number

/-- Take the digits that come next. -/
def digits : Scan (List UInt8) := do
  let found := (← get).rest.takeWhile isDigit
  modify fun c => c.skip found.length
  return found

/-- Read the sign that may come next, and tell whether it is a minus. -/
def exponentSign : Scan Bool := do
  match (← get).peek with
  | some '+' => do
    advance
    return false
  | some '-' => do
    advance
    return true
  | _ => return false

/-- Make a real number of its parts. -/
def makeReal (negative : Bool) (significand : Nat) (exponent : Int) : Scan Number := do
  match real? significand exponent with
  | some x => return .real (if negative then -x else x)
  | none => failHere .numberTooLarge

/-- Read from the letter of an exponent on. An exponent that does not fit in 32 bits makes the
number out of range, or nothing at all. -/
def exponentPart (negative : Bool) (significand : Nat) (before : Int) : Scan Number := do
  advance
  let isMinus ← exponentSign
  match (← get).peek with
  | none => failHere (.endOfText .value)
  | some c =>
    if !c.isDigit then do
      advance
      failHere .badNumber
    else
      let ds := (← get).rest.takeWhile isDigit
      let (exponent, added) := accumulate (2 ^ 31) 0 ds
      if added < ds.length && significand ≠ 0 && !isMinus then do
        modify fun c => c.skip (added + 1)
        failHere .numberTooLarge
      else do
        modify fun c => c.skip ds.length
        if added < ds.length then return .real (if negative then -0.0 else 0.0)
        makeReal negative significand (if isMinus then before - exponent else before + exponent)

/-- Read the exponent, if there is one, and end the number. -/
def realEnd (negative : Bool) (significand : Nat) (exponent : Int) : Scan Number := do
  match (← get).peek with
  | some 'e' | some 'E' => exponentPart negative significand exponent
  | _ => makeReal negative significand exponent

/-- Read from the point on. -/
def fractionPart (negative : Bool) (significand : Nat) (dropped : Nat) : Scan Number := do
  advance
  let ds ← digits
  if ds.isEmpty then
    failAhead (if (← get).rest.isEmpty then .endOfText .value else .badNumber)
  else
    let (significand, added) := accumulate wholeLimit significand ds
    realEnd negative significand (dropped - added)

/-- Read a number behind its sign. -/
def number (negative : Bool) : Scan Number := do
  match (← get).peek with
  | none => failHere (.endOfText .value)
  | some first =>
    if !first.isDigit then do
      advance
      failHere .badNumber
    else do
      if first = '0' then
        advance
        if ((← get).peek.map Char.isDigit).getD false then failAhead .badNumber
      let ds ← digits
      let (significand, added) := accumulate wholeLimit 0 ds
      let dropped := ds.length - added
      match (← get).peek with
      | some '.' => fractionPart negative significand dropped
      | some 'e' | some 'E' => exponentPart negative significand dropped
      | _ =>
        if dropped = 0 then return whole negative significand
        makeReal negative significand dropped

/-- Look over an exponent from its letter on. -/
def skipExponent : Scan Unit := do
  advance
  let _ ← exponentSign
  if ((← get).peek.map Char.isDigit).getD false then
    let _ ← digits
  else do
    advance
    failHere .badNumber

/-- Look over a number behind its sign. -/
def skipNumber : Scan Unit := do
  let first := (← get).peek
  if !(first.map Char.isDigit).getD false then
    advance
    failHere .badNumber
  if first = some '0' then
    advance
    if ((← get).peek.map Char.isDigit).getD false then failAhead .badNumber
  let _ ← digits
  if (← get).peek = some '.' then
    advance
    if (← digits).isEmpty then failAhead .badNumber
  match (← get).peek with
  | some 'e' | some 'E' => skipExponent
  | _ => return ()

end Scan

end SceneBench.Json
