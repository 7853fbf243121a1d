import SceneBench.Json.Number
import SceneBench.Json.Strings

/-!
# Values without meaning

A value under an unknown name is looked over: its brackets, commas and words have to be right, but
its strings and numbers are only scanned, and it may be nested to any depth. The brackets that stand
open are kept in a list, so a scan is a run of small steps. Each step reads at least one byte, which
is why a step for each byte that is left is enough.
-/

namespace SceneBench.Json

/-- A bracket that stands open. -/
inductive Bracket where
  | list
  | object
  deriving DecidableEq, Repr

namespace Bracket

/-- The character that closes a bracket. -/
def closing : Bracket → Char
  | list => ']'
  | object => '}'

/-- What a text ends in that leaves a bracket open. -/
def part : Bracket → Part
  | list => .list
  | object => .object

/-- The fault of anything but a comma or the closing bracket behind an element. -/
def expectedEnd : Bracket → Fault
  | list => .expectedListEnd
  | object => .expectedObjectEnd

end Bracket

/-- Where a scan stands: behind a bracket just opened, or behind the end of a value. -/
inductive Stage where
  | opened
  | ended
  deriving DecidableEq, Repr

namespace Scan

/-- Read the colon between a key and its value. -/
def colon : Scan Unit := do
  match ← peek with
  | some ':' => advance
  | some _ => failAhead .expectedColon
  | none => failAhead (.endOfText .object)

/-- Get to the value of the next element; in an object its key comes first. -/
def skipToValue : Bracket → Scan Unit
  | .list => return ()
  | .object => do
    match ← peek with
    | some '"' => do
      advance
      skipString
      colon
    | some _ => failAhead .keyIsNoString
    | none => failAhead (.endOfText .object)

/-- Look over a value, or over the bracket that it begins with. -/
def skipStart (opened : List Bracket) : Scan (Stage × List Bracket) := do
  match ← peek with
  | some 'n' => advance; word ['u', 'l', 'l']; return (.ended, opened)
  | some 't' => advance; word ['r', 'u', 'e']; return (.ended, opened)
  | some 'f' => advance; word ['a', 'l', 's', 'e']; return (.ended, opened)
  | some '"' => advance; skipString; return (.ended, opened)
  | some '[' => advance; return (.opened, .list :: opened)
  | some '{' => advance; return (.opened, .object :: opened)
  | some '-' => advance; skipNumber; return (.ended, opened)
  | some c => if c.isDigit then skipNumber; return (.ended, opened) else failAhead .expectedValue
  | none => failAhead (.endOfText .value)

/-- One step behind a bracket just opened, or behind an element: to the end of the bracket, or over
the beginning of the next element. -/
def skipInside (isOpened : Bool) (innermost : Bracket) (outer : List Bracket) :
    Scan (Stage × List Bracket) := do
  match ← peek with
  | none => failAhead (.endOfText innermost.part)
  | some c =>
    if c = innermost.closing then
      advance
      return (.ended, outer)
    else if isOpened then
      skipToValue innermost
      skipStart (innermost :: outer)
    else if c = ',' then
      advance
      skipToValue innermost
      skipStart (innermost :: outer)
    else failAhead innermost.expectedEnd

/-- Take steps until a value has ended and no bracket is open. -/
def skipSteps : List UInt8 → Stage → List Bracket → Scan Unit
  | _, _, [] => return ()
  | [], _, innermost :: _ => failAhead (.endOfText innermost.part)
  | _ :: bound, stage, innermost :: outer => do
    let (stage, brackets) ← skipInside (stage = .opened) innermost outer
    skipSteps bound stage brackets

/-- Look over a value. -/
def skipValue : Scan Unit := do
  let (stage, brackets) ← skipStart []
  skipSteps (← get).rest stage brackets

end Scan

end SceneBench.Json
