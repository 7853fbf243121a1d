import SceneBench.Json.Cursor
import SceneBench.Storage.Utf8

/-!
# Strings in a document

Behind its opening quote a string is runs of plain bytes, with escapes between them, up to the
closing quote. A character beyond the sixteen-bit range is escaped as a pair of units, of which the
first announces the second; half a pair is a fault.

A string whose content does not matter is looked over more loosely: its escapes have to be complete,
but nothing is asked of their units.
-/

namespace SceneBench.Json.Scan

/-- A byte that stands for itself between quotes. -/
def isPlain (b : UInt8) : Bool := 0x20 ≤ b && b ≠ 0x22 && b ≠ 0x5C

/-- Take the plain bytes that come next. -/
def plainBytes : Scan (List UInt8) := do
  let found := (← get).rest.takeWhile isPlain
  modify fun c => c.skip found.length
  return found

/-- The next byte of a string, which has to be there. -/
def stringByte : Scan Char := do
  match (← get).peek with
  | some c => return c
  | none => failHere (.endOfText .string)

def hexDigit? (b : UInt8) : Option Nat :=
  if 0x30 ≤ b ∧ b ≤ 0x39 then some (b.toNat - 0x30)
  else if 0x61 ≤ b ∧ b ≤ 0x66 then some (b.toNat - 0x61 + 10)
  else if 0x41 ≤ b ∧ b ≤ 0x46 then some (b.toNat - 0x41 + 10)
  else none

/-- The number that hexadecimal digits make. -/
def hexValue? (digits : List UInt8) : Option Nat :=
  digits.foldlM (fun value b => (hexDigit? b).map (value * 16 + ·)) 0

/-- Read the four digits of a unit. -/
def hexUnit : Scan Nat := do
  let four := (← get).rest.take 4
  modify fun c => c.skip four.length
  if four.length < 4 then failHere (.endOfText .string)
  match hexValue? four with
  | some value => return value
  | none => failHere .badEscape

/-- The character that a letter behind a backslash stands for. -/
def letterEscape? : Char → Option Char
  | '"' => some '"'
  | '\\' => some '\\'
  | '/' => some '/'
  | 'b' => some '\x08'
  | 'f' => some '\x0c'
  | 'n' => some '\n'
  | 'r' => some '\r'
  | 't' => some '\t'
  | _ => none

def isFirstHalf (unit : Nat) : Bool := 0xD800 ≤ unit && unit < 0xDC00

def isSecondHalf (unit : Nat) : Bool := 0xDC00 ≤ unit && unit < 0xE000

/-- The character of a pair of units. -/
def pairChar (first second : Nat) : Char :=
  Char.ofNat (0x10000 + (first - 0xD800) * 0x400 + (second - 0xDC00))

/-- Read a mark that has to come between the halves of a pair. -/
def pairMark (mark : Char) : Scan Unit := do
  let c ← stringByte
  advance
  if c ≠ mark then failHere .unfinishedPair

/-- Read a character given by its unit, or by two of them. -/
def unitEscape : Scan Char := do
  let first ← hexUnit
  if isSecondHalf first then failHere .loneSurrogate
  if !isFirstHalf first then return Char.ofNat first
  pairMark '\\'
  pairMark 'u'
  let second ← hexUnit
  if !isSecondHalf second then failHere .loneSurrogate
  return pairChar first second

/-- Read an escape behind its backslash. -/
def escapedChar : Scan Char := do
  let c ← stringByte
  advance
  if c = 'u' then unitEscape
  else
    match letterEscape? c with
    | some meant => return meant
    | none => failHere .badEscape

/-- Read the bytes of a string up to its closing quote, with a step for each escape. -/
def stringBytes : List UInt8 → Scan (List UInt8)
  | [] => failHere (.endOfText .string)
  | _ :: bound => do
    let plain ← plainBytes
    match ← stringByte with
    | '"' => do
      advance
      return plain
    | '\\' => do
      advance
      let c ← escapedChar
      return plain ++ Utf8.encode (String.singleton c) ++ (← stringBytes bound)
    | _ => do
      advance
      failHere .controlCharacter

/-- Read a string behind its opening quote. -/
def string : Scan String := do
  return Utf8.decodeLossy (← stringBytes (← get).rest)

/-- Look over an escape behind its backslash. -/
def skipEscape : Scan Unit := do
  let c ← stringByte
  advance
  if c = 'u' then
    let _ ← hexUnit
  else if (letterEscape? c).isNone then failHere .badEscape

/-- Look over a string up to its closing quote, with a step for each escape. -/
def skipStringBytes : List UInt8 → Scan Unit
  | [] => failHere (.endOfText .string)
  | _ :: bound => do
    let _ ← plainBytes
    match ← stringByte with
    | '"' => advance
    | '\\' => do
      advance
      skipEscape
      skipStringBytes bound
    | _ => failHere .controlCharacter

/-- Look over a string behind its opening quote. -/
def skipString : Scan Unit := do skipStringBytes (← get).rest

end SceneBench.Json.Scan
