import SceneBench.Json.Fault

/-!
# A place in a text

A document is read byte by byte. A cursor is the rest of the text together with the place that was
reached: the line, and how many bytes of that line have been read. A fault that is found at a cursor
points either at the byte just read or at the one that comes next; where no byte is left the two are
the same place.

A scan takes a value off the front of the text or fails at a place. A scan in steps is bounded by a
list with an element for each byte that is left when it begins: a step reads at least one byte, so
the list is used up only when the text is, and that is a fault in any case.
-/

namespace SceneBench.Json

/-- A fault together with its place. -/
structure Failure where
  fault : Fault
  line : Nat
  column : Nat
  deriving Repr

def Failure.message (f : Failure) : String :=
  s!"{f.fault.message} at line {f.line} column {f.column}"

structure Cursor where
  rest : List UInt8
  line : Nat := 1
  column : Nat := 0
  deriving DecidableEq, Repr

namespace Cursor

/-- Where a text begins. -/
def start (bytes : List UInt8) : Cursor := { rest := bytes }

/-- The next byte, as the character of that number. -/
def peek (c : Cursor) : Option Char := c.rest.head?.map fun b => Char.ofNat b.toNat

/-- Behind the next byte. -/
def next (c : Cursor) : Cursor :=
  match c.rest with
  | [] => c
  | b :: rest =>
    if b = 0x0A then ⟨rest, c.line + 1, 0⟩ else ⟨rest, c.line, c.column + 1⟩

/-- Behind the next `n` bytes. -/
def skip (c : Cursor) : Nat → Cursor
  | 0 => c
  | n + 1 => c.next.skip n

/-- A fault at the byte just read. -/
def here (c : Cursor) (fault : Fault) : Failure := ⟨fault, c.line, c.column⟩

/-- A fault at the byte that comes next. -/
def ahead (c : Cursor) (fault : Fault) : Failure := c.next.here fault

/-- The blanks of a document. -/
def isBlank (b : UInt8) : Bool := b = 0x20 || b = 0x09 || b = 0x0A || b = 0x0D

/-- Behind the blanks that come next. -/
def skipBlanks (c : Cursor) : Cursor := c.skip (c.rest.takeWhile isBlank).length

end Cursor

abbrev Scan := StateT Cursor (Except Failure)

namespace Scan

/-- What comes next, behind blanks. -/
def peek : Scan (Option Char) := do
  modify Cursor.skipBlanks
  return (← get).peek

/-- Read the next byte. -/
def advance : Scan Unit := modify Cursor.next

/-- Fail at the byte just read. -/
def failHere {α : Type} (fault : Fault) : Scan α := do throw ((← get).here fault)

/-- Fail at the byte that comes next. -/
def failAhead {α : Type} (fault : Fault) : Scan α := do throw ((← get).ahead fault)

/-- Read what is left of a word whose beginning has told it apart. -/
def word : List Char → Scan Unit
  | [] => return ()
  | expected :: rest => do
    match (← get).peek with
    | none => failHere (.endOfText .value)
    | some c => do
      advance
      if c = expected then word rest else failHere .expectedWord

end Scan

end SceneBench.Json
