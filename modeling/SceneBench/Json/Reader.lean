import SceneBench.Json.Skip

/-!
# Values with meaning

A reader takes a value of an expected kind. What stands there instead is reported by what it is, so
it is read as far as that needs; a fault on the way is reported in its place. A list or an object is
not read for that: its bracket tells enough.

A value of brackets can be faulty as a whole, by its length or its names. Such a fault is placed
where the value ends, or where its end was looked for in vain.
-/

namespace SceneBench.Json

/-! ## Ends of brackets -/

/-- The outcome of looking for the end of a bracket: where it was found or given up. -/
structure Closing where
  reached : Cursor
  failure : Option Failure

namespace Closing

/-- Look for the end of an object. -/
def object (c : Cursor) : Closing :=
  let c := c.skipBlanks
  match c.peek with
  | some '}' => ⟨c.next, none⟩
  | some ',' => ⟨c, some (c.ahead .trailingComma)⟩
  | some _ => ⟨c, some (c.ahead .trailingText)⟩
  | none => ⟨c, some (c.ahead (.endOfText .object))⟩

/-- Look for the end of a list. A comma is read to see whether it is only one too many. -/
def list (c : Cursor) : Closing :=
  let c := c.skipBlanks
  match c.peek with
  | some ']' => ⟨c.next, none⟩
  | some ',' =>
    let c := c.next.skipBlanks
    ⟨c, some (c.ahead (if c.peek = some ']' then .trailingComma else .trailingText))⟩
  | some _ => ⟨c, some (c.ahead .trailingText)⟩
  | none => ⟨c, some (c.ahead (.endOfText .list))⟩

end Closing

namespace Scan

variable {α : Type}

/-- End a value of brackets. A fault of the value as a whole comes before one of its end. -/
def close (ending : Cursor → Closing) (value : Except Fault α) : Scan α := fun c =>
  let closing := ending c
  match value, closing.failure with
  | .error fault, _ => .error (closing.reached.here fault)
  | .ok _, some failure => .error failure
  | .ok a, none => .ok (a, closing.reached)

/-! ## Elements and keys -/

/-- Get to the next element of a list, if there is one. -/
def nextElement (isFirst : Bool) : Scan Bool := do
  match ← peek with
  | none => failAhead (.endOfText .list)
  | some ']' => return false
  | some c =>
    if isFirst then return true
    if c ≠ ',' then failAhead .expectedListEnd
    advance
    match ← peek with
    | none => failAhead (.endOfText .value)
    | some ']' => failAhead .trailingComma
    | some _ => return true

/-- Get behind the opening quote of the next key of an object, if there is one. -/
def nextKey (isFirst : Bool) : Scan Bool := do
  match ← peek with
  | none => failAhead (.endOfText .object)
  | some '}' => return false
  | some c =>
    if !isFirst then
      if c ≠ ',' then failAhead .expectedObjectEnd
      advance
    match ← peek with
    | none => failAhead (.endOfText .value)
    | some '"' => do
      advance
      return true
    | some '}' => failAhead .trailingComma
    | some _ => failAhead .keyIsNoString

/-! ## Single values -/

/-- The first byte of a value, which has to be there. -/
def valueStart : Scan Char := do
  match ← peek with
  | some c => return c
  | none => failAhead (.endOfText .value)

/-- Report what stands where something else was expected. -/
def mismatch (expected : String) : Scan α := do
  match (← get).peek with
  | some 'n' => do
    advance
    word ['u', 'l', 'l']
    failHere (.wrongType .null expected)
  | some 't' => do
    advance
    word ['r', 'u', 'e']
    failHere (.wrongType (.boolean true) expected)
  | some 'f' => do
    advance
    word ['a', 'l', 's', 'e']
    failHere (.wrongType (.boolean false) expected)
  | some '"' => do
    advance
    failHere (.wrongType (.string (← string)) expected)
  | some '[' => failHere (.wrongType .list expected)
  | some '{' => failHere (.wrongType .object expected)
  | some '-' => do
    advance
    failHere (.wrongType (.number (← number true)) expected)
  | some c =>
    if c.isDigit then failHere (.wrongType (.number (← number false)) expected)
    else failAhead .expectedValue
  | none => failAhead .expectedValue

/-- Read a number, whatever it is. -/
def anyNumber (expected : String) : Scan Number := do
  let c ← valueStart
  if c = '-' then
    advance
    number true
  else if c.isDigit then number false
  else mismatch expected

/-- Read a natural number of 32 bits. -/
def word32 : Scan UInt32 := do
  match ← anyNumber "u32" with
  | .natural n =>
    if n < 2 ^ 32 then return UInt32.ofNat n
    else failHere (.wrongValue (.number (.natural n)) "u32")
  | .negative n => failHere (.wrongValue (.number (.negative n)) "u32")
  | .real x => failHere (.wrongType (.number (.real x)) "u32")

/-- Read a number as the scalar nearest to it. -/
def scalar : Scan Scalar := do
  match ← anyNumber "f32" with
  | .natural n => return Scalar.ofNat n
  | .negative n => return -Scalar.ofNat n
  | .real x => return Scalar.ofFloat x

/-- Read a string. -/
def text (expected : String) : Scan String := do
  if (← valueStart) = '"' then
    advance
    string
  else mismatch expected

/-- Read `null`, which stands for nothing, or a value. -/
def optional (read : Scan α) : Scan (Option α) := do
  match ← peek with
  | some 'n' => do
    advance
    word ['u', 'l', 'l']
    return none
  | _ => return some (← read)

/-- Read `null`. -/
def unit : Scan Unit := do
  if (← valueStart) = 'n' then
    advance
    word ['u', 'l', 'l']
  else mismatch "unit"

/-- The thing of the name that has just been read. -/
def named (all : List α) (tag : α → String) (name : String) : Scan α := do
  match all.find? fun a => tag a = name with
  | some a => return a
  | none => failHere (.unknownVariant name (all.map tag))

/-- Read one of several things, given by its name or by an object with nothing under its name. -/
def variant (all : List α) (tag : α → String) : Scan α := do
  match ← valueStart with
  | '"' => do
    advance
    named all tag (← string)
  | '{' => do
    advance
    if !(← nextKey true) then failAhead .expectedValue
    let a ← named all tag (← string)
    colon
    unit
    match ← peek with
    | some '}' => do
      advance
      return a
    | some _ => failHere .expectedValue
    | none => failHere (.endOfText .object)
  | _ => failAhead .expectedValue

/-! ## Lists -/

/-- Read the elements of a list, with a step for each of them. -/
def elements (read : Scan α) : List UInt8 → Bool → Scan (List α)
  | [], _ => failAhead (.endOfText .list)
  | _ :: bound, isFirst => do
    if ← nextElement isFirst then
      let a ← read
      return a :: (← elements read bound false)
    else return []

/-- Read a list. -/
def list (read : Scan α) : Scan (List α) := do
  if (← valueStart) = '[' then
    advance
    let all ← elements read (← get).rest true
    close Closing.list (.ok all)
  else mismatch "a sequence"

/-- Read up to `count` elements, of which `found` have been read before. -/
def fixedElements (read : Scan α) (expected : String) : Nat → Nat → Scan (Except Fault (List α))
  | 0, _ => return .ok []
  | count + 1, found => do
    if ← nextElement (found = 0) then
      let a ← read
      return (← fixedElements read expected count (found + 1)).map (a :: ·)
    else return .error (.wrongLength found expected)

/-- Read a list of exactly `count` elements. -/
def fixedList (read : Scan α) (count : Nat) : Scan (List α) := do
  let expected := s!"an array of length {count}"
  if (← valueStart) = '[' then
    advance
    close Closing.list (← fixedElements read expected count 0)
  else mismatch expected

/-! ## Whole documents -/

/-- Read a value and nothing behind it. -/
def whole (read : Scan α) : Scan α := do
  let a ← read
  if (← peek).isSome then failAhead .trailingText
  return a

/-- Read a text as one document. -/
def document (read : Scan α) (text : String) : Except Failure α :=
  ((whole read).run (Cursor.start (Utf8.encode text))).map Prod.fst

end Scan

end SceneBench.Json
