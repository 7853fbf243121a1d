import SceneBench.Json.Reader

/-!
# Values with fields

A shape lists the fields of a value. The value is read from an object, in which the fields stand
under their names and in any order, or from a list, in which they stand in the order of the shape.
A field that is not required may be left out, in a list together with all the fields behind it, and
keeps what the blank value has in its place. Nothing may be given twice, and unknown names are
passed over.
-/

namespace SceneBench.Json

/-- A field: its value is read as a change of what it belongs to. -/
structure Field (α : Type) where
  name : String
  isRequired : Bool := false
  read : Scan (α → α)

/-- A field that takes a value of its own type. -/
def Field.of {α β : Type} (name : String) (read : Scan β) (put : β → α → α)
    (isRequired : Bool := false) : Field α :=
  ⟨name, isRequired, do return put (← read)⟩

structure Shape (α : Type) where
  name : String
  fields : List (Field α)
  blank : α

namespace Shape

variable {α : Type}

/-- What a reader of the shape expects. -/
def expectation (s : Shape α) : String := "struct " ++ s.name

/-- What a list of too few elements is told. -/
def lengthExpectation (s : Shape α) : String :=
  let count := s.fields.length
  let elements := if count = 1 then "element" else "elements"
  s!"{s.expectation} with {count} {elements}"

def field? (s : Shape α) (name : String) : Option (Field α) :=
  s.fields.find? fun f => f.name = name

/-- The first required field that has not been given. -/
def missing? (s : Shape α) (given : List String) : Option (Field α) :=
  s.fields.find? fun f => f.isRequired && !given.contains f.name

/-- Read the members of an object into a value, with a step for each of them. -/
def members (s : Shape α) :
    List UInt8 → Bool → α → List String → Scan (Except Fault α)
  | [], _, _, _ => Scan.failAhead (.endOfText .object)
  | _ :: bound, isFirst, value, given => do
    if ← Scan.nextKey isFirst then
      let name ← Scan.string
      match s.field? name with
      | none => do
        Scan.colon
        Scan.skipValue
        s.members bound false value given
      | some f =>
        if given.contains name then return .error (.duplicateField name)
        else do
          Scan.colon
          let change ← f.read
          s.members bound false (change value) (name :: given)
    else
      match s.missing? given with
      | some f => return .error (.missingField f.name)
      | none => return .ok value

/-- Read fields in their order from a list; `found` tells how many elements have been read. -/
def inOrder (s : Shape α) : List (Field α) → Nat → α → Scan (Except Fault α)
  | [], _, value => return .ok value
  | f :: rest, found, value => do
    if ← Scan.nextElement (found = 0) then
      let change ← f.read
      s.inOrder rest (found + 1) (change value)
    else if f.isRequired then return .error (.wrongLength found s.lengthExpectation)
    else s.inOrder rest found value

/-- Read a value of the shape. -/
def read (s : Shape α) : Scan α := do
  match ← Scan.valueStart with
  | '{' => do
    Scan.advance
    Scan.close Closing.object (← s.members (← get).rest true s.blank [])
  | '[' => do
    Scan.advance
    Scan.close Closing.list (← s.inOrder s.fields 0 s.blank)
  | _ => Scan.mismatch s.expectation

end Shape

end SceneBench.Json
