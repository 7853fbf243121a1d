import SceneBench.Number.Text

/-!
# Documents that are written

A document is written in one of two ways: without any blanks, or over several lines, with every
element and every member on a line of its own and indented by its depth. Strings are escaped only
where they have to be.
-/

namespace SceneBench.Json

inductive Document where
  | null
  | natural (value : Nat)
  | scalar (value : Scalar)
  | string (value : String)
  | list (items : List Document)
  | object (members : List (String × Document))

namespace Document

/-- How a character is written in a string. -/
def escapedChar (c : Char) : List Char :=
  match c with
  | '"' => ['\\', '"']
  | '\\' => ['\\', '\\']
  | '\x08' => ['\\', 'b']
  | '\x0c' => ['\\', 'f']
  | '\n' => ['\\', 'n']
  | '\r' => ['\\', 'r']
  | '\t' => ['\\', 't']
  | c =>
    if c.toNat < 0x20 then
      ['\\', 'u', '0', '0', Nat.digitChar (c.toNat / 16), Nat.digitChar (c.toNat % 16)]
    else [c]

def stringText (value : String) : String :=
  String.ofList ('"' :: value.toList.flatMap escapedChar ++ ['"'])

/-- The text of a document that has no parts. -/
def simpleText : Document → String
  | natural value => toString value
  | scalar value => value.text .document
  | string value => stringText value
  | _ => "null"

mutual

/-- The text of a document without blanks. -/
def compact : Document → String
  | list items => "[" ++ ",".intercalate (compactItems items) ++ "]"
  | object members => "\x7b" ++ ",".intercalate (compactMembers members) ++ "\x7d"
  | d => d.simpleText

def compactItems : List Document → List String
  | [] => []
  | d :: rest => d.compact :: compactItems rest

def compactMembers : List (String × Document) → List String
  | [] => []
  | (name, d) :: rest => (stringText name ++ ":" ++ d.compact) :: compactMembers rest

end

/-- Lines between two brackets, indented one step further than the brackets. -/
def bracketed (opening closing : String) (depth : Nat) : List String → String
  | [] => opening ++ closing
  | lines =>
    let indent (depth : Nat) : String := String.ofList (List.replicate (2 * depth) ' ')
    let inner := indent (depth + 1)
    opening ++ "\n" ++ ",\n".intercalate (lines.map (inner ++ ·)) ++ "\n" ++ indent depth ++ closing

mutual

/-- The text of a document over several lines, from a given depth on. -/
def prettyFrom (depth : Nat) : Document → String
  | list items => bracketed "[" "]" depth (prettyItems (depth + 1) items)
  | object members => bracketed "\x7b" "\x7d" depth (prettyMembers (depth + 1) members)
  | d => d.simpleText

def prettyItems (depth : Nat) : List Document → List String
  | [] => []
  | d :: rest => d.prettyFrom depth :: prettyItems depth rest

def prettyMembers (depth : Nat) : List (String × Document) → List String
  | [] => []
  | (name, d) :: rest =>
    (stringText name ++ ": " ++ d.prettyFrom depth) :: prettyMembers depth rest

end

/-- The text of a document over several lines. -/
def pretty (d : Document) : String := d.prettyFrom 0

end Document

end SceneBench.Json
