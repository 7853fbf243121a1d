import SceneBench.Number.Text
import SceneBench.Text.Quoted

/-!
# What can be wrong with a document

A fault says what is wrong with a document and nothing about where. It is of one of three kinds: the
text is no document at all, the document is not of the expected shape, or the text ends too early.
-/

namespace SceneBench.Json

/-- What a text can end in the middle of. -/
inductive Part where
  | value
  | list
  | object
  | string
  deriving DecidableEq, Repr

/-- A number of a document. A number without point and exponent is kept whole as long as it fits in
64 bits, and everything else is a real number. -/
inductive Number where
  | natural (value : Nat)
  | negative (size : Nat)
  | real (value : Float)
  deriving Repr

/-- What stands where something else was expected. -/
inductive Found where
  | null
  | boolean (value : Bool)
  | number (value : Number)
  | string (value : String)
  | list
  | object
  deriving Repr

inductive Fault where
  | endOfText (inside : Part)
  | expectedValue
  | expectedWord
  | expectedColon
  | expectedListEnd
  | expectedObjectEnd
  | keyIsNoString
  | trailingComma
  | trailingText
  | badNumber
  | numberTooLarge
  | badEscape
  | unfinishedPair
  | loneSurrogate
  | controlCharacter
  | wrongType (found : Found) (expected : String)
  | wrongValue (found : Found) (expected : String)
  | wrongLength (length : Nat) (expected : String)
  | unknownVariant (name : String) (known : List String)
  | missingField (name : String)
  | duplicateField (name : String)
  deriving Repr

/-- The three kinds of faults. -/
inductive FaultKind where
  | malformed
  | mismatched
  | truncated
  deriving DecidableEq, Repr

def Part.text : Part → String
  | value => "a value"
  | list => "a list"
  | object => "an object"
  | string => "a string"

def Number.text : Number → String
  | natural n => s!"integer `{n}`"
  | negative n => s!"integer `-{n}`"
  | real x => s!"floating point `{messageText x}`"

def Found.text : Found → String
  | null => "null"
  | boolean value => s!"boolean `{value}`"
  | number value => value.text
  | string value => "string " ++ quoted value
  | list => "sequence"
  | object => "map"

namespace Fault

def kind : Fault → FaultKind
  | endOfText _ => .truncated
  | wrongType .. | wrongValue .. | wrongLength .. | unknownVariant .. | missingField _
  | duplicateField _ => .mismatched
  | _ => .malformed

/-- The names that were possible; two of them are told apart by an "or". -/
def oneOf : List String → String
  | [a, b] => s!"`{a}` or `{b}`"
  | names => "one of " ++ ", ".intercalate (names.map fun name => s!"`{name}`")

def message : Fault → String
  | endOfText inside => s!"EOF while parsing {inside.text}"
  | expectedValue => "expected value"
  | expectedWord => "expected ident"
  | expectedColon => "expected `:`"
  | expectedListEnd => "expected `,` or `]`"
  | expectedObjectEnd => "expected `,` or `\x7d`"
  | keyIsNoString => "key must be a string"
  | trailingComma => "trailing comma"
  | trailingText => "trailing characters"
  | badNumber => "invalid number"
  | numberTooLarge => "number out of range"
  | badEscape => "invalid escape"
  | unfinishedPair => "unexpected end of hex escape"
  | loneSurrogate => "lone leading surrogate in hex escape"
  | controlCharacter => "control character (\\u0000-\\u001F) found while parsing a string"
  | wrongType found expected => s!"invalid type: {found.text}, expected {expected}"
  | wrongValue found expected => s!"invalid value: {found.text}, expected {expected}"
  | wrongLength length expected => s!"invalid length {length}, expected {expected}"
  | unknownVariant name known => s!"unknown variant `{name}`, expected {oneOf known}"
  | missingField name => s!"missing field `{name}`"
  | duplicateField name => s!"duplicate field `{name}`"

end Fault

end SceneBench.Json
