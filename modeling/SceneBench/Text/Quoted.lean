import SceneBench.Text.Visible

/-!
# Text quoted in messages

A message that shows text from outside quotes it, so that its end can be told and nothing in it is
taken for part of the message. Quotes and backslashes get a backslash, the usual control characters
their letter, and other characters that cannot be seen their number.
-/

namespace SceneBench

/-- How a character is written between quotes. -/
def quotedChar (c : Char) : List Char :=
  match c with
  | '\x00' => ['\\', '0']
  | '\t' => ['\\', 't']
  | '\r' => ['\\', 'r']
  | '\n' => ['\\', 'n']
  | '\\' => ['\\', '\\']
  | '"' => ['\\', '"']
  | c =>
    if isVisible c then [c]
    else ['\\', 'u', '{'] ++ Nat.toDigits 16 c.toNat ++ ['}']

/-- A text between quotes. -/
def quoted (text : String) : String :=
  String.ofList ('"' :: text.toList.flatMap quotedChar ++ ['"'])

end SceneBench
