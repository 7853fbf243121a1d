/-!
# UTF-8, with a mark where it is broken

Text is read from bytes whatever they are. A byte that cannot continue what came before it ends
that piece with one replacement mark and is looked at afresh, so every longest broken piece becomes
one mark and no good character next to it is lost. Encoded text has no broken piece, and is read
back as it was.
-/

namespace SceneBench.Utf8

/-- A character of which the first bytes are known: the range of the next byte, how many bytes
follow after that, and the bits so far. -/
structure Pending where
  least : UInt8
  greatest : UInt8
  further : Nat
  bits : Nat
  deriving DecidableEq, Repr

/-- What a byte means where a character begins. -/
inductive Lead where
  | character (c : Char)
  | beginning (pending : Pending)
  | broken
  deriving DecidableEq, Repr

/-- The narrower ranges after `E0`, `ED`, `F0` and `F4` keep out long forms, surrogates and what
lies beyond the last character. -/
def lead (b : UInt8) : Lead :=
  if b < 0x80 then .character (Char.ofNat b.toNat)
  else if b < 0xC2 then .broken
  else if b < 0xE0 then .beginning ⟨0x80, 0xBF, 0, b.toNat - 0xC0⟩
  else if b < 0xF0 then
    .beginning ⟨if b = 0xE0 then 0xA0 else 0x80, if b = 0xED then 0x9F else 0xBF, 1, b.toNat - 0xE0⟩
  else if b < 0xF5 then
    .beginning ⟨if b = 0xF0 then 0x90 else 0x80, if b = 0xF4 then 0x8F else 0xBF, 2, b.toNat - 0xF0⟩
  else .broken

def replacement : Char := '\uFFFD'

/-- The characters so far, the latest first, and the one that has begun. -/
structure Decoder where
  latest : List Char := []
  pending : Option Pending := none

namespace Decoder

/-- Read a byte where a character begins. -/
def fresh (latest : List Char) (b : UInt8) : Decoder :=
  match lead b with
  | .character c => ⟨c :: latest, none⟩
  | .beginning pending => ⟨latest, some pending⟩
  | .broken => ⟨replacement :: latest, none⟩

def step (d : Decoder) (b : UInt8) : Decoder :=
  match d.pending with
  | none => fresh d.latest b
  | some p =>
    if p.least ≤ b ∧ b ≤ p.greatest then
      let bits := p.bits * 64 + (b.toNat - 0x80)
      match p.further with
      | 0 => ⟨Char.ofNat bits :: d.latest, none⟩
      | further + 1 => ⟨d.latest, some ⟨0x80, 0xBF, further, bits⟩⟩
    else fresh (replacement :: d.latest) b

/-- All characters; one that has only begun is broken. -/
def finish (d : Decoder) : List Char :=
  (match d.pending with
    | none => d.latest
    | some _ => replacement :: d.latest).reverse

end Decoder

/-- The text of a run of bytes. -/
def decodeLossy (bytes : List UInt8) : String :=
  String.ofList (bytes.foldl Decoder.step {}).finish

/-- The bytes of a text. -/
def encode (text : String) : List UInt8 := text.toUTF8.toList

end SceneBench.Utf8
