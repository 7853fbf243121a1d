import SceneBench.Json.Number
import SceneBench.Proofs.Json.Scanning

/-!
# Numbers as they are written

A numeral is a number as it stands in a text: a sign, digits, and perhaps a fraction and an
exponent. The digits say what it is worth, if that is in range at all. Where a numeral ends and no
further digit follows, reading it and looking over it come to the same end; and nothing but numerals
is read.
-/

namespace SceneBench.Json

open Number (isDigit)

variable {c : Cursor} {rest : List UInt8}

/-! ## Where a value ends -/

/-- A value can end in front of a text: nothing comes next, or a blank, or what comes between or
behind the elements of brackets. -/
def Stops (rest : List UInt8) : Prop :=
  ∀ b ∈ rest.head?, Cursor.isBlank b ∨ b = 0x2C ∨ b = 0x5D ∨ b = 0x7D

theorem stops_nil : Stops [] := nofun

theorem stops_cons {b : UInt8} {s : List UInt8}
    (ends : Cursor.isBlank b ∨ b = 0x2C ∨ b = 0x5D ∨ b = 0x7D) : Stops (b :: s) := fun b' same => by
  cases same
  exact ends

/-- The bytes that can follow a value. -/
def followers : List UInt8 := [0x20, 0x09, 0x0A, 0x0D, 0x2C, 0x5D, 0x7D]

theorem Stops.mem_followers {b : UInt8} {s : List UInt8} (stops : Stops (b :: s)) :
    b ∈ followers := by
  have ends := stops b rfl
  simp only [Cursor.isBlank, Bool.or_eq_true, decide_eq_true_eq, or_assoc] at ends
  simpa only [followers, List.mem_cons, List.not_mem_nil, or_false] using ends

/-- What can be checked of all of them holds where a value can end. -/
theorem Stops.of_all {P : UInt8 → Prop} [DecidablePred P] {b : UInt8} {s : List UInt8}
    (stops : Stops (b :: s)) (all : followers.all (P ·) = true) : P b :=
  of_decide_eq_true (List.all_eq_true.mp all b stops.mem_followers)

/-- None of them goes on with a number. -/
theorem Stops.peek (stops : Stops rest) (at' : c.rest = rest) :
    (c.peek.map Char.isDigit).getD false = false ∧ c.peek ≠ some '.' ∧ c.peek ≠ some 'e' ∧
      c.peek ≠ some 'E' := by
  cases rest with
  | nil =>
      rw [Cursor.peek_of_nil at']
      decide
  | cons b s =>
      rw [Cursor.peek_of_cons at']
      apply stops.of_all
      rfl

theorem Stops.isDigit_eq_false {b : UInt8} {s : List UInt8} (stops : Stops (b :: s)) :
    isDigit b = false := by
  apply stops.of_all
  rfl

theorem Stops.last (stops : Stops rest) : ∀ b ∈ rest.head?, isDigit b = false := by
  cases rest with
  | nil => exact nofun
  | cons b s => exact fun b' same => by cases same; exact stops.isDigit_eq_false

theorem isDigit_charOf (b : UInt8) : (charOf b).isDigit = isDigit b := by
  have value : (charOf b).val.toNat = b.toNat := toNat_charOf b
  rw [Bool.eq_iff_iff]
  simp only [Char.isDigit, isDigit, Bool.and_eq_true, decide_eq_true_eq, ge_iff_le,
    UInt32.le_iff_toNat_le, UInt8.le_iff_toNat_le, value]
  rfl

/-! ## Numerals -/

/-- Digits, of which there is at least one. -/
structure Digits where
  bytes : List UInt8
  some' : bytes ≠ []
  digits : ∀ b ∈ bytes, isDigit b
  deriving DecidableEq

/-- The digit zero. -/
def Digits.zero : Digits := ⟨[0x30], List.cons_ne_nil _ _, List.forall_mem_singleton.mpr rfl⟩

structure Exponent where
  isCapital : Bool
  /-- The sign, if there is one, and whether it is a minus. -/
  sign : Option Bool
  digits : Digits
  deriving DecidableEq

/-- A number as it is written. -/
structure Numeral where
  isNegative : Bool
  whole : Digits
  /-- A zero in front is the only digit. -/
  leading : whole.bytes.head? = some 0x30 → whole.bytes = [0x30]
  fraction : Option Digits
  exponent : Option Exponent
  deriving DecidableEq

namespace Exponent

def signBytes : Option Bool → List UInt8
  | none => []
  | some false => [0x2B]
  | some true => [0x2D]

/-- What follows the letter. -/
def tail (e : Exponent) : List UInt8 := signBytes e.sign ++ e.digits.bytes

def bytes (e : Exponent) : List UInt8 := (if e.isCapital then 0x45 else 0x65) :: e.tail

def isMinus (e : Exponent) : Bool := e.sign.getD false

end Exponent

namespace Numeral

/-- The fraction from its point on. -/
def fractionBytes : Option Digits → List UInt8
  | none => []
  | some ds => 0x2E :: ds.bytes

def exponentBytes : Option Exponent → List UInt8
  | none => []
  | some e => e.bytes

/-- The numeral behind its sign. -/
def unsigned (n : Numeral) : List UInt8 :=
  n.whole.bytes ++ fractionBytes n.fraction ++ exponentBytes n.exponent

def bytes (n : Numeral) : List UInt8 := (if n.isNegative then [0x2D] else []) ++ n.unsigned

/-- The number zero. -/
def zero : Numeral := ⟨false, .zero, fun _ => rfl, none, none⟩

/-- The value of a real number, unless it is out of range. -/
def real? (isNegative : Bool) (significand : Nat) (exponent : Int) : Option Number :=
  (Number.real? significand exponent).map fun x => .real (if isNegative then -x else x)

/-- The value of a number with an exponent, given what the digits before it come to. -/
def scaled? (isNegative : Bool) (significand : Nat) (before : Int) (e : Exponent) :
    Option Number :=
  let (exponent, added) := Number.accumulate (2 ^ 31) 0 e.digits.bytes
  if added < e.digits.bytes.length && significand ≠ 0 && !e.isMinus then none
  else if added < e.digits.bytes.length then some (.real (if isNegative then -0.0 else 0.0))
  else real? isNegative significand (if e.isMinus then before - exponent else before + exponent)

/-- The value of a real number whose exponent may be there or not. -/
def ended? (isNegative : Bool) (significand : Nat) (before : Int) :
    Option Exponent → Option Number
  | none => real? isNegative significand before
  | some e => scaled? isNegative significand before e

/-- The value of a number with a fraction. -/
def fractional? (isNegative : Bool) (significand dropped : Nat) (ds : Digits)
    (exponent : Option Exponent) : Option Number :=
  let (significand, added) := Number.accumulate Number.wholeLimit significand ds.bytes
  ended? isNegative significand (dropped - added) exponent

/-- The value of a number, given what the digits before its point come to. -/
def worth? (n : Numeral) (significand dropped : Nat) : Option Number :=
  match n.fraction, n.exponent with
  | some ds, exponent => fractional? n.isNegative significand dropped ds exponent
  | none, some e => scaled? n.isNegative significand dropped e
  | none, none =>
    if dropped = 0 then some (Number.whole n.isNegative significand)
    else real? n.isNegative significand dropped

/-- What a numeral is worth, unless that is out of range. -/
def value? (n : Numeral) : Option Number :=
  let (significand, added) := Number.accumulate Number.wholeLimit 0 n.whole.bytes
  n.worth? significand (n.whole.bytes.length - added)

end Numeral

/-! ## Digits that are read -/

namespace Scan

theorem yields_digits {ds : List UInt8} (at' : c.rest = ds ++ rest) (all : ∀ b ∈ ds, isDigit b)
    (last : ∀ b ∈ rest.head?, isDigit b = false) : digits.Yields c (some ds) rest := by
  apply bind_get
  rw [at', takeWhile_of_last all last]
  exact bind_skip at' fun c' at'' => yields_pure ds at''

theorem yields_makeReal (isNegative : Bool) (significand : Nat) (exponent : Int)
    (at' : c.rest = rest) :
    (makeReal isNegative significand exponent).Yields c
      (Numeral.real? isNegative significand exponent) rest := by
  rw [makeReal, Numeral.real?]
  cases Number.real? significand exponent with
  | none => exact yields_failHere _
  | some x => exact yields_pure _ at'

/-- Of digits the first is seen. -/
theorem peek_digits (ds : Digits) (at' : c.rest = ds.bytes ++ rest) :
    ∃ ch, c.peek = some ch ∧ ch.isDigit = true := by
  obtain ⟨bytes, some', all⟩ := ds
  cases bytes with
  | nil => exact absurd rfl some'
  | cons d more =>
      refine ⟨charOf d, Cursor.peek_of_cons at', ?_⟩
      rw [isDigit_charOf]
      exact all d List.mem_cons_self

theorem peek_of_last (at' : c.rest = rest) (last : ∀ b ∈ rest.head?, isDigit b = false) :
    (c.peek.map Char.isDigit).getD false = false := by
  cases rest with
  | nil => rw [Cursor.peek_of_nil at']; rfl
  | cons b s =>
      rw [Cursor.peek_of_cons at', Option.map_some, Option.getD_some, isDigit_charOf]
      exact last b rfl

/-! ## Exponents and fractions -/

theorem yields_exponentSign (e : Exponent) (at' : c.rest = e.tail ++ rest) :
    exponentSign.Yields c (some e.isMinus) (e.digits.bytes ++ rest) := by
  obtain ⟨isCapital, sign, ds⟩ := e
  apply bind_get
  cases sign with
  | none =>
      obtain ⟨ch, seen, digit⟩ := peek_digits ds at'
      rw [seen]
      split
      case h_3 => exact yields_pure false at'
      all_goals
        cases ‹some ch = _›
        cases digit
  | some isMinus =>
      cases isMinus with
      | false | true =>
          rw [Cursor.peek_of_cons at']
          exact bind_advance at' fun c' at'' => yields_pure _ at''

theorem yields_exponentPart (isNegative : Bool) (significand : Nat) (before : Int) (e : Exponent)
    (at' : c.rest = e.bytes ++ rest) (stops : Stops rest) :
    (exponentPart isNegative significand before).Yields c
      (Numeral.scaled? isNegative significand before e) rest := by
  rw [exponentPart]
  apply bind_advance at'
  intro c₁ at₁
  apply (yields_exponentSign e at₁).then
  intro c₂ at₂
  apply bind_get
  obtain ⟨ch, seen, digit⟩ := peek_digits e.digits at₂
  simp only [seen, digit, Bool.not_true, Bool.false_eq_true, if_false]
  apply bind_get
  rw [at₂, takeWhile_of_last e.digits.digits stops.last, Numeral.scaled?]
  rcases Number.accumulate (2 ^ 31) 0 e.digits.bytes with ⟨exponent, added⟩
  dsimp only
  split
  · exact ⟨_, rfl⟩
  · apply bind_skip at₂
    intro c₃ at₃
    split
    · exact yields_pure _ at₃
    · exact yields_makeReal _ _ _ at₃

theorem peek_exponent (e : Exponent) (at' : c.rest = e.bytes ++ rest) :
    c.peek = some 'e' ∨ c.peek = some 'E' := by
  rw [Cursor.peek_of_cons at']
  cases e.isCapital with
  | false => exact .inl rfl
  | true => exact .inr rfl

theorem last_exponent (exponent : Option Exponent) (stops : Stops rest) :
    ∀ b ∈ (Numeral.exponentBytes exponent ++ rest).head?, isDigit b = false := by
  cases exponent with
  | none => exact stops.last
  | some e =>
      intro b same
      cases same
      cases e.isCapital <;> rfl

theorem last_fraction (n : Numeral) (stops : Stops rest) :
    ∀ b ∈ (Numeral.fractionBytes n.fraction ++
      (Numeral.exponentBytes n.exponent ++ rest)).head?, isDigit b = false := by
  cases n.fraction with
  | none => exact last_exponent n.exponent stops
  | some ds =>
      intro b same
      cases same
      rfl

theorem yields_realEnd (isNegative : Bool) (significand : Nat) (before : Int)
    (exponent : Option Exponent) (at' : c.rest = Numeral.exponentBytes exponent ++ rest)
    (stops : Stops rest) :
    (realEnd isNegative significand before).Yields c
      (Numeral.ended? isNegative significand before exponent) rest := by
  apply bind_get
  cases exponent with
  | none =>
      obtain ⟨-, -, small, capital⟩ := stops.peek at'
      split
      case h_1 seen => exact absurd seen small
      case h_2 seen => exact absurd seen capital
      case h_3 => exact yields_makeReal _ _ _ at'
  | some e =>
      have further := yields_exponentPart isNegative significand before e at' stops
      rcases peek_exponent e at' with seen | seen
      · rw [seen]
        exact further
      · rw [seen]
        exact further

theorem yields_fractionPart (isNegative : Bool) (significand dropped : Nat) (ds : Digits)
    (exponent : Option Exponent)
    (at' : c.rest = 0x2E :: (ds.bytes ++ (Numeral.exponentBytes exponent ++ rest)))
    (stops : Stops rest) :
    (fractionPart isNegative significand dropped).Yields c
      (Numeral.fractional? isNegative significand dropped ds exponent) rest := by
  rw [fractionPart]
  apply bind_advance at'
  intro c₁ at₁
  apply (yields_digits at₁ ds.digits (last_exponent exponent stops)).then
  intro c₂ at₂
  rw [if_neg (by simpa using ds.some'), Numeral.fractional?]
  rcases Number.accumulate Number.wholeLimit significand ds.bytes with ⟨significand', added⟩
  exact yields_realEnd isNegative significand' (dropped - added) exponent at₂ stops

theorem peek_ne_point (exponent : Option Exponent)
    (at' : c.rest = Numeral.exponentBytes exponent ++ rest) (stops : Stops rest) :
    c.peek ≠ some '.' := by
  cases exponent with
  | none => exact (stops.peek at').2.1
  | some e =>
      rcases peek_exponent e at' with seen | seen
      · rw [seen]
        decide
      · rw [seen]
        decide

/-- What is read behind the digits before the point. -/
def numberEnd (isNegative : Bool) (significand dropped : Nat) : Scan Number := do
  match (← get).peek with
  | some '.' => fractionPart isNegative significand dropped
  | some 'e' | some 'E' => exponentPart isNegative significand dropped
  | _ =>
    if dropped = 0 then return Number.whole isNegative significand
    makeReal isNegative significand dropped

theorem yields_numberEnd (n : Numeral) (significand dropped : Nat)
    (at' : c.rest =
      Numeral.fractionBytes n.fraction ++ (Numeral.exponentBytes n.exponent ++ rest))
    (stops : Stops rest) :
    (numberEnd n.isNegative significand dropped).Yields c (n.worth? significand dropped) rest := by
  apply bind_get
  rw [Numeral.worth?]
  cases fraction : n.fraction with
  | some ds =>
      rw [fraction] at at'
      have seen : c.peek = some '.' := Cursor.peek_of_cons at'
      rw [seen]
      exact yields_fractionPart _ _ _ ds n.exponent at' stops
  | none =>
      rw [fraction] at at'
      cases exponent : n.exponent with
      | some e =>
          rw [exponent] at at'
          have further := yields_exponentPart n.isNegative significand dropped e at' stops
          rcases peek_exponent e at' with seen | seen
          · rw [seen]
            exact further
          · rw [seen]
            exact further
      | none =>
          rw [exponent] at at'
          obtain ⟨-, point, small, capital⟩ := stops.peek at'
          split
          case h_1 seen => exact absurd seen point
          case h_2 seen => exact absurd seen small
          case h_3 seen => exact absurd seen capital
          case h_4 =>
            dsimp only
            split
            · exact yields_pure _ at'
            · exact yields_makeReal _ _ _ at'

/-- A zero is all there is before the point. -/
theorem whole_of_zero (n : Numeral) {s : List UInt8} (at' : c.rest = n.whole.bytes ++ s)
    (seen : c.peek = some '0') : n.whole.bytes = [0x30] := by
  apply n.leading
  obtain ⟨d, more, split⟩ := List.exists_cons_of_ne_nil n.whole.some'
  rw [split] at at' ⊢
  rw [Cursor.peek_of_cons at', Option.some.injEq] at seen
  have zero : charOf d = charOf 0x30 := seen
  rw [List.head?_cons, charOf_inj zero]

/-- A numeral is read, and comes to what it is worth. -/
theorem yields_number (n : Numeral) (at' : c.rest = n.unsigned ++ rest) (stops : Stops rest) :
    (number n.isNegative).Yields c n.value? rest := by
  rw [Numeral.unsigned, List.append_assoc, List.append_assoc] at at'
  have last := last_fraction n stops
  obtain ⟨ch, seen, digit⟩ := peek_digits n.whole at'
  rw [number]
  apply bind_get
  simp only [seen, digit, Bool.not_true, Bool.false_eq_true, if_false]
  by_cases zero : ch = '0'
  · rw [if_pos zero]
    have only := whole_of_zero n at' (seen.trans (congrArg some zero))
    rw [only] at at'
    apply bind_advance at'
    intro c₁ at₁
    apply bind_get
    rw [if_neg (by simp [peek_of_last at₁ last])]
    have at₁' : c₁.rest = [] ++ _ := at₁
    apply (yields_digits at₁' nofun last).then
    intro c₂ at₂
    have same : n.value? = n.worth? 0 0 := by
      rw [Numeral.value?, only]
      rfl
    rw [same]
    exact yields_numberEnd n 0 0 at₂ stops
  · rw [if_neg zero]
    apply (yields_digits at' n.whole.digits last).then
    exact fun c₁ at₁ => yields_numberEnd n _ _ at₁ stops

/-! ## Looking over -/

theorem yields_skipExponent (e : Exponent) (at' : c.rest = e.bytes ++ rest) (stops : Stops rest) :
    skipExponent.Yields c (some ()) rest := by
  rw [skipExponent]
  apply bind_advance at'
  intro c₁ at₁
  apply (yields_exponentSign e at₁).then
  intro c₂ at₂
  apply bind_get
  obtain ⟨ch, seen, digit⟩ := peek_digits e.digits at₂
  rw [seen, Option.map_some, Option.getD_some, if_pos digit]
  apply (yields_digits at₂ e.digits.digits stops.last).then
  exact fun c₃ at₃ => yields_pure () at₃

/-- What is looked over behind the digits and the fraction. -/
def skipEnd : Scan Unit := do
  match (← get).peek with
  | some 'e' | some 'E' => skipExponent
  | _ => return ()

/-- What is looked over behind the digits before the point. -/
def skipFraction : Scan Unit := do
  if (← get).peek = some '.' then
    advance
    if (← digits).isEmpty then failAhead .badNumber
  skipEnd

theorem yields_skipEnd (exponent : Option Exponent)
    (at' : c.rest = Numeral.exponentBytes exponent ++ rest) (stops : Stops rest) :
    skipEnd.Yields c (some ()) rest := by
  apply bind_get
  cases exponent with
  | some e =>
      have further := yields_skipExponent e at' stops
      rcases peek_exponent e at' with seen | seen
      · rw [seen]
        exact further
      · rw [seen]
        exact further
  | none =>
      obtain ⟨-, -, small, capital⟩ := stops.peek at'
      split
      case h_1 seen => exact absurd seen small
      case h_2 seen => exact absurd seen capital
      case h_3 => exact yields_pure () at'

theorem yields_skipFraction (n : Numeral)
    (at' : c.rest =
      Numeral.fractionBytes n.fraction ++ (Numeral.exponentBytes n.exponent ++ rest))
    (stops : Stops rest) : skipFraction.Yields c (some ()) rest := by
  apply bind_get
  cases fraction : n.fraction with
  | some ds =>
      rw [fraction] at at'
      have seen : c.peek = some '.' := Cursor.peek_of_cons at'
      rw [if_pos seen]
      apply bind_advance at'
      intro c₁ at₁
      apply (yields_digits at₁ ds.digits (last_exponent n.exponent stops)).then
      intro c₂ at₂
      rw [if_neg (by simpa using ds.some')]
      exact yields_skipEnd n.exponent at₂ stops
  | none =>
      rw [fraction] at at'
      rw [if_neg (peek_ne_point n.exponent at' stops)]
      exact yields_skipEnd n.exponent at' stops

theorem yields_skipNumber (n : Numeral) (at' : c.rest = n.unsigned ++ rest) (stops : Stops rest) :
    skipNumber.Yields c (some ()) rest := by
  rw [Numeral.unsigned, List.append_assoc, List.append_assoc] at at'
  have last := last_fraction n stops
  obtain ⟨ch, seen, digit⟩ := peek_digits n.whole at'
  rw [skipNumber]
  apply bind_get
  simp only [seen, digit, Option.map_some, Option.getD_some, Bool.not_true, Bool.false_eq_true,
    if_false, Option.some.injEq]
  by_cases zero : ch = '0'
  · rw [if_pos zero]
    have only := whole_of_zero n at' (seen.trans (congrArg some zero))
    rw [only] at at'
    apply bind_advance at'
    intro c₁ at₁
    apply bind_get
    rw [if_neg (by simp [peek_of_last at₁ last])]
    have at₁' : c₁.rest = [] ++ _ := at₁
    apply (yields_digits at₁' nofun last).then
    exact fun c₂ at₂ => yields_skipFraction n at₂ stops
  · rw [if_neg zero]
    apply (yields_digits at' n.whole.digits last).then
    exact fun c₁ at₁ => yields_skipFraction n at₁ stops

end Scan

end SceneBench.Json
