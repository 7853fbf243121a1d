import SceneBench.Proofs.Json.Spelling

/-!
# What is read of a text

Whatever answers are found, a text that is read begins with what the answer was read from: a
numeral, a literal, or a value of any depth that was looked over. This is the other direction of the
scans that come to the end of what is spelled. Nothing is said here of the answers, and no text is
promised to have one.
-/

namespace SceneBench.Json

variable {α β : Type} {c : Cursor} {s t : List UInt8}

theorem Cursor.exists_of_peek {ch : Char} (seen : c.peek = some ch) :
    ∃ b s, c.rest = b :: s ∧ charOf b = ch := by
  obtain ⟨b, first, is⟩ := Option.map_eq_some_iff.mp seen
  obtain ⟨s, at'⟩ := List.head?_eq_some_iff.mp first
  exact ⟨b, s, at', is⟩

theorem Cursor.rest_of_peek (b : UInt8) (seen : c.peek = some (charOf b)) :
    c.rest = b :: c.rest.tail := by
  obtain ⟨b', s, at', is⟩ := exists_of_peek seen
  rw [at', charOf_inj is, List.tail_cons]

theorem Cursor.rest_of_first {ch : Char} (b : UInt8) (seen : c.peek = some ch)
    (is : ch = charOf b) : c.rest = b :: c.rest.tail :=
  rest_of_peek b (seen.trans (congrArg some is))

namespace Scan

/-- If a scan ends with an answer, the answer and the place that is reached are of a kind. -/
def Leaves (scan : Scan α) (c : Cursor) (kind : α → Cursor → Prop) : Prop :=
  match scan.run c with
  | .ok (a, c') => kind a c'
  | .error _ => True

variable {scan : Scan α} {next : α → Scan β} {kind : α → Cursor → Prop} {kind' : β → Cursor → Prop}

theorem Leaves.of_ok {a : α} {c' : Cursor} (leaves : scan.Leaves c kind)
    (ok : scan.run c = .ok (a, c')) : kind a c' := by
  rwa [Leaves, ok] at leaves

theorem leaves_pure {a : α} (is : kind a c) : (pure a : Scan α).Leaves c kind := is

theorem Fails.leaves (fails : scan.Fails) : scan.Leaves c kind := by
  obtain ⟨failure, run⟩ := fails c []
  rw [Leaves, run]
  trivial

theorem leaves_failHere (fault : Fault) : (failHere fault : Scan α).Leaves c kind := trivial

theorem leaves_failAhead (fault : Fault) : (failAhead fault : Scan α).Leaves c kind := trivial

/-- What is left is left by what comes last. -/
theorem Leaves.bind (leaves : scan.Leaves c kind)
    (then' : ∀ a c', kind a c' → (next a).Leaves c' kind') : (scan >>= next).Leaves c kind' := by
  rw [Leaves, run_bind]
  rw [Leaves] at leaves
  cases run : scan.run c with
  | error failure => trivial
  | ok reached =>
      rw [run] at leaves
      exact then' _ _ leaves

theorem Leaves.mono {wider : α → Cursor → Prop} (leaves : scan.Leaves c kind)
    (imp : ∀ a c', kind a c' → wider a c') : scan.Leaves c wider := by
  rw [Leaves] at leaves ⊢
  cases run : scan.run c with
  | error failure => trivial
  | ok reached =>
      rw [run] at leaves
      exact imp _ _ leaves

/-! ## Single bytes -/

theorem leaves_get {next : Cursor → Scan β} (then' : (next c).Leaves c kind') :
    (get >>= next : Scan β).Leaves c kind' := then'

theorem leaves_advance (c : Cursor) : advance.Leaves c fun _ c' => c'.rest = c.rest.tail :=
  c.rest_next

theorem leaves_peek (c : Cursor) :
    peek.Leaves c fun found c' => Blanks c.rest c'.rest ∧ found = c'.peek := by
  refine ⟨?_, rfl⟩
  rw [Cursor.rest_skipBlanks]
  exact Blanks.of_dropWhile _

/-- What is taken off the front of the text is followed by what is left. -/
theorem leaves_skip {found : List UInt8} {next : Unit → Scan β} (front : found <+: c.rest)
    (then' : ∀ c', c.rest = found ++ c'.rest → (next ()).Leaves c' kind') :
    ((modify fun c' => c'.skip found.length : Scan Unit) >>= next).Leaves c kind' := by
  apply then' (c.skip found.length)
  rw [Cursor.rest_skip]
  exact (List.prefix_iff_eq_append.mp front).symm

theorem leaves_word (bytes : List UInt8) :
    (word (bytes.map charOf)).Leaves c fun _ c' => c.rest = bytes ++ c'.rest := by
  induction bytes generalizing c with
  | nil => exact leaves_pure rfl
  | cons b bytes ih =>
      rw [List.map_cons, word]
      apply leaves_get
      split
      case h_1 => exact leaves_failHere _
      case h_2 ch seen =>
        apply (leaves_advance c).bind
        intro _ c₁ at₁
        split
        case isTrue same =>
          subst same
          apply ih.mono
          intro _ c₂ split
          rw [c.rest_of_peek b seen, ← at₁, split, List.cons_append]
        case isFalse => exact leaves_failHere _

/-! ## Numerals -/

theorem exists_digit {ch : Char} (seen : c.peek = some ch) (digit : ch.isDigit = true) :
    ∃ d s, c.rest = d :: s ∧ charOf d = ch ∧ Number.isDigit d := by
  obtain ⟨d, s, at', is⟩ := Cursor.exists_of_peek seen
  exact ⟨d, s, at', is, (isDigit_charOf d).symm.trans (is ▸ digit)⟩

theorem leaves_digits (c : Cursor) :
    digits.Leaves c fun ds c' => ds = c.rest.takeWhile Number.isDigit ∧ c.rest = ds ++ c'.rest := by
  apply leaves_get
  apply leaves_skip (List.takeWhile_prefix _)
  exact fun c' split => leaves_pure ⟨rfl, split⟩

/-- Digits that are taken from a text, of which there is one. -/
theorem exists_digits {s : List UInt8} (some' : s.takeWhile Number.isDigit ≠ []) :
    ∃ ds : Digits, ds.bytes = s.takeWhile Number.isDigit :=
  have all := List.all_takeWhile (p := Number.isDigit) (l := s)
  ⟨⟨_, some', List.all_eq_true.mp all⟩, rfl⟩

theorem leaves_exponentSign (c : Cursor) :
    exponentSign.Leaves c fun _ c' => ∃ sign, c.rest = Exponent.signBytes sign ++ c'.rest := by
  apply leaves_get
  split
  case h_1 seen =>
    apply (leaves_advance c).bind
    intro _ c₁ at₁
    refine leaves_pure ⟨some false, ?_⟩
    rw [at₁]
    exact c.rest_of_peek 0x2B seen
  case h_2 seen =>
    apply (leaves_advance c).bind
    intro _ c₁ at₁
    refine leaves_pure ⟨some true, ?_⟩
    rw [at₁]
    exact c.rest_of_peek 0x2D seen
  case h_3 => exact leaves_pure ⟨none, rfl⟩

theorem leaves_makeReal (isNegative : Bool) (significand : Nat) (exponent : Int) :
    (makeReal isNegative significand exponent).Leaves c fun _ c' => c' = c := by
  rw [makeReal]
  split
  · exact leaves_pure rfl
  · exact leaves_failHere _

/-- A text has an exponent in front. -/
def ExponentBefore (s t : List UInt8) : Prop := ∃ e : Exponent, s = e.bytes ++ t

theorem exponentBefore {sign : Option Bool} {ch : Char} {c₁ : Cursor}
    (letter : c.peek = some 'e' ∨ c.peek = some 'E')
    (tail : c.rest.tail = Exponent.signBytes sign ++ c₁.rest) (seen : c₁.peek = some ch)
    (digit : ch.isDigit = true) (split : c₁.rest = c₁.rest.takeWhile Number.isDigit ++ t) :
    ExponentBefore c.rest t := by
  obtain ⟨d, s, at₁, -, isDigit⟩ := exists_digit seen digit
  have some' : c₁.rest.takeWhile Number.isDigit ≠ [] := by
    rw [at₁, List.takeWhile_cons_of_pos isDigit]
    exact List.cons_ne_nil _ _
  obtain ⟨ds, same⟩ := exists_digits some'
  rw [split, ← same, ← List.append_assoc] at tail
  rcases letter with small | capital
  · refine ⟨⟨false, sign, ds⟩, ?_⟩
    rw [c.rest_of_peek 0x65 small, tail]
    rfl
  · refine ⟨⟨true, sign, ds⟩, ?_⟩
    rw [c.rest_of_peek 0x45 capital, tail]
    rfl

theorem leaves_exponentPart (isNegative : Bool) (significand : Nat) (before : Int)
    (letter : c.peek = some 'e' ∨ c.peek = some 'E') :
    (exponentPart isNegative significand before).Leaves c fun _ c' =>
      ExponentBefore c.rest c'.rest := by
  rw [exponentPart]
  apply (leaves_advance c).bind
  intro _ c₁ at₁
  apply (leaves_exponentSign c₁).bind
  rintro isMinus c₂ ⟨sign, at₂⟩
  apply leaves_get
  split
  case h_1 => exact leaves_failHere _
  case h_2 ch seen =>
    split
    case isTrue => exact (fails_bind _ fun _ => fails_failHere _).leaves
    case isFalse digit =>
      have digit : ch.isDigit = true := by simpa using digit
      apply leaves_get
      rcases Number.accumulate (2 ^ 31) 0 (c₂.rest.takeWhile Number.isDigit) with ⟨exponent, added⟩
      dsimp only
      split
      · exact (fails_bind _ fun _ => fails_failHere _).leaves
      · apply leaves_skip (List.takeWhile_prefix _)
        intro c₃ at₃
        have before' := exponentBefore letter (at₁ ▸ at₂) seen digit at₃
        split
        · exact leaves_pure before'
        · apply (leaves_makeReal _ _ _).mono
          rintro _ _ rfl
          exact before'

theorem leaves_skipExponent (letter : c.peek = some 'e' ∨ c.peek = some 'E') :
    skipExponent.Leaves c fun _ c' => ExponentBefore c.rest c'.rest := by
  rw [skipExponent]
  apply (leaves_advance c).bind
  intro _ c₁ at₁
  apply (leaves_exponentSign c₁).bind
  rintro isMinus c₂ ⟨sign, at₂⟩
  apply leaves_get
  split
  case isTrue digit =>
    cases seen : c₂.peek with
    | none =>
        rw [seen] at digit
        cases digit
    | some ch =>
        rw [seen] at digit
        apply (leaves_digits c₂).bind
        rintro ds c₃ ⟨rfl, at₃⟩
        exact leaves_pure (exponentBefore letter (at₁ ▸ at₂) seen digit at₃)
  case isFalse => exact (fails_bind _ fun _ => fails_failHere _).leaves

/-- A text has what comes behind the digits before the point in front, a fraction and an exponent or
neither. -/
def EndBefore (s t : List UInt8) : Prop :=
  ∃ fraction exponent, s = Numeral.fractionBytes fraction ++ (Numeral.exponentBytes exponent ++ t)

theorem ExponentBefore.endBefore (before : ExponentBefore s t) : EndBefore s t := by
  obtain ⟨e, split⟩ := before
  exact ⟨none, some e, split⟩

theorem leaves_realEnd (isNegative : Bool) (significand : Nat) (before : Int) :
    (realEnd isNegative significand before).Leaves c fun _ c' =>
      ∃ exponent, c.rest = Numeral.exponentBytes exponent ++ c'.rest := by
  apply leaves_get
  split
  case h_1 seen =>
    apply (leaves_exponentPart _ _ _ (.inl seen)).mono
    exact fun _ _ ⟨e, split⟩ => ⟨some e, split⟩
  case h_2 seen =>
    apply (leaves_exponentPart _ _ _ (.inr seen)).mono
    exact fun _ _ ⟨e, split⟩ => ⟨some e, split⟩
  case h_3 =>
    apply (leaves_makeReal _ _ _).mono
    rintro _ _ rfl
    exact ⟨none, rfl⟩

/-- Behind a point there are digits. -/
theorem endBefore_of_point {c₁ : Cursor} {exponent : Option Exponent} (seen : c.peek = some '.')
    (at₁ : c₁.rest = c.rest.tail) (some' : c₁.rest.takeWhile Number.isDigit ≠ [])
    (split : c₁.rest = c₁.rest.takeWhile Number.isDigit ++ (Numeral.exponentBytes exponent ++ t)) :
    EndBefore c.rest t := by
  obtain ⟨ds, same⟩ := exists_digits some'
  refine ⟨some ds, exponent, ?_⟩
  rw [← same] at split
  rw [c.rest_of_peek 0x2E seen, ← at₁, split]
  rfl

theorem leaves_fractionPart (isNegative : Bool) (significand dropped : Nat)
    (seen : c.peek = some '.') :
    (fractionPart isNegative significand dropped).Leaves c
      fun _ c' => EndBefore c.rest c'.rest := by
  rw [fractionPart]
  apply (leaves_advance c).bind
  intro _ c₁ at₁
  apply (leaves_digits c₁).bind
  rintro ds c₂ ⟨rfl, at₂⟩
  split
  case isTrue => exact (fails_bind _ fun _ => fails_failAhead _).leaves
  case isFalse some' =>
    apply (leaves_realEnd _ _ _).mono
    rintro _ c₃ ⟨exponent, at₃⟩
    exact endBefore_of_point seen at₁ (by simpa using some') (at₃ ▸ at₂)

theorem leaves_numberEnd (isNegative : Bool) (significand dropped : Nat) :
    (numberEnd isNegative significand dropped).Leaves c fun _ c' => EndBefore c.rest c'.rest := by
  apply leaves_get
  split
  case h_1 seen => exact leaves_fractionPart _ _ _ seen
  case h_2 seen =>
    exact (leaves_exponentPart _ _ _ (.inl seen)).mono fun _ _ before => before.endBefore
  case h_3 seen =>
    exact (leaves_exponentPart _ _ _ (.inr seen)).mono fun _ _ before => before.endBefore
  case h_4 =>
    split
    · exact leaves_pure ⟨none, none, rfl⟩
    · apply (leaves_makeReal _ _ _).mono
      rintro _ _ rfl
      exact ⟨none, none, rfl⟩

theorem leaves_skipEnd (c : Cursor) :
    skipEnd.Leaves c
      fun _ c' => ∃ exponent, c.rest = Numeral.exponentBytes exponent ++ c'.rest := by
  apply leaves_get
  split
  case h_1 seen =>
    apply (leaves_skipExponent (.inl seen)).mono
    exact fun _ _ ⟨e, split⟩ => ⟨some e, split⟩
  case h_2 seen =>
    apply (leaves_skipExponent (.inr seen)).mono
    exact fun _ _ ⟨e, split⟩ => ⟨some e, split⟩
  case h_3 => exact leaves_pure ⟨none, rfl⟩

theorem leaves_skipFraction (c : Cursor) :
    skipFraction.Leaves c fun _ c' => EndBefore c.rest c'.rest := by
  apply leaves_get
  split
  case isTrue seen =>
    apply (leaves_advance c).bind
    intro _ c₁ at₁
    apply (leaves_digits c₁).bind
    rintro ds c₂ ⟨rfl, at₂⟩
    split
    case isTrue => trivial
    case isFalse some' =>
      apply (leaves_skipEnd c₂).mono
      rintro _ c₃ ⟨exponent, at₃⟩
      exact endBefore_of_point seen at₁ (by simpa using some') (at₃ ▸ at₂)
  case isFalse =>
    apply (leaves_skipEnd c).mono
    exact fun _ _ ⟨exponent, split⟩ => ⟨none, exponent, split⟩

/-- A text has a numeral behind its sign in front. -/
def NumeralBefore (isNegative : Bool) (s t : List UInt8) : Prop :=
  ∃ n : Numeral, n.isNegative = isNegative ∧ s = n.unsigned ++ t

theorem numeralBefore {isNegative : Bool} (ds : Digits)
    (leading : ds.bytes.head? = some 0x30 → ds.bytes = [0x30]) {u : List UInt8}
    (split : s = ds.bytes ++ u) (end' : EndBefore u t) : NumeralBefore isNegative s t := by
  obtain ⟨fraction, exponent, rfl⟩ := end'
  refine ⟨⟨isNegative, ds, leading, fraction, exponent⟩, rfl, ?_⟩
  rw [split, Numeral.unsigned, List.append_assoc, List.append_assoc]

/-- A zero in front is not followed by a digit. -/
theorem numeralBefore_of_zero {isNegative : Bool} (seen : c.peek = some '0')
    (end' : EndBefore c.rest.tail t) : NumeralBefore isNegative c.rest t :=
  numeralBefore .zero (fun _ => rfl) (c.rest_of_peek 0x30 seen) end'

theorem numeralBefore_of_digit {isNegative : Bool} {ch : Char} {u : List UInt8}
    (seen : c.peek = some ch) (digit : ch.isDigit = true) (other : ch ≠ '0')
    (split : c.rest = c.rest.takeWhile Number.isDigit ++ u) (end' : EndBefore u t) :
    NumeralBefore isNegative c.rest t := by
  obtain ⟨d, s, at', is, isDigit⟩ := exists_digit seen digit
  have first : c.rest.takeWhile Number.isDigit = d :: s.takeWhile Number.isDigit := by
    rw [at', List.takeWhile_cons_of_pos isDigit]
  obtain ⟨ds, same⟩ := exists_digits (s := c.rest) (by rw [first]; exact List.cons_ne_nil _ _)
  rw [← same] at split first
  refine numeralBefore ds (fun zero => ?_) split end'
  rw [first, List.head?_cons, Option.some.injEq] at zero
  rw [zero] at is
  exact absurd is.symm other

/-- No digit is taken where none comes next. -/
theorem takeWhile_of_peek (noDigit : ¬(c.peek.map Char.isDigit).getD false = true) :
    c.rest.takeWhile Number.isDigit = [] := by
  cases at' : c.rest with
  | nil => rfl
  | cons b s =>
      rw [Cursor.peek_of_cons at', Option.map_some, Option.getD_some, isDigit_charOf] at noDigit
      exact List.takeWhile_cons_of_neg noDigit

theorem leaves_number (isNegative : Bool) (c : Cursor) :
    (number isNegative).Leaves c fun _ c' => NumeralBefore isNegative c.rest c'.rest := by
  apply leaves_get
  split
  case h_1 => exact leaves_failHere _
  case h_2 ch seen =>
    split
    case isTrue => exact (fails_bind _ fun _ => fails_failHere _).leaves
    case isFalse digit =>
      have digit : ch.isDigit = true := by simpa using digit
      by_cases zero : ch = '0'
      · rw [if_pos zero]
        apply (leaves_advance c).bind
        intro _ c₁ at₁
        apply leaves_get
        split
        case isTrue => trivial
        case isFalse last =>
          apply (leaves_digits c₁).bind
          rintro ds c₂ ⟨rfl, at₂⟩
          rw [takeWhile_of_peek last, List.nil_append] at at₂
          apply (leaves_numberEnd _ _ _).mono
          intro _ c₃ end'
          exact numeralBefore_of_zero (zero ▸ seen) (at₁ ▸ at₂ ▸ end')
      · rw [if_neg zero]
        apply (leaves_digits c).bind
        rintro ds c₁ ⟨rfl, at₁⟩
        apply (leaves_numberEnd _ _ _).mono
        exact fun _ c₂ end' => numeralBefore_of_digit seen digit zero at₁ end'

theorem leaves_skipNumber (isNegative : Bool) (c : Cursor) :
    skipNumber.Leaves c fun _ c' => NumeralBefore isNegative c.rest c'.rest := by
  apply leaves_get
  dsimp only
  split
  case isTrue => trivial
  case isFalse digit =>
    cases seen : c.peek with
    | none =>
        rw [seen] at digit
        exact absurd rfl digit
    | some ch =>
        have digit : ch.isDigit = true := by simpa [seen] using digit
        by_cases zero : ch = '0'
        · rw [if_pos (congrArg some zero)]
          apply (leaves_advance c).bind
          intro _ c₁ at₁
          apply leaves_get
          split
          case isTrue => trivial
          case isFalse last =>
            apply (leaves_digits c₁).bind
            rintro ds c₂ ⟨rfl, at₂⟩
            rw [takeWhile_of_peek last, List.nil_append] at at₂
            apply (leaves_skipFraction c₂).mono
            intro _ c₃ end'
            exact numeralBefore_of_zero (zero ▸ seen) (at₁ ▸ at₂ ▸ end')
        · rw [if_neg fun same => zero (Option.some.inj same)]
          apply (leaves_digits c).bind
          rintro ds c₁ ⟨rfl, at₁⟩
          apply (leaves_skipFraction c₁).mono
          exact fun _ c₂ end' => numeralBefore_of_digit seen digit zero at₁ end'

/-! ## Literals -/

/-- A text has a literal with its closing quote in front. -/
def LiteralBefore (s t : List UInt8) : Prop :=
  ∃ l : Literal, s = l.bytes ++ 0x22 :: t

/-- A text has pieces of a string in front. -/
def PiecesBefore (s t : List UInt8) : Prop :=
  ∃ l : Literal, s = l.bytes ++ t

theorem PiecesBefore.literal {u : List UInt8} (before : PiecesBefore s u)
    (further : LiteralBefore u t) : LiteralBefore s t := by
  obtain ⟨l, rfl⟩ := before
  obtain ⟨l', rfl⟩ := further
  exact ⟨l ++ l', by rw [l.bytes_append, List.append_assoc]⟩

theorem piecesBefore_of_plain {plain : List UInt8} (all : ∀ b ∈ plain, isPlain b = true) :
    PiecesBefore (plain ++ t) t :=
  ⟨.ofPlain plain, by rw [Literal.bytes_ofPlain all]⟩

theorem leaves_plainBytes (c : Cursor) : plainBytes.Leaves c fun _ c' =>
    PiecesBefore c.rest c'.rest := by
  apply leaves_get
  apply leaves_skip (List.takeWhile_prefix _)
  intro c₁ at₁
  refine leaves_pure ?_
  rw [at₁]
  exact piecesBefore_of_plain (List.all_eq_true.mp List.all_takeWhile)

theorem leaves_stringByte (c : Cursor) :
    stringByte.Leaves c fun ch c' => c' = c ∧ c.peek = some ch := by
  apply leaves_get
  split
  case h_1 seen => exact leaves_pure ⟨rfl, seen⟩
  case h_2 => exact leaves_failHere _

/-- A text has the four digits of a unit in front. -/
def UnitBefore (s t : List UInt8) : Prop :=
  ∃ digits value, digits.length = 4 ∧ hexValue? digits = some value ∧ s = digits ++ t

theorem leaves_hexUnit (c : Cursor) : hexUnit.Leaves c fun _ c' => UnitBefore c.rest c'.rest := by
  apply leaves_get
  apply leaves_skip (List.take_prefix 4 _)
  intro c₁ at₁
  have atMost := List.length_take_le 4 c.rest
  by_cases short : (c.rest.take 4).length < 4
  · rw [if_pos short]
    trivial
  · rw [if_neg short]
    have four : (c.rest.take 4).length = 4 := Nat.le_antisymm atMost (Nat.le_of_not_lt short)
    cases makes : hexValue? (c.rest.take 4) with
    | none => exact leaves_failHere _
    | some value => exact leaves_pure ⟨_, value, four, makes, at₁⟩

theorem leaves_pairMark (c : Cursor) (mark : Char) :
    (pairMark mark).Leaves c fun _ c' => c.peek = some mark ∧ c'.rest = c.rest.tail := by
  apply (leaves_stringByte c).bind
  rintro ch _ ⟨rfl, seen⟩
  apply (leaves_advance _).bind
  intro _ c₁ at₁
  split
  case isTrue => exact leaves_failHere _
  case isFalse same =>
    exact leaves_pure ⟨seen.trans (congrArg some (Decidable.of_not_not same)), at₁⟩

theorem UnitBefore.pieces (before : UnitBefore s t) : PiecesBefore (0x5C :: 0x75 :: s) t := by
  obtain ⟨digits, value, four, makes, rfl⟩ := before
  refine ⟨[.unit digits value four makes], ?_⟩
  rw [Literal.bytes_cons, Literal.bytes_nil, List.append_nil]
  rfl

theorem PiecesBefore.append {u : List UInt8} (before : PiecesBefore s u)
    (further : PiecesBefore u t) : PiecesBefore s t := by
  obtain ⟨l, rfl⟩ := before
  obtain ⟨l', rfl⟩ := further
  exact ⟨l ++ l', by rw [l.bytes_append, List.append_assoc]⟩

theorem leaves_unitEscape (c : Cursor) :
    unitEscape.Leaves c fun _ c' => PiecesBefore (0x5C :: 0x75 :: c.rest) c'.rest := by
  apply (leaves_hexUnit c).bind
  intro first c₁ unit₁
  by_cases half : isSecondHalf first = true
  · rw [if_pos half]
    trivial
  · rw [if_neg half]
    split
    case isTrue => exact leaves_pure unit₁.pieces
    case isFalse =>
      apply (leaves_pairMark c₁ '\\').bind
      rintro _ c₂ ⟨seen₁, at₂⟩
      apply (leaves_pairMark c₂ 'u').bind
      rintro _ c₃ ⟨seen₂, at₃⟩
      apply (leaves_hexUnit c₃).bind
      intro second c₄ unit₂
      have pair := unit₂.pieces
      rw [at₃, ← c₂.rest_of_peek 0x75 seen₂, at₂, ← c₁.rest_of_peek 0x5C seen₁] at pair
      split
      case isTrue => trivial
      case isFalse => exact leaves_pure (unit₁.pieces.append pair)

theorem piecesBefore_of_letter {ch meant : Char} (seen : c.peek = some ch)
    (means : letterEscape? ch = some meant) : PiecesBefore (0x5C :: c.rest) c.rest.tail := by
  obtain ⟨b, s, at', is⟩ := Cursor.exists_of_peek seen
  refine ⟨[.letter b meant (is ▸ means)], ?_⟩
  rw [at']
  rfl

theorem leaves_escapedChar (c : Cursor) :
    escapedChar.Leaves c fun _ c' => PiecesBefore (0x5C :: c.rest) c'.rest := by
  apply (leaves_stringByte c).bind
  rintro ch _ ⟨rfl, seen⟩
  apply (leaves_advance _).bind
  intro _ c₁ at₁
  split
  case isTrue unit =>
    subst unit
    rw [Cursor.rest_of_peek 0x75 seen, ← at₁]
    exact leaves_unitEscape c₁
  case isFalse =>
    split
    case h_1 means => exact leaves_pure (at₁ ▸ piecesBefore_of_letter seen means)
    case h_2 => exact leaves_failHere _

theorem leaves_skipEscape (c : Cursor) :
    skipEscape.Leaves c fun _ c' => PiecesBefore (0x5C :: c.rest) c'.rest := by
  apply (leaves_stringByte c).bind
  rintro ch _ ⟨rfl, seen⟩
  apply (leaves_advance _).bind
  intro _ c₁ at₁
  split
  case isTrue unit =>
    apply (leaves_hexUnit c₁).bind
    intro _ c₂ unit₁
    refine leaves_pure ?_
    subst unit
    rw [Cursor.rest_of_peek 0x75 seen, ← at₁]
    exact unit₁.pieces
  case isFalse =>
    cases means : letterEscape? ch with
    | none => exact leaves_failHere _
    | some meant => exact leaves_pure (at₁ ▸ piecesBefore_of_letter seen means)

theorem literalBefore_of_quote (seen : c.peek = some '"') : LiteralBefore c.rest c.rest.tail :=
  ⟨[], c.rest_of_peek 0x22 seen⟩

theorem leaves_stringBytes (bound : List UInt8) :
    (stringBytes bound).Leaves c fun _ c' => LiteralBefore c.rest c'.rest := by
  induction bound generalizing c with
  | nil => exact leaves_failHere _
  | cons x bound ih =>
      apply (leaves_plainBytes c).bind
      intro plain c₁ pieces
      apply (leaves_stringByte c₁).bind
      rintro ch _ ⟨rfl, seen⟩
      split
      case h_1 =>
        apply (leaves_advance _).bind
        intro _ c₂ at₂
        exact leaves_pure (pieces.literal (at₂ ▸ literalBefore_of_quote seen))
      case h_2 =>
        apply (leaves_advance _).bind
        intro _ c₂ at₂
        apply (leaves_escapedChar c₂).bind
        intro meant c₃ escaped
        rw [at₂, ← Cursor.rest_of_peek 0x5C seen] at escaped
        apply ih.bind
        intro others c₄ further
        exact leaves_pure (pieces.literal (escaped.literal further))
      case h_3 => exact (fails_bind _ fun _ => fails_failHere _).leaves

theorem leaves_string (c : Cursor) :
    string.Leaves c fun _ c' => LiteralBefore c.rest c'.rest := by
  apply leaves_get
  exact (leaves_stringBytes _).bind fun _ _ before => leaves_pure before

theorem leaves_skipStringBytes (bound : List UInt8) :
    (skipStringBytes bound).Leaves c fun _ c' => LiteralBefore c.rest c'.rest := by
  induction bound generalizing c with
  | nil => exact leaves_failHere _
  | cons x bound ih =>
      apply (leaves_plainBytes c).bind
      intro plain c₁ pieces
      apply (leaves_stringByte c₁).bind
      rintro ch _ ⟨rfl, seen⟩
      split
      case h_1 =>
        apply (leaves_advance _).mono
        intro _ c₂ at₂
        exact pieces.literal (at₂ ▸ literalBefore_of_quote seen)
      case h_2 =>
        apply (leaves_advance _).bind
        intro _ c₂ at₂
        apply (leaves_skipEscape c₂).bind
        intro _ c₃ escaped
        rw [at₂, ← Cursor.rest_of_peek 0x5C seen] at escaped
        apply ih.mono
        exact fun _ c₄ further => pieces.literal (escaped.literal further)
      case h_3 => exact leaves_failHere _

theorem leaves_skipString (c : Cursor) :
    skipString.Leaves c fun _ c' => LiteralBefore c.rest c'.rest := by
  apply leaves_get
  exact leaves_skipStringBytes _

end Scan

end SceneBench.Json
