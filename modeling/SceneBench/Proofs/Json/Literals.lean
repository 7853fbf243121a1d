import SceneBench.Json.Strings
import SceneBench.Proofs.Json.Scanning

/-!
# Strings as they are written

A literal is a string as it stands between its quotes: plain bytes, letters behind a backslash, and
units of four hexadecimal digits. Half a pair of units is a literal without a meaning. Every literal
is looked over to its closing quote, and one that has a meaning is read as that.
-/

namespace SceneBench.Json

variable {c : Cursor} {rest : List UInt8}

/-- A piece of a string. -/
inductive Piece where
  | plain (byte : UInt8) (isPlain : Scan.isPlain byte)
  /-- A letter behind a backslash, and what it means. -/
  | letter (byte : UInt8) (meant : Char) (means : Scan.letterEscape? (charOf byte) = some meant)
  /-- Four digits behind a backslash and the mark of a unit, and the number that they make. -/
  | unit (digits : List UInt8) (value : Nat) (four : digits.length = 4)
    (makes : Scan.hexValue? digits = some value)
  deriving DecidableEq

def Piece.bytes : Piece → List UInt8
  | plain byte _ => [byte]
  | letter byte _ _ => [0x5C, byte]
  | unit digits _ _ _ => 0x5C :: 0x75 :: digits

/-- A string as it is written between its quotes. -/
abbrev Literal := List Piece

namespace Literal

def bytes (l : Literal) : List UInt8 := l.flatMap Piece.bytes

/-- The bytes that a literal stands for. Half a pair of units stands for nothing. -/
def meant? : Literal → Option (List UInt8)
  | [] => some []
  | .plain byte _ :: l => (meant? l).map (byte :: ·)
  | .letter _ meant _ :: l => (meant? l).map (Utf8.encode (String.singleton meant) ++ ·)
  | .unit _ value _ _ :: l =>
    if Scan.isSecondHalf value then none
    else if !Scan.isFirstHalf value then
      (meant? l).map (Utf8.encode (String.singleton (Char.ofNat value)) ++ ·)
    else match l with
      | .unit _ second _ _ :: l' =>
        if Scan.isSecondHalf second then
          (meant? l').map (Utf8.encode (String.singleton (Scan.pairChar value second)) ++ ·)
        else none
      | _ => none

/-- The string that a literal stands for. -/
def text? (l : Literal) : Option String := l.meant?.map Utf8.decodeLossy

/-- The literal of bytes that stand for themselves. -/
def ofPlain (plain : List UInt8) : Literal :=
  plain.filterMap fun b => if isPlain : Scan.isPlain b then some (.plain b isPlain) else none

@[simp] theorem bytes_nil : bytes [] = [] := rfl

@[simp] theorem bytes_cons (p : Piece) (l : Literal) : bytes (p :: l) = p.bytes ++ bytes l := rfl

theorem bytes_append (l l' : Literal) : bytes (l ++ l') = bytes l ++ bytes l' :=
  List.flatMap_append

theorem bytes_ofPlain {plain : List UInt8} (all : ∀ b ∈ plain, Scan.isPlain b = true) :
    (ofPlain plain).bytes = plain := by
  induction plain with
  | nil => rfl
  | cons b plain ih =>
      obtain ⟨here, all⟩ := List.forall_mem_cons.mp all
      rw [ofPlain, List.filterMap_cons, dif_pos here]
      exact congrArg (b :: ·) (ih all)

/-- A step for each byte of a literal is one more than enough behind its first piece. -/
theorem exists_step {p : Piece} {l : Literal} {bound : List UInt8}
    (enough : (bytes (p :: l)).length ≤ bound.length) :
    ∃ x more, bound = x :: more ∧ (bytes l).length ≤ more.length := by
  have some' : 0 < p.bytes.length := by cases p <;> simp [Piece.bytes]
  rw [bytes_cons, List.length_append] at enough
  cases bound with
  | nil =>
      rw [List.length_nil] at enough
      omega
  | cons x more =>
      rw [List.length_cons] at enough
      exact ⟨x, more, rfl, by omega⟩

end Literal

namespace Scan

/-! ## Bytes of a string -/

theorem yields_stringByte {b : UInt8} {t : List UInt8} {ch : Char} (at' : c.rest = b :: t)
    (is : charOf b = ch) : stringByte.Yields c (some ch) (b :: t) := by
  apply bind_get
  rw [Cursor.peek_of_cons at', is]
  exact yields_pure ch at'

theorem bind_stringByte {β : Type} {next : Char → Scan β} {answer : Option β} {b : UInt8}
    {t : List UInt8} {ch : Char} (at' : c.rest = b :: t) (is : charOf b = ch)
    (then' : ∀ c', c'.rest = b :: t → (next ch).Yields c' answer rest) :
    (stringByte >>= next).Yields c answer rest :=
  (yields_stringByte at' is).then then'

theorem yields_plainBytes {found t : List UInt8} (at' : c.rest = found ++ t)
    (plain : ∀ b ∈ found, isPlain b) (last : ∀ b ∈ t.head?, isPlain b = false) :
    plainBytes.Yields c (some found) t := by
  apply bind_get
  rw [at', takeWhile_of_last plain last]
  exact bind_skip at' fun c' at'' => yields_pure found at''

theorem yields_plainBytes_nil {b : UInt8} {t : List UInt8} (at' : c.rest = b :: t)
    (other : isPlain b = false) : plainBytes.Yields c (some []) (b :: t) := by
  have at₀ : c.rest = [] ++ b :: t := at'
  refine yields_plainBytes at₀ nofun fun b' same => ?_
  cases same
  exact other

/-- What is read of a string behind plain bytes. -/
def afterPlain (bound plain : List UInt8) : Scan (List UInt8) := do
  match ← stringByte with
  | '"' => do
    advance
    return plain
  | '\\' => do
    advance
    let c ← escapedChar
    return plain ++ Utf8.encode (String.singleton c) ++ (← stringBytes bound)
  | _ => do
    advance
    failHere .controlCharacter

theorem afterPlain_cons (bound plain : List UInt8) (b : UInt8) :
    afterPlain bound (b :: plain) = (b :: ·) <$> afterPlain bound plain := by
  rw [afterPlain, afterPlain, map_bind]
  congr 1
  funext ch
  split <;> simp [map_failHere]

/-! ## Units -/

theorem yields_hexUnit {digits : List UInt8} {value : Nat} (at' : c.rest = digits ++ rest)
    (four : digits.length = 4) (makes : hexValue? digits = some value) :
    hexUnit.Yields c (some value) rest := by
  apply bind_get
  have taken : c.rest.take 4 = digits := by rw [at', ← four, List.take_left]
  rw [taken]
  apply bind_skip at'
  intro c' at''
  rw [if_neg (by omega), makes]
  exact yields_pure value at''

theorem bind_pairMark {β : Type} {next : Unit → Scan β} {answer : Option β} {b : UInt8}
    {t : List UInt8} {mark : Char} (at' : c.rest = b :: t) (is : charOf b = mark)
    (then' : ∀ c', c'.rest = t → (next ()).Yields c' answer rest) :
    (pairMark mark >>= next).Yields c answer rest := by
  have yields : (pairMark mark).Yields c (some ()) t := by
    apply bind_stringByte at' is
    intro c₁ at₁
    apply bind_advance at₁
    intro c₂ at₂
    rw [if_neg (by simp)]
    exact yields_pure () at₂
  exact yields.then then'

theorem yields_pairMark_of_ne {b : UInt8} {t : List UInt8} {mark : Char} (at' : c.rest = b :: t)
    (other : charOf b ≠ mark) : (pairMark mark).Yields c none rest := by
  apply bind_stringByte at' rfl
  intro c₁ at₁
  apply bind_advance at₁
  intro c₂ at₂
  rw [if_pos other]
  exact yields_failHere _

/-- What is read of a pair of units behind the first of them. -/
def secondHalf (first : Nat) : Scan Char := do
  pairMark '\\'
  pairMark 'u'
  let second ← hexUnit
  if !isSecondHalf second then failHere .loneSurrogate
  return pairChar first second

variable {digits t : List UInt8} {value : Nat}

theorem yields_unitEscape_of_second (at' : c.rest = digits ++ t) (four : digits.length = 4)
    (makes : hexValue? digits = some value) (second : isSecondHalf value = true) :
    unitEscape.Yields c none rest := by
  apply (yields_hexUnit at' four makes).then
  intro c₁ at₁
  rw [if_pos second]
  exact (yields_failHere _).fail

theorem yields_unitEscape (at' : c.rest = digits ++ rest) (four : digits.length = 4)
    (makes : hexValue? digits = some value) (second : ¬ isSecondHalf value = true)
    (first : (!isFirstHalf value) = true) :
    unitEscape.Yields c (some (Char.ofNat value)) rest := by
  apply (yields_hexUnit at' four makes).then
  intro c₁ at₁
  rw [if_neg second]
  dsimp only
  rw [if_pos first]
  exact yields_pure _ at₁

/-- Where a unit is the first half of a pair, the other half decides. -/
theorem yields_unitEscape_of_first {paired : Option Char} (at' : c.rest = digits ++ t)
    (four : digits.length = 4) (makes : hexValue? digits = some value)
    (second : ¬ isSecondHalf value = true) (first : ¬ (!isFirstHalf value) = true)
    (other : ∀ c', c'.rest = t → (secondHalf value).Yields c' paired rest) :
    unitEscape.Yields c paired rest := by
  apply (yields_hexUnit at' four makes).then
  intro c₁ at₁
  rw [if_neg second]
  dsimp only
  rw [if_neg first]
  exact other c₁ at₁

theorem yields_secondHalf (first : Nat) (at' : c.rest = 0x5C :: 0x75 :: (digits ++ rest))
    (four : digits.length = 4) (makes : hexValue? digits = some value) :
    (secondHalf first).Yields c
      (if isSecondHalf value then some (pairChar first value) else none) rest := by
  apply bind_pairMark at' rfl
  intro c₁ at₁
  apply bind_pairMark at₁ rfl
  intro c₂ at₂
  apply (yields_hexUnit at₂ four makes).then
  intro c₃ at₃
  cases second : isSecondHalf value with
  | false => exact (yields_failHere _).fail
  | true => exact yields_pure _ at₃

/-- Anything but a unit is not the second half of a pair. -/
theorem yields_secondHalf_of_other (first : Nat) (l : Literal)
    (at' : c.rest = l.bytes ++ 0x22 :: t)
    (other : ∀ digits value four makes l', l ≠ .unit digits value four makes :: l') :
    (secondHalf first).Yields c none rest := by
  cases l with
  | nil => exact (yields_pairMark_of_ne at' (by decide)).fail
  | cons p l =>
      cases p with
      | plain byte isPlain =>
          refine (yields_pairMark_of_ne at' fun same => ?_).fail
          have mark : byte = 0x5C := charOf_inj same
          rw [mark] at isPlain
          cases isPlain
      | letter byte meant means =>
          apply bind_pairMark at' rfl
          intro c₁ at₁
          refine (yields_pairMark_of_ne at₁ fun same => ?_).fail
          rw [same] at means
          cases means
      | unit digits value four makes => exact absurd rfl (other digits value four makes l)

/-- The mark of a unit is no letter that means a character. -/
theorem ne_of_letter {ch meant : Char} (means : letterEscape? ch = some meant) : ch ≠ 'u' :=
  fun same => by
    rw [same] at means
    cases means

theorem yields_escapedChar_letter {b : UInt8} {meant : Char} (at' : c.rest = b :: rest)
    (means : letterEscape? (charOf b) = some meant) :
    escapedChar.Yields c (some meant) rest := by
  apply bind_stringByte at' rfl
  intro c₁ at₁
  apply bind_advance at₁
  intro c₂ at₂
  rw [if_neg (ne_of_letter means), means]
  exact yields_pure meant at₂

theorem yields_escapedChar_unit {meant : Option Char} (at' : c.rest = 0x75 :: t)
    (further : ∀ c', c'.rest = t → unitEscape.Yields c' meant rest) :
    escapedChar.Yields c meant rest := by
  apply bind_stringByte at' rfl
  intro c₁ at₁
  apply bind_advance at₁
  exact fun c₂ at₂ => further c₂ at₂

/-! ## Strings that are read -/

theorem stringBytes_cons (x : UInt8) (bound : List UInt8) :
    stringBytes (x :: bound) = plainBytes >>= afterPlain bound := rfl

theorem run_plainBytes (c : Cursor) :
    plainBytes.run c =
      .ok (c.rest.takeWhile isPlain, c.skip (c.rest.takeWhile isPlain).length) := rfl

/-- A plain byte in front is put in front of what is read behind it. -/
theorem yields_stringBytes_plain {b x : UInt8} {bound t : List UInt8}
    {answer : Option (List UInt8)} (at' : c.rest = b :: t) (plain : isPlain b)
    (further : ∀ c', c'.rest = t → (stringBytes (x :: bound)).Yields c' answer rest) :
    (stringBytes (x :: bound)).Yields c (answer.map (b :: ·)) rest := by
  have behind : c.next.rest = t := by rw [Cursor.rest_next, at', List.tail_cons]
  have same : (stringBytes (x :: bound)).run c =
      ((b :: ·) <$> stringBytes (x :: bound)).run c.next := by
    rw [stringBytes_cons, map_bind, run_bind, run_bind, run_plainBytes, run_plainBytes, behind, at',
      List.takeWhile_cons_of_pos plain, List.length_cons]
    dsimp only
    rw [afterPlain_cons]
    rfl
  have mapped := (further c.next behind).map (b :: ·)
  rw [Yields.congr same]
  exact mapped

/-- Behind an escape the string goes on. -/
theorem yields_stringBytes_escape {x : UInt8} {bound t t' : List UInt8} {meant : Char}
    {answer : Option (List UInt8)} (at' : c.rest = 0x5C :: t)
    (escaped : ∀ c', c'.rest = t → escapedChar.Yields c' (some meant) t')
    (further : ∀ c', c'.rest = t' → (stringBytes bound).Yields c' answer rest) :
    (stringBytes (x :: bound)).Yields c
      (answer.map (Utf8.encode (String.singleton meant) ++ ·)) rest := by
  apply (yields_plainBytes_nil at' rfl).then
  intro c₁ at₁
  apply bind_stringByte at₁ rfl
  intro c₂ at₂
  apply bind_advance at₂
  intro c₃ at₃
  apply (escaped c₃ at₃).then
  intro c₄ at₄
  rw [Option.map_eq_bind]
  exact (further c₄ at₄).bind fun bytes c₅ _ at₅ => yields_pure _ at₅

/-- Behind a broken escape nothing is read. -/
theorem yields_stringBytes_broken {x : UInt8} {bound : List UInt8} (at' : c.rest = 0x5C :: t)
    (escaped : ∀ c', c'.rest = t → escapedChar.Yields c' none rest) :
    (stringBytes (x :: bound)).Yields c none rest := by
  apply (yields_plainBytes_nil at' rfl).then
  intro c₁ at₁
  apply bind_stringByte at₁ rfl
  intro c₂ at₂
  apply bind_advance at₂
  exact fun c₃ at₃ => (escaped c₃ at₃).fail

/-- Every literal is read up to its closing quote, and comes to what it means. -/
theorem yields_stringBytes (l : Literal) {x : UInt8} {bound : List UInt8}
    (at' : c.rest = l.bytes ++ 0x22 :: rest) (enough : l.bytes.length ≤ bound.length) :
    (stringBytes (x :: bound)).Yields c l.meant? rest := by
  fun_induction Literal.meant? l generalizing c x bound with
  | case1 =>
      apply (yields_plainBytes_nil at' rfl).then
      intro c₁ at₁
      apply bind_stringByte at₁ rfl
      intro c₂ at₂
      apply bind_advance at₂
      exact fun c₃ at₃ => yields_pure [] at₃
  | case2 byte isPlain l ih =>
      obtain ⟨_, more, rfl, enough'⟩ := Literal.exists_step enough
      apply yields_stringBytes_plain at' isPlain
      exact fun c₁ at₁ => ih at₁ (Nat.le_succ_of_le enough')
  | case3 byte meant means l ih =>
      obtain ⟨_, more, rfl, enough'⟩ := Literal.exists_step enough
      apply yields_stringBytes_escape at'
      · exact fun c₁ at₁ => yields_escapedChar_letter at₁ means
      · exact fun c₁ at₁ => ih at₁ enough'
  | case4 digits value four makes l second =>
      simp only [Literal.bytes_cons, Piece.bytes, List.cons_append, List.append_assoc] at at'
      apply yields_stringBytes_broken at'
      intro c₁ at₁
      apply yields_escapedChar_unit at₁
      exact fun c₂ at₂ => yields_unitEscape_of_second at₂ four makes second
  | case5 digits value four makes l second first ih =>
      obtain ⟨_, more, rfl, enough'⟩ := Literal.exists_step enough
      simp only [Literal.bytes_cons, Piece.bytes, List.cons_append, List.append_assoc] at at'
      apply yields_stringBytes_escape at'
      · intro c₁ at₁
        apply yields_escapedChar_unit at₁
        exact fun c₂ at₂ => yields_unitEscape at₂ four makes second first
      · exact fun c₁ at₁ => ih at₁ enough'
  | case6 digits value four makes second first digits' value' four' makes' l second' ih =>
      obtain ⟨_, _, rfl, enough₁⟩ := Literal.exists_step enough
      obtain ⟨_, more, rfl, enough₂⟩ := Literal.exists_step enough₁
      have enough' := Nat.le_succ_of_le enough₂
      simp only [Literal.bytes_cons, Piece.bytes, List.cons_append, List.append_assoc] at at'
      apply yields_stringBytes_escape at'
      · intro c₁ at₁
        apply yields_escapedChar_unit at₁
        intro c₂ at₂
        apply yields_unitEscape_of_first at₂ four makes second first
        intro c₃ at₃
        have paired := yields_secondHalf value at₃ four' makes'
        rwa [if_pos second'] at paired
      · exact fun c₁ at₁ => ih at₁ enough'
  | case7 digits value four makes second first digits' value' four' makes' l second' =>
      simp only [Literal.bytes_cons, Piece.bytes, List.cons_append, List.append_assoc] at at'
      apply yields_stringBytes_broken at'
      intro c₁ at₁
      apply yields_escapedChar_unit at₁
      intro c₂ at₂
      apply yields_unitEscape_of_first at₂ four makes second first
      intro c₃ at₃
      have lone := yields_secondHalf value at₃ four' makes'
      rwa [if_neg second'] at lone
  | case8 digits value four makes l second first other =>
      simp only [Literal.bytes_cons, Piece.bytes, List.cons_append, List.append_assoc] at at'
      apply yields_stringBytes_broken at'
      intro c₁ at₁
      apply yields_escapedChar_unit at₁
      intro c₂ at₂
      apply yields_unitEscape_of_first at₂ four makes second first
      exact fun c₃ at₃ => yields_secondHalf_of_other value l at₃ other

theorem exists_bound (l : Literal) (rest : List UInt8) :
    ∃ x more, l.bytes ++ 0x22 :: rest = x :: more ∧ l.bytes.length ≤ more.length := by
  cases split : l.bytes ++ 0x22 :: rest with
  | nil => simp at split
  | cons x more =>
      have lengths := congrArg List.length split
      rw [List.length_append, List.length_cons, List.length_cons] at lengths
      exact ⟨x, more, rfl, by omega⟩

theorem yields_string (l : Literal) (at' : c.rest = l.bytes ++ 0x22 :: rest) :
    string.Yields c l.text? rest := by
  apply bind_get
  obtain ⟨x, more, split, enough⟩ := exists_bound l rest
  rw [at', split, Literal.text?, Option.map_eq_bind]
  exact (yields_stringBytes l at' enough).bind fun bytes c' _ at'' => yields_pure _ at''

/-! ## Strings that are looked over -/

theorem run_skipStringBytes_plain {b x : UInt8} {bound t : List UInt8} (at' : c.rest = b :: t)
    (plain : isPlain b) :
    (skipStringBytes (x :: bound)).run c = (skipStringBytes (x :: bound)).run c.next := by
  have behind : c.next.rest = t := by rw [Cursor.rest_next, at', List.tail_cons]
  rw [skipStringBytes, run_bind, run_bind, run_plainBytes, run_plainBytes, behind, at',
    List.takeWhile_cons_of_pos plain, List.length_cons]
  rfl

theorem yields_skipStringBytes_escape {x : UInt8} {bound t' : List UInt8}
    (at' : c.rest = 0x5C :: t) (escaped : ∀ c', c'.rest = t → skipEscape.Yields c' (some ()) t')
    (further : ∀ c', c'.rest = t' → (skipStringBytes bound).Yields c' (some ()) rest) :
    (skipStringBytes (x :: bound)).Yields c (some ()) rest := by
  apply (yields_plainBytes_nil at' rfl).then
  intro c₁ at₁
  apply bind_stringByte at₁ rfl
  intro c₂ at₂
  apply bind_advance at₂
  exact fun c₃ at₃ => (escaped c₃ at₃).then further

/-- Every literal is looked over up to its closing quote, whether it means anything or not. -/
theorem yields_skipStringBytes (l : Literal) {x : UInt8} {bound : List UInt8}
    (at' : c.rest = l.bytes ++ 0x22 :: rest) (enough : l.bytes.length ≤ bound.length) :
    (skipStringBytes (x :: bound)).Yields c (some ()) rest := by
  induction l generalizing c x bound with
  | nil =>
      apply (yields_plainBytes_nil at' rfl).then
      intro c₁ at₁
      apply bind_stringByte at₁ rfl
      exact fun c₂ at₂ => yields_advance at₂
  | cons p l ih =>
      obtain ⟨_, more, rfl, enough'⟩ := Literal.exists_step enough
      cases p with
      | plain byte isPlain =>
          rw [Yields.congr (run_skipStringBytes_plain at' isPlain)]
          have behind : c.next.rest = Literal.bytes l ++ 0x22 :: rest := by
            rw [Cursor.rest_next, at']
            rfl
          exact ih behind (Nat.le_succ_of_le enough')
      | letter byte meant means =>
          refine yields_skipStringBytes_escape at' ?_ fun c₁ at₁ => ih at₁ enough'
          intro c₁ at₁
          apply bind_stringByte at₁ rfl
          intro c₂ at₂
          apply bind_advance at₂
          intro c₃ at₃
          rw [if_neg (ne_of_letter means), means]
          exact yields_pure () at₃
      | unit digits value four makes =>
          simp only [Literal.bytes_cons, Piece.bytes, List.cons_append, List.append_assoc] at at'
          refine yields_skipStringBytes_escape at' ?_ fun c₁ at₁ => ih at₁ enough'
          intro c₁ at₁
          apply bind_stringByte at₁ rfl
          intro c₂ at₂
          apply bind_advance at₂
          intro c₃ at₃
          apply (yields_hexUnit at₃ four makes).then
          exact fun c₄ at₄ => yields_pure () at₄

theorem yields_skipString (l : Literal) (at' : c.rest = l.bytes ++ 0x22 :: rest) :
    skipString.Yields c (some ()) rest := by
  apply bind_get
  obtain ⟨x, more, split, enough⟩ := exists_bound l rest
  rw [at', split]
  exact yields_skipStringBytes l at' enough

end Scan

end SceneBench.Json
