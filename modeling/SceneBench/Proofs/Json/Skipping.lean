import SceneBench.Json.Skip
import SceneBench.Proofs.Json.Spelling

/-!
# Values that are looked over

However deep a value is, looking over it comes to its end and not further. A step of the scan goes
to the beginning of the next element or to the end of the innermost bracket; what the steps come to
is followed from bracket to bracket, by induction on the value and along its elements.
-/

namespace SceneBench.Json

variable {c : Cursor} {v : Value} {s t rest : List UInt8}

namespace Scan

/-- From one standing and one text the steps come to the end of a value, behind which the others
stand open. Each step that is left is enough for a byte. -/
def SkipsTo (stage : Stage) (brackets : List Bracket) (s : List UInt8) (opened : List Bracket)
    (t : List UInt8) : Prop :=
  ∀ (c : Cursor) (bound : List UInt8) (answer : Option Unit) (rest : List UInt8),
    c.rest = s → s.length ≤ bound.length →
    (∀ (c' : Cursor) (bound' : List UInt8), c'.rest = t → t.length ≤ bound'.length →
      (skipSteps bound' .ended opened).Yields c' answer rest) →
    (skipSteps bound stage brackets).Yields c answer rest

/-- A scan looks over the beginning of something, and the steps after it over all of it. -/
def SkipsOver (scan : List Bracket → Scan (Stage × List Bracket)) (s t : List UInt8) : Prop :=
  ∀ opened, ∃ stage brackets s₁,
    (∀ c, c.rest = s → (scan opened).Yields c (some (stage, brackets)) s₁) ∧
    s₁.length < s.length ∧ SkipsTo stage brackets s₁ opened t

theorem SkipsOver.of_ended {scan : List Bracket → Scan (Stage × List Bracket)}
    (shorter : t.length < s.length)
    (ends : ∀ opened c, c.rest = s → (scan opened).Yields c (some (.ended, opened)) t) :
    SkipsOver scan s t := fun opened =>
  ⟨.ended, opened, t, ends opened, shorter, fun c bound _ _ at' enough then' =>
    then' c bound at' enough⟩

theorem exists_step {bound : List UInt8} (shorter : t.length < s.length)
    (enough : s.length ≤ bound.length) : ∃ x more, bound = x :: more :=
  List.exists_cons_of_length_pos
    (Nat.lt_of_le_of_lt (Nat.zero_le _) (Nat.lt_of_lt_of_le shorter enough))

theorem skipSteps_cons (x : UInt8) (bound : List UInt8) (stage : Stage) (bracket : Bracket)
    (opened : List Bracket) :
    skipSteps (x :: bound) stage (bracket :: opened) =
      skipInside (stage = .opened) bracket opened >>= fun reached =>
        skipSteps bound reached.1 reached.2 := rfl

section Elements

variable {α : Type} {P : α → List UInt8 → List UInt8 → Prop} {bracket : Bracket} {b : UInt8}
  {isFirst : Bool} {opened : List Bracket}

/-- Get to the value of an element, and look over its beginning. -/
def skipElement (bracket : Bracket) (opened : List Bracket) : Scan (Stage × List Bracket) := do
  skipToValue bracket
  skipStart opened

theorem yields_skipInside_closing (closes : charOf b = bracket.closing)
    (visible : Cursor.isBlank b = false) (closed : Blanks c.rest (b :: t)) :
    (skipInside isFirst bracket opened).Yields c (some (.ended, opened)) t := by
  apply bind_peek closed visible closes
  intro c₁ at₁
  dsimp only
  rw [if_pos rfl]
  exact bind_advance at₁ fun c₂ at₂ => yields_pure _ at₂

/-- A step goes over the beginning of the next element. -/
theorem yields_skipInside {reached : Stage × List Bracket}
    (starts : isStart b) (other : charOf b ≠ bracket.closing) (begins : Blanks c.rest (b :: t))
    (yields : ∀ c', c'.rest = b :: t →
      (skipElement bracket (bracket :: opened)).Yields c' (some reached) rest) :
    (skipInside true bracket opened).Yields c (some reached) rest := by
  apply bind_peek begins (isBlank_of_isStart starts) rfl
  intro c₁ at₁
  dsimp only
  rw [if_neg other, if_pos rfl]
  exact yields c₁ at₁

theorem yields_skipInside_comma {reached : Stage × List Bracket} {s : List UInt8}
    (comma : Blanks c.rest (0x2C :: s))
    (yields : ∀ c', c'.rest = s →
      (skipElement bracket (bracket :: opened)).Yields c' (some reached) rest) :
    (skipInside false bracket opened).Yields c (some reached) rest := by
  apply bind_peek comma rfl rfl
  intro c₁ at₁
  have other : charOf 0x2C ≠ bracket.closing := by cases bracket <;> decide
  dsimp only
  rw [if_neg other, if_neg Bool.false_ne_true, if_pos (show charOf 0x2C = ',' from rfl)]
  exact bind_advance at₁ yields

/-- The elements of a bracket are looked over one after the other, and the bracket is closed. -/
theorem skipsTo_elements (closes : charOf b = bracket.closing) (ends : b = 0x5D ∨ b = 0x7D)
    {all : List α} {s₂ : List UInt8}
    (each : ∀ a ∈ all, ∀ s t, P a s t → Stops t →
      (∃ b' s', Blanks s (b' :: s') ∧ isStart b' ∧ P a (b' :: s') t) ∧
        SkipsOver (skipElement bracket) s t)
    (elements : Elements P isFirst all s s₂) (closed : Blanks s₂ (b :: t)) :
    SkipsTo (if isFirst then .opened else .ended) (bracket :: opened) s opened t := by
  have visible : Cursor.isBlank b = false := by rcases ends with rfl | rfl <;> rfl
  have noStart : isStart b = false := by rcases ends with rfl | rfl <;> rfl
  induction elements with
  | @nil isFirst s =>
      intro c bound answer rest at' enough then'
      obtain ⟨x, bound, rfl⟩ := exists_step closed.length_lt enough
      rw [skipSteps_cons]
      apply (yields_skipInside_closing closes visible (at' ▸ closed)).then
      exact fun c₁ at₁ => then' c₁ bound at₁
        (Nat.le_of_lt_succ (Nat.lt_of_lt_of_le closed.length_lt enough))
  | first spelled others ih =>
      intro c bound answer rest at' enough then'
      obtain ⟨here, each⟩ := List.forall_mem_cons.mp each
      have stops := others.stops (closed.stops (.inr ends))
      obtain ⟨⟨b', s', begins, starts, spelled'⟩, -⟩ := here _ _ spelled stops
      obtain ⟨-, skipped⟩ := here _ _ spelled' stops
      obtain ⟨stage, brackets, s₁, yields, shorter, skips⟩ := skipped (bracket :: opened)
      obtain ⟨x, bound, rfl⟩ := exists_step begins.length_lt enough
      have other : charOf b' ≠ bracket.closing := closes ▸ not_isStart starts noStart
      rw [skipSteps_cons]
      apply (yields_skipInside starts other (at' ▸ begins) yields).then
      intro c₁ at₁
      apply skips c₁ bound answer rest at₁ (by have := begins.length_le; grind)
      intro c₂ bound₂ at₂ enough₂
      exact ih each closed c₂ bound₂ answer rest at₂ enough₂ then'
  | next comma spelled others ih =>
      intro c bound answer rest at' enough then'
      obtain ⟨here, each⟩ := List.forall_mem_cons.mp each
      have stops := others.stops (closed.stops (.inr ends))
      obtain ⟨-, skipped⟩ := here _ _ spelled stops
      obtain ⟨stage, brackets, s₁, yields, shorter, skips⟩ := skipped (bracket :: opened)
      obtain ⟨x, bound, rfl⟩ := exists_step comma.length_lt enough
      rw [skipSteps_cons]
      apply (yields_skipInside_comma (at' ▸ comma) yields).then
      intro c₁ at₁
      apply skips c₁ bound answer rest at₁ (by have := comma.length_lt; grind)
      intro c₂ bound₂ at₂ enough₂
      exact ih each closed c₂ bound₂ answer rest at₂ enough₂ then'

end Elements

/-! ## Values -/

/-- A value that goes on behind its first byte has ended where that has. -/
theorem ends_behind {b : UInt8} {scan : Scan Unit} {opened : List Bracket}
    (at' : c.rest = b :: s) (goesOn : ∀ c', c'.rest = s → scan.Yields c' (some ()) t) :
    (do advance; scan; return (Stage.ended, opened)).Yields c (some (.ended, opened)) t := by
  apply bind_advance at'
  intro c₁ at₁
  exact (goesOn c₁ at₁).then fun c₂ at₂ => yields_pure _ at₂

theorem yields_skipStart_number (n : Numeral) (opened : List Bracket)
    (digits : Blanks c.rest (n.bytes ++ t)) (stops : Stops t) :
    (skipStart opened).Yields c (some (.ended, opened)) t := by
  rw [Numeral.bytes] at digits
  cases sign : n.isNegative with
  | true =>
      rw [sign] at digits
      apply bind_peek digits rfl rfl
      exact fun c₁ at₁ => ends_behind at₁ fun c₂ at₂ => yields_skipNumber n at₂ stops
  | false =>
      obtain ⟨d, s, split, digit⟩ := n.exists_digit
      rw [sign, split] at digits
      have isDigit := (isDigit_charOf d).trans digit
      generalize is : charOf d = ch at isDigit
      apply bind_peek digits (isBlank_of_isStart (isStart_of_isDigit digit)) is
      intro c₁ at₁
      have numeral : c₁.rest = n.unsigned ++ t := by rw [at₁, split]; rfl
      split
      case h_8 same =>
        cases same
        rw [if_pos isDigit]
        apply (yields_skipNumber n numeral stops).then
        exact fun c₃ at₃ => yields_pure _ at₃
      all_goals
        cases ‹some ch = _› <;> cases isDigit

theorem yields_colon (mark : Blanks c.rest (0x3A :: t)) : colon.Yields c (some ()) t := by
  apply bind_peek mark rfl rfl
  exact fun c₁ at₁ => yields_advance at₁

theorem yields_skipToValue_object {key : Literal}
    (quote : Blanks c.rest (0x22 :: (key.bytes ++ 0x22 :: s))) (mark : Blanks s (0x3A :: t)) :
    (skipToValue .object).Yields c (some ()) t := by
  apply bind_peek quote rfl rfl
  intro c₁ at₁
  apply bind_advance at₁
  intro c₂ at₂
  apply (yields_skipString key at₂).then
  exact fun c₃ at₃ => yields_colon (at₃ ▸ mark)

/-- A member is looked over if its value is. -/
theorem skipsOver_member {m : Literal × Value} (spelled : Member Spelled m s t)
    (skipped : ∀ s, Spelled m.2 s t → SkipsOver skipStart s t) :
    SkipsOver (skipElement .object) s t := by
  obtain ⟨quote, mark, value⟩ := spelled
  intro opened
  obtain ⟨stage, brackets, s₁, yields, shorter, skips⟩ := skipped _ value opened
  refine ⟨stage, brackets, s₁, fun c at' => ?_, ?_, skips⟩
  · exact (yields_skipToValue_object (at' ▸ quote) mark).then yields
  · have := quote.length_le
    have := mark.length_le
    grind

/-- Every value is looked over to its end. -/
theorem skipsOver_start (spelled : Spelled v s t) (stops : Stops t) :
    SkipsOver skipStart s t := by
  induction v generalizing s t with
  | null =>
      have shorter := spelled.length_lt
      obtain ⟨word⟩ := spelled
      refine .of_ended shorter fun opened c at' => ?_
      apply bind_peek (at' ▸ word) rfl rfl
      exact fun c₁ at₁ => ends_behind at₁ fun c₂ at₂ => yields_word [0x75, 0x6C, 0x6C] at₂
  | boolean value =>
      have shorter := spelled.length_lt
      cases spelled with
      | true word =>
          refine .of_ended shorter fun opened c at' => ?_
          apply bind_peek (at' ▸ word) rfl rfl
          exact fun c₁ at₁ => ends_behind at₁ fun c₂ at₂ => yields_word [0x72, 0x75, 0x65] at₂
      | false word =>
          refine .of_ended shorter fun opened c at' => ?_
          apply bind_peek (at' ▸ word) rfl rfl
          exact fun c₁ at₁ => ends_behind at₁ fun c₂ at₂ => yields_word [0x61, 0x6C, 0x73, 0x65] at₂
  | number n =>
      have shorter := spelled.length_lt
      cases spelled with
      | number digits =>
          exact .of_ended shorter fun opened c at' =>
            yields_skipStart_number n opened (at' ▸ digits) stops
  | string l =>
      have shorter := spelled.length_lt
      cases spelled with
      | string quoted =>
          refine .of_ended shorter fun opened c at' => ?_
          apply bind_peek (at' ▸ quoted) rfl rfl
          exact fun c₁ at₁ => ends_behind at₁ fun c₂ at₂ => yields_skipString l at₂
  | list items ih =>
      cases spelled with
      | @list _ _ s₁ s₂ _ opens elements closed =>
          intro opened
          refine ⟨.opened, .list :: opened, s₁, fun c at' => ?_, opens.length_lt, ?_⟩
          · apply bind_peek (at' ▸ opens) rfl rfl
            intro c₁ at₁
            exact bind_advance at₁ fun c₂ at₂ => yields_pure _ at₂
          · refine skipsTo_elements rfl (.inl rfl) ?_ elements closed
            exact fun v listed s t spelled stops => ⟨spelled.starts, ih v listed spelled stops⟩
  | object members ih =>
      cases spelled with
      | @object _ _ s₁ s₂ _ opens elements closed =>
          intro opened
          refine ⟨.opened, .object :: opened, s₁, fun c at' => ?_, opens.length_lt, ?_⟩
          · apply bind_peek (at' ▸ opens) rfl rfl
            intro c₁ at₁
            exact bind_advance at₁ fun c₂ at₂ => yields_pure _ at₂
          · refine skipsTo_elements rfl (.inr rfl) ?_ elements closed
            exact fun m listed s t spelled stops =>
              ⟨spelled.starts, skipsOver_member spelled fun s value => ih m listed value stops⟩

/-- However deep a value is, looking over it leaves what comes behind it. -/
theorem yields_skipValue (spelled : Spelled v c.rest t) (stops : Stops t) :
    skipValue.Yields c (some ()) t := by
  obtain ⟨stage, brackets, s₁, yields, -, skips⟩ := skipsOver_start spelled stops []
  apply (yields c rfl).then
  intro c₁ at₁
  apply bind_get
  rw [at₁]
  apply skips c₁ s₁ (some ()) t at₁ (Nat.le_refl _)
  intro c₂ bound at₂ _
  rw [skipSteps]
  exact yields_pure () at₂

end Scan

end SceneBench.Json
