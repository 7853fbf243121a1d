import SceneBench.Proofs.Json.Leaving
import SceneBench.Proofs.Json.Skipping

/-!
# What stands in brackets

An element stands in front of those that come behind it in a bracket, up to its end. For a value
that is looked over that is followed along the brackets that stand open: when the steps end, each of
them has been closed, so what was looked over is a value.
-/

namespace SceneBench.Json

variable {α β : Type} {c : Cursor} {s t u : List UInt8} {isFirst : Bool}

theorem Blanks.trans (blanks : Blanks s t) (further : Blanks t u) : Blanks s u := by
  induction blanks with
  | none => exact further
  | more blank _ ih => exact .more blank (ih further)

/-- A value stands behind blanks as well. -/
theorem Spelled.behind {v : Value} (blanks : Blanks s t) (spelled : Spelled v t u) :
    Spelled v s u := by
  cases spelled with
  | null word => exact .null (blanks.trans word)
  | true word => exact .true (blanks.trans word)
  | false word => exact .false (blanks.trans word)
  | number digits => exact .number (blanks.trans digits)
  | string quoted => exact .string (blanks.trans quoted)
  | list opened elements closed => exact .list (blanks.trans opened) elements closed
  | object opened elements closed => exact .object (blanks.trans opened) elements closed

/-- A text has a value in front. -/
def ValueBefore (s t : List UInt8) : Prop := ∃ v, Spelled v s t

theorem ValueBefore.behind (blanks : Blanks s t) (before : ValueBefore t u) : ValueBefore s u := by
  obtain ⟨v, spelled⟩ := before
  exact ⟨v, spelled.behind blanks⟩

theorem valueBefore_of_natural (before : Scan.NumeralBefore false s t) : ValueBefore s t := by
  obtain ⟨n, natural, split⟩ := before
  refine ⟨.number n, .number (.of_eq ?_)⟩
  rw [split, Numeral.bytes, natural]
  rfl

theorem valueBefore_of_negative (before : Scan.NumeralBefore true s t) :
    ValueBefore (0x2D :: s) t := by
  obtain ⟨n, negative, split⟩ := before
  refine ⟨.number n, .number (.of_eq ?_)⟩
  rw [split, Numeral.bytes, negative]
  rfl

theorem valueBefore_of_literal (before : Scan.LiteralBefore s t) : ValueBefore (0x22 :: s) t := by
  obtain ⟨l, split⟩ := before
  exact ⟨.string l, .string (.of_eq (split ▸ rfl))⟩

/-! ## What stands in brackets -/

/-- What comes in front of an element: nothing, or a comma. -/
inductive Gap : Bool → List UInt8 → List UInt8 → Prop
  | first {s t : List UInt8} (blanks : Blanks s t) : Gap true s t
  | comma {s t u : List UInt8} (comma : Blanks s (0x2C :: t)) (blanks : Blanks t u) : Gap false s u

/-- A text has an element of a bracket in front. -/
def ElementBefore : Bracket → List UInt8 → List UInt8 → Prop
  | .list, s, t => ValueBefore s t
  | .object, s, t => ∃ m, Member Spelled m s t

/-- A text has elements in front that are still to come in a bracket, and its end. -/
inductive Closes : Bracket → Bool → List UInt8 → List UInt8 → Prop
  | list {isFirst : Bool} {items : List Value} {s t u : List UInt8}
      (elements : Elements Spelled isFirst items s u) (closed : Blanks u (0x5D :: t)) :
      Closes .list isFirst s t
  | object {isFirst : Bool} {members : List (Literal × Value)} {s t u : List UInt8}
      (elements : Elements (Member Spelled) isFirst members s u) (closed : Blanks u (0x7D :: t)) :
      Closes .object isFirst s t

namespace Closes

variable {bracket : Bracket}

theorem empty {b : UInt8} (closes : charOf b = bracket.closing) (closed : Blanks s (b :: t)) :
    Closes bracket isFirst s t := by
  cases bracket with
  | list =>
      have closes : charOf b = charOf 0x5D := closes
      exact .list .nil (charOf_inj closes ▸ closed)
  | object =>
      have closes : charOf b = charOf 0x7D := closes
      exact .object .nil (charOf_inj closes ▸ closed)

theorem behind (blanks : Blanks s t) (closes : Closes bracket isFirst t u) :
    Closes bracket isFirst s u := by
  cases closes with
  | list elements closed =>
      cases elements with
      | nil => exact .list .nil (blanks.trans closed)
      | first spelled others => exact .list (.first (spelled.behind blanks) others) closed
      | next comma spelled others => exact .list (.next (blanks.trans comma) spelled others) closed
  | object elements closed =>
      cases elements with
      | nil => exact .object .nil (blanks.trans closed)
      | first spelled others =>
          obtain ⟨quote, colon, value⟩ := spelled
          exact .object (.first (.mk (blanks.trans quote) colon value) others) closed
      | next comma spelled others =>
          exact .object (.next (blanks.trans comma) spelled others) closed

/-- One more element in front. -/
theorem element {s₁ s₂ : List UInt8} (gap : Gap isFirst s s₁)
    (before : ElementBefore bracket s₁ s₂) (further : Closes bracket false s₂ t) :
    Closes bracket isFirst s t := by
  cases further with
  | list elements closed =>
      obtain ⟨v, spelled⟩ := before
      cases gap with
      | first blanks => exact .list (.first (spelled.behind blanks) elements) closed
      | comma comma blanks => exact .list (.next comma (spelled.behind blanks) elements) closed
  | object elements closed =>
      obtain ⟨_, quote, colon, value⟩ := before
      cases gap with
      | first blanks =>
          exact .object (.first (.mk (blanks.trans quote) colon value) elements) closed
      | comma comma blanks =>
          exact .object (.next comma (.mk (blanks.trans quote) colon value) elements) closed

theorem valueBefore_list (closes : Closes .list true s t) : ValueBefore (0x5B :: s) t := by
  cases closes with
  | list elements closed => exact ⟨_, .list .none elements closed⟩

theorem valueBefore_object (closes : Closes .object true s t) : ValueBefore (0x7B :: s) t := by
  cases closes with
  | object elements closed => exact ⟨_, .object .none elements closed⟩

end Closes

namespace Scan

/-! ## Looking over -/

theorem leaves_colon (c : Cursor) : colon.Leaves c fun _ c' => Blanks c.rest (0x3A :: c'.rest) := by
  apply (leaves_peek c).bind
  rintro _ c₁ ⟨blanks, rfl⟩
  split
  case h_1 seen =>
    apply (leaves_advance c₁).mono
    intro _ c₂ at₂
    rw [at₂]
    exact c₁.rest_of_peek 0x3A seen ▸ blanks
  case h_2 => exact leaves_failAhead _
  case h_3 => exact leaves_failAhead _

/-- A member begins with its key. -/
theorem memberBefore {s₁ s₂ : List UInt8} (quote : Blanks s (0x22 :: s₁))
    (key : LiteralBefore s₁ s₂) (colon : Blanks s₂ (0x3A :: t)) (value : ValueBefore t u) :
    ElementBefore .object s u := by
  obtain ⟨l, rfl⟩ := key
  obtain ⟨v, spelled⟩ := value
  exact ⟨(l, v), .mk quote colon spelled⟩

theorem leaves_skipToValue (bracket : Bracket) (c : Cursor) :
    (skipToValue bracket).Leaves c fun _ c' =>
      ∀ t, ValueBefore c'.rest t → ElementBefore bracket c.rest t := by
  cases bracket with
  | list => exact leaves_pure fun t value => value
  | object =>
      apply (leaves_peek c).bind
      rintro _ c₁ ⟨blanks, rfl⟩
      split
      case h_1 seen =>
        apply (leaves_advance c₁).bind
        intro _ c₂ at₂
        apply (leaves_skipString c₂).bind
        intro _ c₃ key
        apply (leaves_colon c₃).mono
        intro _ c₄ mark t value
        rw [c₁.rest_of_peek 0x22 seen, ← at₂] at blanks
        exact memberBefore blanks key mark value
      case h_2 => exact leaves_failAhead _
      case h_3 => exact leaves_failAhead _

/-- A text has the ends of brackets in front, one after the other. -/
inductive Ends : Bool → List Bracket → List UInt8 → List UInt8 → Prop
  | nil {isOpened : Bool} {s : List UInt8} : Ends isOpened [] s s
  | cons {isOpened : Bool} {bracket : Bracket} {outer : List Bracket} {s t u : List UInt8}
      (closes : Closes bracket isOpened s u) (further : Ends false outer u t) :
      Ends isOpened (bracket :: outer) s t

/-- What a step comes to, seen from where the brackets end: there was a value in front. -/
def StartsValue (opened : List Bracket) (s : List UInt8) (reached : Stage × List Bracket)
    (c' : Cursor) : Prop :=
  ∀ t, Ends (reached.1 = .opened) reached.2 c'.rest t → ∃ u, ValueBefore s u ∧ Ends false opened u t

theorem StartsValue.of_ended {opened : List Bracket} {c' : Cursor}
    (before : ValueBefore s c'.rest) : StartsValue opened s (.ended, opened) c' := fun _ ends =>
  ⟨c'.rest, before, ends⟩

/-- Behind its first letter a word goes on, and with the word the value has ended. -/
theorem leaves_wordEnd {v : Value} {opened : List Bracket} (b : UInt8) (bytes : List UInt8)
    (blanks : Blanks s c.rest) (seen : c.peek = some (charOf b))
    (spelled : ∀ t, Blanks s (b :: (bytes ++ t)) → Spelled v s t) :
    (do advance; word (bytes.map charOf); return (Stage.ended, opened)).Leaves c
      (StartsValue opened s) := by
  apply (leaves_advance c).bind
  intro _ c₁ at₁
  apply (leaves_word bytes).bind
  intro _ c₂ at₂
  rw [c.rest_of_peek b seen, ← at₁, at₂] at blanks
  exact leaves_pure (.of_ended ⟨v, spelled c₂.rest blanks⟩)

theorem leaves_skipStart (opened : List Bracket) (c : Cursor) :
    (skipStart opened).Leaves c (StartsValue opened c.rest) := by
  apply (leaves_peek c).bind
  rintro _ c₁ ⟨blanks, rfl⟩
  split
  case h_1 seen => exact leaves_wordEnd 0x6E [0x75, 0x6C, 0x6C] blanks seen fun _ => .null
  case h_2 seen => exact leaves_wordEnd 0x74 [0x72, 0x75, 0x65] blanks seen fun _ => .true
  case h_3 seen => exact leaves_wordEnd 0x66 [0x61, 0x6C, 0x73, 0x65] blanks seen fun _ => .false
  case h_4 seen =>
    apply (leaves_advance c₁).bind
    intro _ c₂ at₂
    apply (leaves_skipString c₂).bind
    intro _ c₃ literal
    rw [c₁.rest_of_peek 0x22 seen, ← at₂] at blanks
    exact leaves_pure (.of_ended ((valueBefore_of_literal literal).behind blanks))
  case h_5 seen =>
    apply (leaves_advance c₁).bind
    intro _ c₂ at₂
    rw [c₁.rest_of_peek 0x5B seen, ← at₂] at blanks
    refine leaves_pure fun t ends => ?_
    cases ends with
    | cons closes further => exact ⟨_, closes.valueBefore_list.behind blanks, further⟩
  case h_6 seen =>
    apply (leaves_advance c₁).bind
    intro _ c₂ at₂
    rw [c₁.rest_of_peek 0x7B seen, ← at₂] at blanks
    refine leaves_pure fun t ends => ?_
    cases ends with
    | cons closes further => exact ⟨_, closes.valueBefore_object.behind blanks, further⟩
  case h_7 seen =>
    apply (leaves_advance c₁).bind
    intro _ c₂ at₂
    apply (leaves_skipNumber true c₂).bind
    intro _ c₃ numeral
    rw [c₁.rest_of_peek 0x2D seen, ← at₂] at blanks
    exact leaves_pure (.of_ended ((valueBefore_of_negative numeral).behind blanks))
  case h_8 =>
    split
    case isTrue =>
      apply (leaves_skipNumber false c₁).bind
      intro _ c₂ numeral
      exact leaves_pure (.of_ended ((valueBefore_of_natural numeral).behind blanks))
    case isFalse => exact leaves_failAhead _
  case h_9 => exact leaves_failAhead _

/-- Seen from where the brackets end, the innermost one had not ended before. -/
theorem leaves_skipInside (isOpened : Bool) (innermost : Bracket) (outer : List Bracket)
    (c : Cursor) :
    (skipInside isOpened innermost outer).Leaves c fun reached c' =>
      ∀ t, Ends (reached.1 = .opened) reached.2 c'.rest t →
        Ends isOpened (innermost :: outer) c.rest t := by
  have element {c₁ : Cursor} (gap : Gap isOpened c.rest c₁.rest) :
      (skipElement innermost (innermost :: outer)).Leaves c₁ fun reached c' =>
        ∀ t, Ends (reached.1 = .opened) reached.2 c'.rest t →
          Ends isOpened (innermost :: outer) c.rest t := by
    apply (leaves_skipToValue innermost c₁).bind
    intro _ c₂ before
    apply (leaves_skipStart (innermost :: outer) c₂).mono
    intro reached c₃ starts t ends
    obtain ⟨u, value, ends⟩ := starts t ends
    cases ends with
    | cons closes further => exact .cons (closes.element gap (before u value)) further
  apply (leaves_peek c).bind
  rintro _ c₁ ⟨blanks, rfl⟩
  split
  case h_1 => exact leaves_failAhead _
  case h_2 ch seen =>
    obtain ⟨b, s, at₁, is⟩ := Cursor.exists_of_peek seen
    split
    case isTrue closing =>
      apply (leaves_advance c₁).bind
      intro _ c₂ at₂
      refine leaves_pure fun t ends => ?_
      rw [at₁, List.tail_cons] at at₂
      rw [at₁, ← at₂] at blanks
      exact .cons (.empty (is.trans closing) blanks) ends
    case isFalse =>
      cases isOpened with
      | true =>
          rw [if_pos rfl]
          exact element (.first blanks)
      | false =>
          rw [if_neg Bool.false_ne_true]
          split
          case isTrue comma =>
            apply (leaves_advance c₁).bind
            intro _ c₂ at₂
            rw [c₁.rest_of_first 0x2C seen comma, ← at₂] at blanks
            exact element (.comma blanks .none)
          case isFalse => exact leaves_failAhead _

theorem leaves_skipSteps (bound : List UInt8) (stage : Stage) (brackets : List Bracket) :
    (skipSteps bound stage brackets).Leaves c fun _ c' =>
      Ends (stage = .opened) brackets c.rest c'.rest := by
  induction bound generalizing c stage brackets with
  | nil =>
      cases brackets with
      | nil => exact leaves_pure .nil
      | cons innermost outer => exact leaves_failAhead _
  | cons x bound ih =>
      cases brackets with
      | nil => exact leaves_pure .nil
      | cons innermost outer =>
          apply (leaves_skipInside _ innermost outer c).bind
          rintro ⟨stage', brackets⟩ c₁ back
          apply (ih stage' brackets).mono
          exact fun _ c₂ ends => back c₂.rest ends

/-- A reader takes a value off the front of the text, if it finds an answer. -/
def Takes (read : Scan α) : Prop := ∀ c, read.Leaves c fun _ c' => ValueBefore c.rest c'.rest

theorem takes_skipValue : skipValue.Takes := by
  intro c
  apply (leaves_skipStart [] c).bind
  rintro ⟨stage, brackets⟩ c₁ starts
  apply leaves_get
  apply (leaves_skipSteps _ stage brackets).mono
  intro _ c₂ ends
  obtain ⟨u, value, ended⟩ := starts c₂.rest ends
  cases ended with
  | nil => exact value

end Scan

end SceneBench.Json
