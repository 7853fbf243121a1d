import SceneBench.Proofs.Json.Accounts
import SceneBench.Proofs.Json.Brackets

/-!
# Texts that are read are documents

A reader takes a value off the front of the text, if it finds an answer at all, whatever stands
there. This is put together from the single values, through lists, to values with fields, and it
holds of a text that is read as a whole: that is a document.
-/

namespace SceneBench.Json

variable {α β : Type} {c : Cursor} {s t u : List UInt8} {isFirst : Bool} {read : Scan α}

namespace Scan

theorem Takes.map (takes : read.Takes) (f : α → β) : (f <$> read).Takes := by
  intro c
  rw [map_eq_pure_bind]
  exact (takes c).bind fun _ _ before => leaves_pure before

/-! ## Single values -/

theorem leaves_valueStart (c : Cursor) :
    valueStart.Leaves c fun ch c' => Blanks c.rest c'.rest ∧ c'.peek = some ch := by
  apply (leaves_peek c).bind
  rintro _ c₁ ⟨blanks, rfl⟩
  split
  case h_1 seen => exact leaves_pure ⟨blanks, seen⟩
  case h_2 => exact leaves_failAhead _

theorem takes_anyNumber (expected : String) : (anyNumber expected).Takes := by
  intro c
  apply (leaves_valueStart c).bind
  rintro ch c₁ ⟨blanks, seen⟩
  split
  case isTrue minus =>
    apply (leaves_advance c₁).bind
    intro _ c₂ at₂
    apply (leaves_number true c₂).mono
    intro _ c₃ numeral
    rw [c₁.rest_of_first 0x2D seen minus, ← at₂] at blanks
    exact (valueBefore_of_negative numeral).behind blanks
  case isFalse =>
    split
    case isTrue =>
      apply (leaves_number false c₁).mono
      intro _ c₂ numeral
      exact (valueBefore_of_natural numeral).behind blanks
    case isFalse => exact (fails_mismatch expected).leaves

theorem takes_word32 : word32.Takes := by
  intro c
  apply (takes_anyNumber "u32" c).bind
  intro number c₁ before
  split
  case h_1 =>
    split
    case isTrue => exact leaves_pure before
    case isFalse => exact leaves_failHere _
  case h_2 => exact leaves_failHere _
  case h_3 => exact leaves_failHere _

theorem takes_scalar : scalar.Takes := by
  intro c
  apply (takes_anyNumber "f32" c).bind
  intro number c₁ before
  cases number with
  | natural | negative | real => exact leaves_pure before

theorem takes_text (expected : String) : (text expected).Takes := by
  intro c
  apply (leaves_valueStart c).bind
  rintro ch c₁ ⟨blanks, seen⟩
  split
  case isTrue quote =>
    apply (leaves_advance c₁).bind
    intro _ c₂ at₂
    apply (leaves_string c₂).mono
    intro _ c₃ literal
    rw [c₁.rest_of_first 0x22 seen quote, ← at₂] at blanks
    exact (valueBefore_of_literal literal).behind blanks
  case isFalse => exact (fails_mismatch expected).leaves

theorem valueBefore_of_null {c₁ c₂ : Cursor} (blanks : Blanks s c.rest) (seen : c.peek = some 'n')
    (at₁ : c₁.rest = c.rest.tail) (at₂ : c₁.rest = [0x75, 0x6C, 0x6C] ++ c₂.rest) :
    ValueBefore s c₂.rest := by
  rw [c.rest_of_peek 0x6E seen, ← at₁, at₂] at blanks
  exact ⟨.null, .null blanks⟩

theorem takes_optional (takes : read.Takes) : (optional read).Takes := by
  intro c
  apply (leaves_peek c).bind
  rintro _ c₁ ⟨blanks, rfl⟩
  split
  case h_1 seen =>
    apply (leaves_advance c₁).bind
    intro _ c₂ at₂
    apply (leaves_word [0x75, 0x6C, 0x6C]).bind
    exact fun _ c₃ at₃ => leaves_pure (valueBefore_of_null blanks seen at₂ at₃)
  case h_2 => exact (takes c₁).bind fun _ _ before => leaves_pure (before.behind blanks)

theorem takes_unit : unit.Takes := by
  intro c
  apply (leaves_valueStart c).bind
  rintro ch c₁ ⟨blanks, seen⟩
  split
  case isTrue first =>
    subst first
    apply (leaves_advance c₁).bind
    intro _ c₂ at₂
    apply (leaves_word [0x75, 0x6C, 0x6C]).mono
    exact fun _ c₃ at₃ => valueBefore_of_null blanks seen at₂ at₃
  case isFalse => exact (fails_mismatch "unit").leaves

theorem leaves_named (all : List α) (tag : α → String) (name : String) (c : Cursor) :
    (named all tag name).Leaves c fun _ c' => c' = c := by
  rw [named]
  split
  case h_1 => exact leaves_pure rfl
  case h_2 => exact leaves_failHere _

/-! ## Lists -/

theorem leaves_nextElement (isFirst : Bool) (c : Cursor) :
    (nextElement isFirst).Leaves c fun isThere c' =>
      if isThere then Gap isFirst c.rest c'.rest else Blanks c.rest c'.rest := by
  apply (leaves_peek c).bind
  rintro _ c₁ ⟨blanks, rfl⟩
  split
  case h_1 => exact leaves_failAhead _
  case h_2 => exact leaves_pure blanks
  case h_3 ch other seen =>
    cases isFirst with
    | true => exact leaves_pure (.first blanks)
    | false =>
        rw [if_neg Bool.false_ne_true]
        split
        case isTrue => trivial
        case isFalse comma =>
          apply (leaves_advance c₁).bind
          intro _ c₂ at₂
          apply (leaves_peek c₂).bind
          rintro _ c₃ ⟨blanks₃, rfl⟩
          rw [c₁.rest_of_first 0x2C seen (Decidable.of_not_not comma), ← at₂] at blanks
          split
          case h_1 => exact leaves_failAhead _
          case h_2 => exact leaves_failAhead _
          case h_3 => exact leaves_pure (.comma blanks blanks₃)

/-- A bracket is ended where its end is found. -/
theorem leaves_close {ending : Cursor → Closing} {b : UInt8}
    (ends : (ending c).failure = none → Blanks c.rest (b :: (ending c).reached.rest))
    (value : Except Fault α) :
    (close ending value).Leaves c fun _ c' => Blanks c.rest (b :: c'.rest) := by
  cases value with
  | error fault => trivial
  | ok a =>
      have same : (close ending (.ok a)).run c =
          match (ending c).failure with
          | some failure => .error failure
          | none => .ok (a, (ending c).reached) := by
        show close ending (.ok a) c = _
        cases found : (ending c).failure <;> simp only [close, found]
      rw [Leaves, same]
      cases found : (ending c).failure with
      | some failure => trivial
      | none => exact ends found

theorem leaves_close_list (value : Except Fault α) (c : Cursor) :
    (close Closing.list value).Leaves c fun _ c' => Blanks c.rest (0x5D :: c'.rest) := by
  refine leaves_close (fun found => ?_) value
  have blanks := Blanks.of_dropWhile c.rest
  rw [← Cursor.rest_skipBlanks] at blanks
  simp only [Closing.list] at found ⊢
  split at found
  case h_1 seen =>
    rw [Cursor.rest_of_peek 0x5D seen] at blanks
    simp only [Cursor.rest_next]
    exact blanks
  all_goals cases found

theorem leaves_close_object (value : Except Fault α) (c : Cursor) :
    (close Closing.object value).Leaves c fun _ c' => Blanks c.rest (0x7D :: c'.rest) := by
  refine leaves_close (fun found => ?_) value
  have blanks := Blanks.of_dropWhile c.rest
  rw [← Cursor.rest_skipBlanks] at blanks
  simp only [Closing.object] at found ⊢
  split at found
  case h_1 seen =>
    rw [Cursor.rest_of_peek 0x7D seen] at blanks
    simp only [Cursor.rest_next]
    exact blanks
  all_goals cases found

theorem leaves_elements (takes : read.Takes) (bound : List UInt8) (isFirst : Bool) :
    (elements read bound isFirst).Leaves c fun _ c' =>
      ∀ t, Blanks c'.rest (0x5D :: t) → Closes .list isFirst c.rest t := by
  induction bound generalizing c isFirst with
  | nil => exact leaves_failAhead _
  | cons x bound ih =>
      apply (leaves_nextElement isFirst c).bind
      intro isThere c₁ gap
      cases isThere with
      | true =>
          apply (takes c₁).bind
          intro _ c₂ before
          apply (ih false).bind
          intro _ c₃ closes
          exact leaves_pure fun t closed => .element gap before (closes t closed)
      | false => exact leaves_pure fun t closed => .empty rfl (gap.trans closed)

theorem takes_list (takes : read.Takes) : (list read).Takes := by
  intro c
  apply (leaves_valueStart c).bind
  rintro ch c₁ ⟨blanks, seen⟩
  split
  case isTrue opening =>
    apply (leaves_advance c₁).bind
    intro _ c₂ at₂
    apply leaves_get
    apply (leaves_elements takes _ true).bind
    intro all c₃ closes
    apply (leaves_close_list _ c₃).mono
    intro _ c₄ closed
    rw [c₁.rest_of_first 0x5B seen opening, ← at₂] at blanks
    exact (closes c₄.rest closed).valueBefore_list.behind blanks
  case isFalse => exact (fails_mismatch _).leaves

theorem leaves_fixedElements (takes : read.Takes) (expected : String) (count found : Nat) :
    (fixedElements read expected count found).Leaves c fun _ c' =>
      ∀ t, Blanks c'.rest (0x5D :: t) → Closes .list (found = 0) c.rest t := by
  induction count generalizing c found with
  | zero => exact leaves_pure fun t closed => .empty rfl closed
  | succ count ih =>
      apply (leaves_nextElement _ c).bind
      intro isThere c₁ gap
      cases isThere with
      | true =>
          apply (takes c₁).bind
          intro _ c₂ before
          apply (ih (found + 1)).bind
          intro _ c₃ closes
          exact leaves_pure fun t closed => .element gap before (closes t closed)
      | false => exact leaves_pure fun t closed => .empty rfl (gap.trans closed)

theorem takes_fixedList (takes : read.Takes) (count : Nat) : (fixedList read count).Takes := by
  intro c
  apply (leaves_valueStart c).bind
  rintro ch c₁ ⟨blanks, seen⟩
  split
  case isTrue opening =>
    apply (leaves_advance c₁).bind
    intro _ c₂ at₂
    apply (leaves_fixedElements takes _ count 0).bind
    intro all c₃ closes
    apply (leaves_close_list _ c₃).mono
    intro _ c₄ closed
    rw [c₁.rest_of_first 0x5B seen opening, ← at₂] at blanks
    exact (closes c₄.rest closed).valueBefore_list.behind blanks
  case isFalse => exact (fails_mismatch _).leaves

/-! ## Objects -/

/-- Behind what separates members a key has to begin. -/
theorem leaves_keyAhead {isFirst : Bool} {c c₁ : Cursor}
    (gap : ∀ t, Blanks c₁.rest t → Gap isFirst c.rest t) :
    (do
      match ← peek with
      | none => failAhead (.endOfText .value)
      | some '"' => do
        advance
        return true
      | some '}' => failAhead .trailingComma
      | some _ => failAhead .keyIsNoString : Scan Bool).Leaves c₁ fun isThere c' =>
    if isThere then Gap isFirst c.rest (0x22 :: c'.rest) else Blanks c.rest c'.rest := by
  apply (leaves_peek c₁).bind
  rintro _ c₂ ⟨blanks, rfl⟩
  split
  case h_1 => exact leaves_failAhead _
  case h_2 seen =>
    apply (leaves_advance c₂).bind
    intro _ c₃ at₃
    rw [c₂.rest_of_peek 0x22 seen, ← at₃] at blanks
    exact leaves_pure (gap _ blanks)
  case h_3 => exact leaves_failAhead _
  case h_4 => exact leaves_failAhead _

theorem leaves_nextKey (isFirst : Bool) (c : Cursor) :
    (nextKey isFirst).Leaves c fun isThere c' =>
      if isThere then Gap isFirst c.rest (0x22 :: c'.rest) else Blanks c.rest c'.rest := by
  apply (leaves_peek c).bind
  rintro _ c₁ ⟨blanks, rfl⟩
  split
  case h_1 => exact leaves_failAhead _
  case h_2 => exact leaves_pure blanks
  case h_3 ch other seen =>
    cases isFirst with
    | true => exact leaves_keyAhead fun t further => .first (blanks.trans further)
    | false =>
        rw [if_pos Bool.not_false]
        split
        case isTrue => trivial
        case isFalse comma =>
          apply (leaves_advance c₁).bind
          intro _ c₂ at₂
          rw [c₁.rest_of_first 0x2C seen (Decidable.of_not_not comma), ← at₂] at blanks
          exact leaves_keyAhead fun t further => .comma blanks further

theorem takes_variant (all : List α) (tag : α → String) : (variant all tag).Takes := by
  intro c
  apply (leaves_valueStart c).bind
  rintro ch c₁ ⟨blanks, seen⟩
  split
  case h_1 =>
    apply (leaves_advance c₁).bind
    intro _ c₂ at₂
    apply (leaves_string c₂).bind
    intro name c₃ literal
    rw [c₁.rest_of_peek 0x22 seen, ← at₂] at blanks
    apply (leaves_named all tag name c₃).mono
    rintro _ _ rfl
    exact (valueBefore_of_literal literal).behind blanks
  case h_2 =>
    apply (leaves_advance c₁).bind
    intro _ c₂ at₂
    rw [c₁.rest_of_peek 0x7B seen, ← at₂] at blanks
    apply (leaves_nextKey true c₂).bind
    intro isThere c₃ gap
    cases isThere with
    | false => trivial
    | true =>
        rw [if_neg (by decide)]
        apply (leaves_string c₃).bind
        intro name c₄ key
        apply (leaves_named all tag name c₄).bind
        rintro a _ rfl
        apply (leaves_colon _).bind
        intro _ c₅ mark
        apply (takes_unit c₅).bind
        intro _ c₆ value
        apply (leaves_peek c₆).bind
        rintro _ c₇ ⟨blanks₇, rfl⟩
        split
        case h_1 seen₇ =>
          apply (leaves_advance c₇).bind
          intro _ c₈ at₈
          rw [c₇.rest_of_peek 0x7D seen₇, ← at₈] at blanks₇
          have closes : Closes .object true c₂.rest c₈.rest :=
            .element gap (memberBefore .none key mark value) (.empty rfl blanks₇)
          exact leaves_pure (closes.valueBefore_object.behind blanks)
        case h_2 => exact leaves_failHere _
        case h_3 => exact leaves_failHere _
  case h_3 => exact leaves_failAhead _

end Scan

/-! ## Values with fields -/

namespace Shape

variable {s : Shape α}

theorem leaves_members (takes : ∀ f ∈ s.fields, f.read.Takes) (bound : List UInt8)
    (isFirst : Bool) (value : α) (given : List String) :
    (s.members bound isFirst value given).Leaves c fun made c' => ∀ a, made = .ok a →
      ∀ t, Blanks c'.rest (0x7D :: t) → Closes .object isFirst c.rest t := by
  induction bound generalizing c isFirst value given with
  | nil => exact Scan.leaves_failAhead _
  | cons x bound ih =>
      apply (Scan.leaves_nextKey isFirst c).bind
      intro isThere c₁ gap
      cases isThere with
      | false =>
          rw [if_neg Bool.false_ne_true]
          split
          · exact Scan.leaves_pure nofun
          · exact Scan.leaves_pure fun _ _ t closed => .empty rfl (gap.trans closed)
      | true =>
          rw [if_pos rfl]
          apply (Scan.leaves_string c₁).bind
          intro name c₂ key
          split
          case h_1 =>
            apply (Scan.leaves_colon c₂).bind
            intro _ c₃ mark
            apply (Scan.takes_skipValue c₃).bind
            intro _ c₄ part
            apply (ih false value given).mono
            intro made c₅ closes a ok t closed
            exact .element gap (Scan.memberBefore .none key mark part) (closes a ok t closed)
          case h_2 f known =>
            split
            case isTrue => exact Scan.leaves_pure nofun
            case isFalse =>
              apply (Scan.leaves_colon c₂).bind
              intro _ c₃ mark
              apply (takes f (List.mem_of_find?_eq_some known) c₃).bind
              intro change c₄ part
              apply (ih false (change value) (name :: given)).mono
              intro made c₅ closes a ok t closed
              exact .element gap (Scan.memberBefore .none key mark part) (closes a ok t closed)

theorem leaves_inOrder (fields : List (Field α)) (takes : ∀ f ∈ fields, f.read.Takes)
    (found : Nat) (value : α) :
    (s.inOrder fields found value).Leaves c fun _ c' =>
      ∀ t, Blanks c'.rest (0x5D :: t) → Closes .list (found = 0) c.rest t := by
  induction fields generalizing c found value with
  | nil => exact Scan.leaves_pure fun t closed => .empty rfl closed
  | cons f fields ih =>
      obtain ⟨here, takes⟩ := List.forall_mem_cons.mp takes
      apply (Scan.leaves_nextElement _ c).bind
      intro isThere c₁ gap
      cases isThere with
      | true =>
          rw [if_pos rfl]
          apply (here c₁).bind
          intro change c₂ before
          apply (ih takes (found + 1) (change value)).mono
          exact fun _ c₃ closes t closed => .element gap before (closes t closed)
      | false =>
          rw [if_neg Bool.false_ne_true]
          split
          · exact Scan.leaves_pure fun t closed => .empty rfl (gap.trans closed)
          · apply (ih takes found value).mono
            exact fun _ c₂ closes t closed => (closes t closed).behind gap

/-- A shape takes a value, if its fields do. -/
theorem takes_read (takes : ∀ f ∈ s.fields, f.read.Takes) : s.read.Takes := by
  intro c
  apply (Scan.leaves_valueStart c).bind
  rintro ch c₁ ⟨blanks, seen⟩
  split
  case h_1 =>
    apply (Scan.leaves_advance c₁).bind
    intro _ c₂ at₂
    rw [c₁.rest_of_peek 0x7B seen, ← at₂] at blanks
    apply Scan.leaves_get
    apply (leaves_members takes _ true s.blank []).bind
    intro made c₃ closes
    cases made with
    | error fault => trivial
    | ok a =>
        apply (Scan.leaves_close_object _ c₃).mono
        intro _ c₄ closed
        exact (closes a rfl c₄.rest closed).valueBefore_object.behind blanks
  case h_2 =>
    apply (Scan.leaves_advance c₁).bind
    intro _ c₂ at₂
    rw [c₁.rest_of_peek 0x5B seen, ← at₂] at blanks
    apply (leaves_inOrder s.fields takes 0 s.blank).bind
    intro made c₃ closes
    apply (Scan.leaves_close_list _ c₃).mono
    intro _ c₄ closed
    exact (closes c₄.rest closed).valueBefore_list.behind blanks
  case h_3 => exact (Scan.fails_mismatch _).leaves

end Shape

/-! ## Reliable readers -/

/-- A reader makes the same of every spelling of a value, and takes nothing else. -/
structure Scan.Reliable (read : Scan α) : Prop where
  steady : read.Steady
  takes : read.Takes

namespace Scan

theorem Reliable.map (reliable : read.Reliable) (f : α → β) : (f <$> read).Reliable :=
  ⟨(reliable.steady.map f).steady, reliable.takes.map f⟩

theorem reliable_word32 : word32.Reliable := ⟨means_word32.steady, takes_word32⟩

theorem reliable_scalar : scalar.Reliable := ⟨means_scalar.steady, takes_scalar⟩

theorem reliable_text (expected : String) : (text expected).Reliable :=
  ⟨(means_text expected).steady, takes_text expected⟩

theorem reliable_variant (all : List α) (tag : α → String) : (variant all tag).Reliable :=
  ⟨(means_variant all tag).steady, takes_variant all tag⟩

theorem Reliable.optional (reliable : read.Reliable) : (optional read).Reliable :=
  ⟨(means_optional reliable.steady).steady, takes_optional reliable.takes⟩

theorem Reliable.list (reliable : read.Reliable) : (list read).Reliable :=
  ⟨(means_list reliable.steady).steady, takes_list reliable.takes⟩

theorem Reliable.fixedList (reliable : read.Reliable) (count : Nat) :
    (fixedList read count).Reliable :=
  ⟨(means_fixedList reliable.steady count).steady, takes_fixedList reliable.takes count⟩

end Scan

theorem Field.reliable_of {name : String} {read : Scan β} {put : β → α → α} {isRequired : Bool}
    (reliable : read.Reliable) : (Field.of name read put isRequired).read.Reliable := by
  rw [Field.read_of]
  exact reliable.map put

theorem Shape.reliable_read {s : Shape α} (reliable : ∀ f ∈ s.fields, f.read.Reliable) :
    s.read.Reliable :=
  ⟨(means_read fun f listed => (reliable f listed).steady).steady,
    takes_read fun f listed => (reliable f listed).takes⟩

/-! ## Whole documents -/

/-- What a text is read as is what is made of the value that it spells. -/
theorem Scan.Reliable.document_eq_ok_iff (reliable : read.Reliable) {v : Value} {text : String}
    (spells : Spells v text) {a : α} : document read text = .ok a ↔ read.meaning v = some a := by
  obtain ⟨t, spelled, behind⟩ := spells
  have yields : (whole read).Yields (Cursor.start (Utf8.encode text)) (read.meaning v) [] := by
    rw [← Option.bind_fun_some (read.meaning v)]
    apply (reliable.steady v t _ spelled behind.stops_of_nil).bind
    intro a c₁ _ at₁
    apply (yields_peek_of_nil (at₁ ▸ behind)).then
    exact fun c₂ at₂ => yields_pure a at₂
  rw [document]
  cases made : read.meaning v with
  | none =>
      rw [made] at yields
      obtain ⟨failure, run⟩ := yields
      rw [run]
      exact iff_of_false nofun nofun
  | some a' =>
      rw [made] at yields
      obtain ⟨c', run, -⟩ := yields
      rw [run, Option.some.injEq]
      exact Except.ok.injEq a' a ▸ Iff.rfl

/-- A text that is read spells a value. -/
theorem Scan.Reliable.spells (reliable : read.Reliable) {text : String} {a : α}
    (ok : document read text = .ok a) : ∃ v, Spells v text := by
  have leaves : (whole read).Leaves (Cursor.start (Utf8.encode text)) fun _ _ =>
      ∃ v, Spells v text := by
    apply (reliable.takes _).bind
    rintro a c₁ ⟨v, spelled⟩
    apply (leaves_peek c₁).bind
    rintro _ c₂ ⟨blanks, rfl⟩
    split
    case isTrue => trivial
    case isFalse ended =>
      have nil : c₂.rest = [] := by simpa [Cursor.peek] using ended
      exact leaves_pure ⟨v, c₁.rest, spelled, nil ▸ blanks⟩
  rw [document] at ok
  cases run : (whole read).run (Cursor.start (Utf8.encode text)) with
  | error failure =>
      rw [run] at ok
      cases ok
  | ok reached => exact leaves.of_ok run

end SceneBench.Json
