import SceneBench.Json.Reader
import SceneBench.Proofs.Json.Skipping

/-!
# What readers make of values

A steady reader makes the same of every spelling of a value, and leaves what comes behind it: blanks
do not matter, and neither does the place. So what it makes of a value is told by the spelling
without blanks. All readers of single values and of lists are steady if those are that they are made
of.
-/

namespace SceneBench.Json

variable {α β : Type} {c : Cursor} {v : Value} {s t rest : List UInt8}

namespace Scan

/-- What a reader makes of a value, if anything. -/
def meaning (read : Scan α) (v : Value) : Option α :=
  ((read.run (Cursor.start v.compact)).toOption).map Prod.fst

/-- A reader makes of every spelling of a value what is said, or nothing, and leaves the rest. -/
def Means (read : Scan α) (meant : Value → Option α) : Prop :=
  ∀ v t c, Spelled v c.rest t → Stops t → read.Yields c (meant v) t

/-- A reader makes of every spelling of a value what it makes of that without blanks. -/
def Steady (read : Scan α) : Prop := read.Means read.meaning

variable {read : Scan α} {meant : Value → Option α}

theorem Means.meaning_eq (means : read.Means meant) (v : Value) : read.meaning v = meant v := by
  have spelled : Spelled v (Cursor.start v.compact).rest [] := by
    have whole := v.spelled_compact []
    rwa [List.append_nil] at whole
  have yields := means v [] _ spelled stops_nil
  rw [meaning]
  cases result : meant v with
  | none =>
      rw [result] at yields
      obtain ⟨failure, run⟩ := yields
      rw [run]
      rfl
  | some a =>
      rw [result] at yields
      obtain ⟨c', run, -⟩ := yields
      rw [run]
      rfl

theorem Means.steady (means : read.Means meant) : read.Steady := by
  have same : read.meaning = meant := funext means.meaning_eq
  rw [Steady, same]
  exact means

theorem Steady.map (steady : read.Steady) (f : α → β) :
    (f <$> read).Means fun v => (read.meaning v).map f :=
  fun v t c spelled stops => (steady v t c spelled stops).map f

/-! ## What stands where something else was expected -/

/-- Whatever stands there, it is not what was expected. -/
theorem fails_mismatch (expected : String) : (mismatch expected : Scan α).Fails := by
  intro c rest
  apply bind_get
  split
  · exact fails_bind _ (fun _ => fails_bind _ fun _ => fails_failHere _) c rest
  · exact fails_bind _ (fun _ => fails_bind _ fun _ => fails_failHere _) c rest
  · exact fails_bind _ (fun _ => fails_bind _ fun _ => fails_failHere _) c rest
  · exact fails_bind _ (fun _ => fails_bind _ fun _ => fails_failHere _) c rest
  · exact fails_failHere _ c rest
  · exact fails_failHere _ c rest
  · exact fails_bind _ (fun _ => fails_bind _ fun _ => fails_failHere _) c rest
  · split
    · exact fails_bind _ (fun _ => fails_failHere _) c rest
    · exact fails_failAhead _ c rest
  · exact fails_failAhead _ c rest

theorem bind_valueStart {next : Char → Scan β} {answer : Option β} {b : UInt8} {ch : Char}
    (begins : Blanks c.rest (b :: s)) (starts : isStart b) (is : charOf b = ch)
    (then' : ∀ c', c'.rest = b :: s → (next ch).Yields c' answer rest) :
    (valueStart >>= next).Yields c answer rest := by
  have start : valueStart.Yields c (some ch) (b :: s) := by
    apply bind_peek begins (isBlank_of_isStart starts) is
    exact fun c' at' => yields_pure ch at'
  exact start.then then'

/-- A digit is no character of another kind. -/
theorem charOf_ne_of_isDigit {d : UInt8} {ch : Char} (digit : Number.isDigit d)
    (other : ch.isDigit = false) : charOf d ≠ ch := fun same => by
  rw [← same, isDigit_charOf, digit] at other
  cases other

end Scan

/-! ## Single values -/

namespace Value

def number? : Value → Option Number
  | number n => n.value?
  | _ => none

/-- A natural number of 32 bits. -/
def word32? (v : Value) : Option UInt32 :=
  v.number?.bind fun
    | .natural n => if n < 2 ^ 32 then some (UInt32.ofNat n) else none
    | _ => none

def scalar? (v : Value) : Option Scalar :=
  v.number?.map fun
    | .natural n => Scalar.ofNat n
    | .negative n => -Scalar.ofNat n
    | .real x => Scalar.ofFloat x

def text? : Value → Option String
  | string l => l.text?
  | _ => none

/-- Nothing, or what is made of the value. -/
def optional? (meant : Value → Option α) : Value → Option (Option α)
  | null => some none
  | v => (meant v).map some

def unit? : Value → Option Unit
  | null => some ()
  | _ => none

/-- One of several things, by its name or by an object with nothing under its name. -/
def variant? (all : List α) (tag : α → String) : Value → Option α
  | string l => l.text?.bind fun name => all.find? fun a => tag a = name
  | object [(key, v)] =>
    key.text?.bind fun name => (all.find? fun a => tag a = name).bind fun a =>
      v.unit?.bind fun _ => some a
  | _ => none

/-- A second member is one too many. -/
theorem variant?_object_cons (all : List α) (tag : α → String) (key : Literal) (v : Value)
    (others : List (Literal × Value)) :
    variant? all tag (object ((key, v) :: others)) =
      key.text?.bind fun name => (all.find? fun a => tag a = name).bind fun a =>
        v.unit?.bind fun _ => if others.isEmpty then some a else none := by
  cases others with
  | nil => rfl
  | cons m more => simp [variant?]

end Value

namespace Scan

theorem means_anyNumber (expected : String) : (anyNumber expected).Means Value.number? := by
  intro v t c spelled stops
  obtain ⟨b, s, blanks, begins, spelled⟩ := spelled.begins
  apply bind_valueStart blanks begins.isStart rfl
  intro c₁ at₁
  cases begins with
  | @minus n negative =>
      cases spelled with
      | number digits =>
          rw [← digits.eq_of_visible rfl, Numeral.bytes, negative] at at₁
          apply bind_advance at₁
          intro c₂ at₂
          have yields := yields_number n at₂ stops
          rwa [negative] at yields
  | @digit n d natural digit =>
      cases spelled with
      | number digits =>
          rw [← digits.eq_of_visible (isBlank_of_isStart (isStart_of_isDigit digit)),
            Numeral.bytes, natural] at at₁
          have yields := yields_number n at₁ stops
          rw [natural] at yields
          rw [if_neg (charOf_ne_of_isDigit digit rfl), if_pos (by rw [isDigit_charOf, digit])]
          exact yields
  | _ => exact fails_mismatch expected c₁ t

theorem means_word32 : word32.Means Value.word32? := by
  intro v t c spelled stops
  apply (means_anyNumber "u32" v t c spelled stops).bind
  intro x c₁ _ at₁
  cases x with
  | natural n =>
      dsimp only
      split
      · exact yields_pure _ at₁
      · exact yields_failHere _
  | negative | real => exact yields_failHere _

theorem means_scalar : scalar.Means Value.scalar? := by
  intro v t c spelled stops
  rw [Value.scalar?, Option.map_eq_bind]
  apply (means_anyNumber "f32" v t c spelled stops).bind
  intro x c₁ _ at₁
  cases x <;> exact yields_pure _ at₁

/-- Behind its opening quote a string is read. -/
theorem yields_string_of_spelled {l : Literal} (spelled : Spelled (.string l) (0x22 :: s) t)
    (at' : c.rest = s) : string.Yields c l.text? t := by
  cases spelled with
  | string quoted =>
      have same := quoted.eq_of_visible rfl
      apply yields_string l
      rw [at', (List.cons.inj same).2]

theorem means_text (expected : String) : (text expected).Means Value.text? := by
  intro v t c spelled stops
  obtain ⟨b, s, blanks, begins, spelled⟩ := spelled.begins
  apply bind_valueStart blanks begins.isStart rfl
  intro c₁ at₁
  cases begins with
  | string =>
      apply bind_advance at₁
      exact fun c₂ at₂ => yields_string_of_spelled spelled at₂
  | digit natural digit =>
      rw [if_neg (charOf_ne_of_isDigit digit rfl)]
      exact fails_mismatch expected c₁ t
  | _ => exact fails_mismatch expected c₁ t

theorem means_optional {read : Scan α} {meant : Value → Option α} (means : read.Means meant) :
    (optional read).Means (Value.optional? meant) := by
  intro v t c spelled stops
  obtain ⟨b, s, blanks, begins, spelled⟩ := spelled.begins
  apply bind_peek blanks (isBlank_of_isStart begins.isStart) rfl
  intro c₁ at₁
  have further := (means v t c₁ (at₁ ▸ spelled) stops).map some
  rw [map_eq_pure_bind] at further
  cases begins with
  | null =>
      cases spelled with
      | null word =>
          rw [← word.eq_of_visible rfl] at at₁
          apply bind_advance at₁
          intro c₂ at₂
          exact (yields_word [0x75, 0x6C, 0x6C] at₂).then fun c₃ at₃ => yields_pure none at₃
  | digit natural digit =>
      have other := charOf_ne_of_isDigit digit (show 'n'.isDigit = false from rfl)
      split
      case h_1 same => exact absurd (Option.some.inj same) other
      case h_2 => exact further
  | _ => exact further

theorem means_unit : unit.Means Value.unit? := by
  intro v t c spelled stops
  obtain ⟨b, s, blanks, begins, spelled⟩ := spelled.begins
  apply bind_valueStart blanks begins.isStart rfl
  intro c₁ at₁
  cases begins with
  | null =>
      cases spelled with
      | null word =>
          rw [← word.eq_of_visible rfl] at at₁
          exact bind_advance at₁ fun c₂ at₂ => yields_word [0x75, 0x6C, 0x6C] at₂
  | digit natural digit =>
      rw [if_neg (charOf_ne_of_isDigit digit rfl)]
      exact fails_mismatch "unit" c₁ t
  | _ => exact fails_mismatch "unit" c₁ t

/-! ## Keys -/

theorem yields_nextKey_closing {isFirst : Bool} (closed : Blanks c.rest (0x7D :: t)) :
    (nextKey isFirst).Yields c (some false) (0x7D :: t) := by
  apply bind_peek closed rfl rfl
  exact fun c₁ at₁ => yields_pure false at₁

/-- The next member of an object comes apart into its key and its value. -/
theorem exists_member {isFirst : Bool} {key : Literal} {others : List (Literal × Value)}
    (elements : Elements (Member Spelled) isFirst ((key, v) :: others) c.rest t) :
    ∃ s₁ s₂ s₃, (nextKey isFirst).Yields c (some true) (key.bytes ++ 0x22 :: s₁) ∧
      Blanks s₁ (0x3A :: s₂) ∧ Spelled v s₂ s₃ ∧ Elements (Member Spelled) false others s₃ t := by
  cases elements with
  | first member others =>
      obtain ⟨quote, mark, value⟩ := member
      refine ⟨_, _, _, ?_, mark, value, others⟩
      apply bind_peek quote rfl rfl
      intro c₁ at₁
      apply bind_peek (.of_eq at₁) rfl rfl
      intro c₂ at₂
      exact bind_advance at₂ fun c₃ at₃ => yields_pure true at₃
  | next comma member others =>
      obtain ⟨quote, mark, value⟩ := member
      refine ⟨_, _, _, ?_, mark, value, others⟩
      apply bind_peek comma rfl rfl
      intro c₁ at₁
      apply bind_advance at₁
      intro c₂ at₂
      apply bind_peek (at₂ ▸ quote) rfl rfl
      intro c₃ at₃
      exact bind_advance at₃ fun c₄ at₄ => yields_pure true at₄

/-! ## One of several things -/

theorem yields_named (all : List α) (tag : α → String) (name : String) (at' : c.rest = rest) :
    (named all tag name).Yields c (all.find? fun a => tag a = name) rest := by
  rw [named]
  cases all.find? fun a => tag a = name with
  | none => exact yields_failHere _
  | some a => exact yields_pure a at'

theorem means_variant (all : List α) (tag : α → String) :
    (variant all tag).Means (Value.variant? all tag) := by
  intro v t c spelled stops
  obtain ⟨b, s, blanks, begins, spelled⟩ := spelled.begins
  apply bind_valueStart blanks begins.isStart rfl
  intro c₁ at₁
  cases begins with
  | string =>
      apply bind_advance at₁
      intro c₂ at₂
      exact (yields_string_of_spelled spelled at₂).bind fun name c₃ _ at₃ =>
        yields_named all tag name at₃
  | @object members =>
      cases spelled with
      | object opened elements closed =>
          obtain ⟨⟩ := opened.eq_of_visible rfl
          apply bind_advance at₁
          intro c₂ at₂
          cases members with
          | nil =>
              cases elements with
              | nil =>
                  apply (yields_nextKey_closing (at₂ ▸ closed)).then
                  exact fun c₃ _ => (yields_failAhead _).fail
          | cons m others =>
              obtain ⟨key, v⟩ := m
              obtain ⟨s₃, s₄, s₅, next, mark, value, rest⟩ := exists_member (at₂ ▸ elements)
              rw [Value.variant?_object_cons]
              apply next.then
              intro c₃ at₃
              simp only [Bool.not_true, Bool.false_eq_true, if_false]
              apply (yields_string key at₃).bind
              intro name c₄ _ at₄
              apply (yields_named all tag name at₄).bind
              intro a c₅ _ at₅
              apply (yields_colon (at₅ ▸ mark)).then
              intro c₆ at₆
              apply (means_unit v s₅ c₆ (at₆ ▸ value) (rest.stops (closed.stops (by decide)))).bind
              intro _ c₇ _ at₇
              cases rest with
              | nil =>
                  apply bind_peek (at₇ ▸ closed) rfl rfl
                  intro c₈ at₈
                  exact bind_advance at₈ fun c₉ at₉ => yields_pure a at₉
              | next comma _ _ =>
                  apply bind_peek (at₇ ▸ comma) rfl rfl
                  exact fun c₈ _ => yields_failHere _
  | digit natural digit =>
      split
      case h_1 same => exact absurd same (charOf_ne_of_isDigit digit rfl)
      case h_2 same => exact absurd same (charOf_ne_of_isDigit digit rfl)
      case h_3 => exact yields_failAhead _
  | _ => exact fails_failAhead _ c₁ t

/-! ## Ends of brackets -/

theorem yields_close {ending : Cursor → Closing} {reached : Cursor}
    (found : ending c = ⟨reached, none⟩) (value : Except Fault α) :
    (close ending value).Yields c value.toOption reached.rest := by
  have same : (close ending value).run c =
      match value with
      | .error fault => .error (reached.here fault)
      | .ok a => .ok (a, reached) := by
    show close ending value c = _
    cases value <;> simp only [close, found]
  cases value with
  | error fault => exact ⟨_, same⟩
  | ok a => exact ⟨_, same, rfl⟩

theorem fails_close {ending : Cursor → Closing} {reached : Cursor} {failure : Failure}
    (found : ending c = ⟨reached, some failure⟩) (value : Except Fault α) :
    (close ending value).Yields c none rest := by
  have same : (close ending value).run c =
      match value with
      | .error fault => .error (reached.here fault)
      | .ok _ => .error failure := by
    show close ending value c = _
    cases value <;> simp only [close, found]
  cases value with
  | error fault => exact ⟨_, same⟩
  | ok a => exact ⟨_, same⟩

theorem yields_close_list (closed : Blanks c.rest (0x5D :: t)) (value : Except Fault α) :
    (close Closing.list value).Yields c value.toOption t := by
  have at' := closed.rest_skipBlanks rfl
  have found : Closing.list c = ⟨c.skipBlanks.next, none⟩ := by
    simp only [Closing.list, Cursor.peek_of_cons at']
    rfl
  have behind : c.skipBlanks.next.rest = t := by rw [Cursor.rest_next, at', List.tail_cons]
  exact behind ▸ yields_close found value

/-- An element is no end of a list. -/
theorem fails_close_list {isFirst : Bool} {others : List Value}
    (elements : Elements Spelled isFirst (v :: others) c.rest s) (value : Except Fault α) :
    (close Closing.list value).Yields c none t := by
  obtain ⟨b, s', begins, visible, other⟩ : ∃ b s', Blanks c.rest (b :: s') ∧
      Cursor.isBlank b = false ∧ charOf b ≠ charOf 0x5D := by
    cases elements with
    | first spelled others =>
        obtain ⟨b, s', blanks, starts, -⟩ := spelled.starts
        exact ⟨b, s', blanks, isBlank_of_isStart starts, not_isStart starts rfl⟩
    | next comma spelled others => exact ⟨_, _, comma, rfl, by decide⟩
  have at' := begins.rest_skipBlanks visible
  obtain ⟨reached, failure, found⟩ : ∃ reached failure,
      Closing.list c = ⟨reached, some failure⟩ := by
    simp only [Closing.list, Cursor.peek_of_cons at']
    split
    case h_1 same => exact absurd (Option.some.inj same) other
    case h_4 same => cases same
    all_goals exact ⟨_, _, rfl⟩
  exact fails_close found value

theorem yields_close_object (closed : Blanks c.rest (0x7D :: t)) (value : Except Fault α) :
    (close Closing.object value).Yields c value.toOption t := by
  have at' := closed.rest_skipBlanks rfl
  have found : Closing.object c = ⟨c.skipBlanks.next, none⟩ := by
    simp only [Closing.object, Cursor.peek_of_cons at']
    rfl
  have behind : c.skipBlanks.next.rest = t := by rw [Cursor.rest_next, at', List.tail_cons]
  exact behind ▸ yields_close found value

/-! ## Lists -/

theorem yields_nextElement_closing {isFirst : Bool} (closed : Blanks c.rest (0x5D :: t)) :
    (nextElement isFirst).Yields c (some false) (0x5D :: t) := by
  apply bind_peek closed rfl rfl
  exact fun c₁ at₁ => yields_pure false at₁

/-- The next element of a list comes first in what is left of it. -/
theorem exists_element {isFirst : Bool} {others : List Value}
    (elements : Elements Spelled isFirst (v :: others) c.rest t) :
    ∃ s₁ s₂, (nextElement isFirst).Yields c (some true) s₁ ∧ Spelled v s₁ s₂ ∧
      Elements Spelled false others s₂ t := by
  cases elements with
  | first spelled others =>
      obtain ⟨b, s₁, blanks, starts, spelled⟩ := spelled.starts
      refine ⟨b :: s₁, _, ?_, spelled, others⟩
      have other : charOf b ≠ charOf 0x5D := not_isStart starts rfl
      apply bind_peek blanks (isBlank_of_isStart starts) rfl
      intro c₁ at₁
      split
      case h_1 same => cases same
      case h_2 same => exact absurd (Option.some.inj same) other
      case h_3 => exact yields_pure true at₁
  | next comma spelled others =>
      obtain ⟨b, s₁, blanks, starts, spelled⟩ := spelled.starts
      refine ⟨b :: s₁, _, ?_, spelled, others⟩
      apply bind_peek comma rfl rfl
      intro c₁ at₁
      apply bind_advance at₁
      intro c₂ at₂
      have other : charOf b ≠ charOf 0x5D := not_isStart starts rfl
      apply bind_peek (at₂ ▸ blanks) (isBlank_of_isStart starts) rfl
      intro c₃ at₃
      split
      case h_1 same => cases same
      case h_2 same => exact absurd (Option.some.inj same) other
      case h_3 => exact yields_pure true at₃

theorem yields_elements {read : Scan α} {meant : Value → Option α} (means : read.Means meant)
    {items : List Value} {isFirst : Bool} {bound s : List UInt8}
    (elements : Elements Spelled isFirst items c.rest s) (closed : Blanks s (0x5D :: t))
    (enough : items.length < bound.length) :
    (Scan.elements read bound isFirst).Yields c (items.mapM meant) (0x5D :: t) := by
  induction items generalizing c isFirst bound with
  | nil =>
      obtain ⟨x, bound, rfl⟩ := List.exists_cons_of_length_pos enough
      cases elements with
      | nil =>
          apply (yields_nextElement_closing closed).then
          exact fun c₁ at₁ => yields_pure [] at₁
  | cons v others ih =>
      obtain ⟨x, bound, rfl⟩ := List.exists_cons_of_length_pos (Nat.zero_lt_of_lt enough)
      obtain ⟨s₁, s₂, next, spelled, rest⟩ := exists_element elements
      rw [List.mapM_cons]
      apply next.then
      intro c₁ at₁
      apply (means v s₂ c₁ (at₁ ▸ spelled) (rest.stops (closed.stops (by decide)))).bind
      intro a c₂ _ at₂
      apply (ih (at₂ ▸ rest) (Nat.lt_of_succ_lt_succ enough)).bind
      exact fun all c₃ _ at₃ => yields_pure (a :: all) at₃

end Scan

/-- What is made of each item of a list. -/
def Value.items? (meant : Value → Option α) : Value → Option (List α)
  | list items => items.mapM meant
  | _ => none

namespace Scan

theorem means_list {read : Scan α} {meant : Value → Option α} (means : read.Means meant) :
    (list read).Means (Value.items? meant) := by
  intro v t c spelled stops
  obtain ⟨b, s, blanks, begins, spelled⟩ := spelled.begins
  apply bind_valueStart blanks begins.isStart rfl
  intro c₁ at₁
  cases begins with
  | @list items =>
      cases spelled with
      | list opened elements closed =>
          obtain ⟨⟩ := opened.eq_of_visible rfl
          apply bind_advance at₁
          intro c₂ at₂
          apply bind_get
          have shorter := elements.length_le fun v _ s t spelled => spelled.length_lt
          have behind := closed.length_lt
          rw [at₂]
          have enough : items.length < s.length := by omega
          have whole : Value.items? meant (.list items) = (items.mapM meant).bind fun all =>
              (Except.ok all : Except Fault (List α)).toOption := by
            cases all : items.mapM meant <;> simp [Value.items?, all, Except.toOption]
          rw [whole]
          exact (yields_elements means (at₂ ▸ elements) closed enough).bind
            fun all c₃ _ at₃ => yields_close_list (.of_eq at₃) (.ok all)
  | digit natural digit =>
      rw [if_neg (charOf_ne_of_isDigit digit rfl)]
      exact fails_mismatch _ c₁ t
  | _ => exact fails_mismatch _ c₁ t

/-- Elements are read one after the other up to a number of them, and then the end is looked for. -/
theorem yields_fixedElements {read : Scan α} {meant : Value → Option α}
    (means : read.Means meant) (expected : String) (k : List α → List β) {items : List Value}
    {isFirst : Bool} (count : Nat) {found : Nat} {s : List UInt8}
    (first : isFirst = decide (found = 0)) (elements : Elements Spelled isFirst items c.rest s)
    (closed : Blanks s (0x5D :: t)) :
    (do close Closing.list ((← fixedElements read expected count found).map k)).Yields c
      (if items.length = count then (items.mapM meant).map k else none) t := by
  induction count generalizing c items isFirst found k with
  | zero =>
      cases items with
      | nil =>
          cases elements with
          | nil => exact yields_close_list closed (.ok (k []))
      | cons v others => exact fails_close_list elements (.ok (k []))
  | succ count ih =>
      rw [fixedElements, bind_assoc, ← first]
      cases items with
      | nil =>
          cases elements with
          | nil =>
              apply (yields_nextElement_closing closed).then
              intro c₁ at₁
              exact yields_close_list (.of_eq at₁) (.error _)
      | cons v others =>
          obtain ⟨s₁, s₂, next, spelled, rest⟩ := exists_element elements
          apply next.then
          intro c₁ at₁
          simp only [if_true, bind_assoc, pure_bind]
          have answer : (if (v :: others).length = count + 1 then
                ((v :: others).mapM meant).map k else none) =
              (meant v).bind fun a =>
                if others.length = count then (others.mapM meant).map fun all => k (a :: all)
                else none := by
            rw [List.mapM_cons, List.length_cons]
            by_cases same : others.length = count
            · simp only [same, if_true]
              cases meant v with
              | none => rfl
              | some a => cases others.mapM meant <;> rfl
            · simp only [same, Nat.add_right_cancel_iff, if_false]
              cases meant v <;> rfl
          rw [answer]
          apply (means v s₂ c₁ (at₁ ▸ spelled) (rest.stops (closed.stops (by decide)))).bind
          intro a c₂ _ at₂
          have same (read : Except Fault (List α)) :
              (read.map (a :: ·)).map k = read.map fun all => k (a :: all) := by
            cases read <;> rfl
          simp only [same]
          exact ih (fun all => k (a :: all)) rfl (at₂ ▸ rest)

end Scan

/-- What is made of each item of a list that has as many of them as it should. -/
def Value.fixed? (meant : Value → Option α) (count : Nat) : Value → Option (List α)
  | list items => if items.length = count then items.mapM meant else none
  | _ => none

namespace Scan

theorem means_fixedList {read : Scan α} {meant : Value → Option α} (means : read.Means meant)
    (count : Nat) : (fixedList read count).Means (Value.fixed? meant count) := by
  intro v t c spelled stops
  obtain ⟨b, s, blanks, begins, spelled⟩ := spelled.begins
  apply bind_valueStart blanks begins.isStart rfl
  intro c₁ at₁
  cases begins with
  | @list items =>
      cases spelled with
      | list opened elements closed =>
          obtain ⟨⟩ := opened.eq_of_visible rfl
          apply bind_advance at₁
          intro c₂ at₂
          have first : true = decide (0 = 0) := rfl
          have closes := yields_fixedElements means s!"an array of length {count}" id count first
            (at₂ ▸ elements) closed
          have same (read : Except Fault (List α)) : read.map id = read := by cases read <;> rfl
          simp only [same, Option.map_id, id] at closes
          exact closes
  | digit natural digit =>
      rw [if_neg (charOf_ne_of_isDigit digit rfl)]
      exact fails_mismatch _ c₁ t
  | _ => exact fails_mismatch _ c₁ t

end Scan

end SceneBench.Json
