import SceneBench.Proofs.Json.Literals
import SceneBench.Proofs.Json.Numerals

/-!
# Values and their spellings

A value is a document without the blanks between its tokens. A spelling of it puts any blanks there.
Spellings are told by what a text is before and what is left of it behind the value, so that a
sequence of them needs no account of where one ends. Every value has a spelling without blanks.
-/

namespace SceneBench.Json

/-- A document, token by token. -/
inductive Value where
  | null
  | boolean (value : Bool)
  | number (numeral : Numeral)
  | string (literal : Literal)
  | list (items : List Value)
  | object (members : List (Literal × Value))

namespace Value

/-- Induction on how deep a value is. -/
@[elab_as_elim, induction_eliminator]
theorem induct {motive : Value → Prop} (null : motive .null)
    (boolean : ∀ value, motive (.boolean value)) (number : ∀ numeral, motive (.number numeral))
    (string : ∀ literal, motive (.string literal))
    (list : ∀ items, (∀ v ∈ items, motive v) → motive (.list items))
    (object : ∀ members, (∀ m ∈ members, motive m.2) → motive (.object members)) :
    ∀ v, motive v
  | .null => null
  | .boolean value => boolean value
  | .number numeral => number numeral
  | .string literal => string literal
  | .list items => list items fun v _ =>
      induct null boolean number string list object v
  | .object members => object members fun m _ =>
      induct null boolean number string list object m.2
decreasing_by
  · decreasing_tactic
  · have inside := List.sizeOf_lt_of_mem ‹m ∈ members›
    obtain ⟨key, v⟩ := m
    simp only [Prod.mk.sizeOf_spec, Value.object.sizeOf_spec] at inside ⊢
    omega

end Value

/-! ## Spellings -/

/-- Things that are spelled one after the other, with a comma in front of each but the first. -/
inductive Elements {α : Type} (Spelled : α → List UInt8 → List UInt8 → Prop) :
    Bool → List α → List UInt8 → List UInt8 → Prop
  | nil {isFirst : Bool} {s : List UInt8} : Elements Spelled isFirst [] s s
  | first {a : α} {all : List α} {s s₁ t : List UInt8} (spelled : Spelled a s s₁)
      (others : Elements Spelled false all s₁ t) : Elements Spelled true (a :: all) s t
  | next {a : α} {all : List α} {s s₁ s₂ t : List UInt8} (comma : Blanks s (0x2C :: s₁))
      (spelled : Spelled a s₁ s₂) (others : Elements Spelled false all s₂ t) :
      Elements Spelled false (a :: all) s t

/-- A key, a colon and a value. -/
inductive Member (Spelled : Value → List UInt8 → List UInt8 → Prop) :
    Literal × Value → List UInt8 → List UInt8 → Prop
  | mk {key : Literal} {v : Value} {s s₁ s₂ t : List UInt8}
      (quote : Blanks s (0x22 :: (key.bytes ++ 0x22 :: s₁))) (colon : Blanks s₁ (0x3A :: s₂))
      (value : Spelled v s₂ t) : Member Spelled (key, v) s t

/-- A text begins with a value, behind any blanks, and goes on with another text. -/
inductive Spelled : Value → List UInt8 → List UInt8 → Prop
  | null {s t : List UInt8} (word : Blanks s ([0x6E, 0x75, 0x6C, 0x6C] ++ t)) : Spelled .null s t
  | true {s t : List UInt8} (word : Blanks s ([0x74, 0x72, 0x75, 0x65] ++ t)) :
      Spelled (.boolean true) s t
  | false {s t : List UInt8} (word : Blanks s ([0x66, 0x61, 0x6C, 0x73, 0x65] ++ t)) :
      Spelled (.boolean false) s t
  | number {n : Numeral} {s t : List UInt8} (digits : Blanks s (n.bytes ++ t)) :
      Spelled (.number n) s t
  | string {l : Literal} {s t : List UInt8} (quoted : Blanks s (0x22 :: (l.bytes ++ 0x22 :: t))) :
      Spelled (.string l) s t
  | list {items : List Value} {s s₁ s₂ t : List UInt8} (opened : Blanks s (0x5B :: s₁))
      (elements : Elements Spelled Bool.true items s₁ s₂) (closed : Blanks s₂ (0x5D :: t)) :
      Spelled (.list items) s t
  | object {members : List (Literal × Value)} {s s₁ s₂ t : List UInt8}
      (opened : Blanks s (0x7B :: s₁))
      (elements : Elements (Member Spelled) Bool.true members s₁ s₂)
      (closed : Blanks s₂ (0x7D :: t)) : Spelled (.object members) s t

/-- A text is a document: a value with nothing but blanks behind it. -/
def Spells (v : Value) (text : String) : Prop :=
  ∃ t, Spelled v (Utf8.encode text) t ∧ Blanks t []

/-! ## Where values can end -/

theorem Blanks.stops {b : UInt8} {s t : List UInt8} (blanks : Blanks s (b :: t))
    (ends : b = 0x2C ∨ b = 0x5D ∨ b = 0x7D) : Stops s := by
  cases blanks with
  | none => exact stops_cons (.inr ends)
  | more blank further => exact stops_cons (.inl blank)

theorem Blanks.stops_of_nil {s : List UInt8} (blanks : Blanks s []) : Stops s := by
  cases blanks with
  | none => exact stops_nil
  | more blank further => exact stops_cons (.inl blank)

/-- An element ends where another one or the closing bracket comes. -/
theorem Elements.stops {α : Type} {Spelled : α → List UInt8 → List UInt8 → Prop} {all : List α}
    {s t : List UInt8} (elements : Elements Spelled false all s t) (stops : Stops t) : Stops s := by
  cases elements with
  | nil => exact stops
  | next comma _ _ => exact comma.stops (.inl rfl)

/-! ## Lengths -/

theorem Blanks.length_le {s t : List UInt8} (blanks : Blanks s t) : t.length ≤ s.length := by
  induction blanks with
  | none => exact Nat.le_refl _
  | more _ _ ih => exact Nat.le_succ_of_le ih

theorem Blanks.length_lt {b : UInt8} {s t : List UInt8} (blanks : Blanks s (b :: t)) :
    t.length < s.length :=
  blanks.length_le

theorem Elements.length_le {α : Type} {Spelled : α → List UInt8 → List UInt8 → Prop}
    {isFirst : Bool} {all : List α} {s t : List UInt8}
    (each : ∀ a ∈ all, ∀ s t, Spelled a s t → t.length < s.length)
    (elements : Elements Spelled isFirst all s t) : all.length + t.length ≤ s.length := by
  induction elements with
  | nil => simp
  | first spelled others ih =>
      obtain ⟨here, each⟩ := List.forall_mem_cons.mp each
      have shorter := here _ _ spelled
      have further := ih each
      rw [List.length_cons]
      omega
  | next comma spelled others ih =>
      obtain ⟨here, each⟩ := List.forall_mem_cons.mp each
      have shorter := here _ _ spelled
      have before := comma.length_lt
      have further := ih each
      rw [List.length_cons]
      omega

theorem Member.length_lt {Spelled : Value → List UInt8 → List UInt8 → Prop} {m : Literal × Value}
    {s t : List UInt8} (spelled : Member Spelled m s t)
    (value : ∀ s, Spelled m.2 s t → t.length < s.length) : t.length < s.length := by
  obtain ⟨quote, colon, v⟩ := spelled
  have quoted := quote.length_le
  have marked := colon.length_lt
  have shorter := value _ v
  simp only [List.length_cons, List.length_append] at quoted
  omega

/-- Nothing is spelled by no byte. -/
theorem Spelled.length_lt {v : Value} {s t : List UInt8} (spelled : Spelled v s t) :
    t.length < s.length := by
  induction v generalizing s t with
  | null =>
      obtain ⟨word⟩ := spelled
      exact Nat.lt_of_lt_of_le (by simp; omega) word.length_le
  | boolean value =>
      cases spelled with
      | true word => exact Nat.lt_of_lt_of_le (by simp; omega) word.length_le
      | false word => exact Nat.lt_of_lt_of_le (by simp; omega) word.length_le
  | number n =>
      cases spelled with
      | number digits =>
          have some' := List.length_pos_iff.mpr n.whole.some'
          have before := digits.length_le
          simp only [Numeral.bytes, Numeral.unsigned, List.length_append] at before
          omega
  | string l =>
      cases spelled with
      | string quoted =>
          exact Nat.lt_of_lt_of_le (by simp; omega) quoted.length_le
  | list items ih =>
      cases spelled with
      | list opened elements closed =>
          have inside := elements.length_le fun v listed s t => ih v listed
          have before := opened.length_lt
          have behind := closed.length_lt
          omega
  | object members ih =>
      cases spelled with
      | object opened elements closed =>
          have inside := elements.length_le fun m listed s t spelled =>
            spelled.length_lt fun s => ih m listed
          have before := opened.length_lt
          have behind := closed.length_lt
          omega

/-! ## Where values begin -/

/-- The bytes that a value can begin with. -/
def isStart (b : UInt8) : Bool :=
  b ∈ ([0x6E, 0x74, 0x66, 0x22, 0x5B, 0x7B, 0x2D] : List UInt8) || Number.isDigit b

theorem isStart_of_isDigit {d : UInt8} (digit : Number.isDigit d) : isStart d := by
  rw [isStart, digit, Bool.or_true]

theorem not_isStart {b b' : UInt8} (starts : isStart b) (other : isStart b' = false) :
    charOf b ≠ charOf b' := fun same => by
  rw [charOf_inj same, other] at starts
  cases starts

theorem isBlank_of_isStart {b : UInt8} (starts : isStart b) : Cursor.isBlank b = false := by
  cases blank : Cursor.isBlank b with
  | false => rfl
  | true =>
      simp only [Cursor.isBlank, Bool.or_eq_true, decide_eq_true_eq] at blank
      rcases blank with ((rfl | rfl) | rfl) | rfl <;> cases starts

/-- The byte that a value begins with tells of what kind it is. -/
inductive Value.Begins : Value → UInt8 → Prop
  | null : Begins .null 0x6E
  | true : Begins (.boolean true) 0x74
  | false : Begins (.boolean false) 0x66
  | minus {n : Numeral} (negative : n.isNegative = Bool.true) : Begins (.number n) 0x2D
  | digit {n : Numeral} {d : UInt8} (natural : n.isNegative = Bool.false)
      (digit : Number.isDigit d) : Begins (.number n) d
  | string {l : Literal} : Begins (.string l) 0x22
  | list {items : List Value} : Begins (.list items) 0x5B
  | object {members : List (Literal × Value)} : Begins (.object members) 0x7B

theorem Value.Begins.isStart {v : Value} {b : UInt8} (begins : v.Begins b) : isStart b := by
  cases begins with
  | digit _ digit => exact isStart_of_isDigit digit
  | _ => rfl

theorem Numeral.exists_digit (n : Numeral) :
    ∃ d s, n.unsigned = d :: s ∧ Number.isDigit d := by
  obtain ⟨d, more, split⟩ := List.exists_cons_of_ne_nil n.whole.some'
  have digit := n.whole.digits d (by rw [split]; exact List.mem_cons_self)
  rw [unsigned, split]
  exact ⟨_, _, rfl, digit⟩

theorem Numeral.begins (n : Numeral) : ∃ b s, n.bytes = b :: s ∧ (Value.number n).Begins b := by
  rw [bytes]
  cases sign : n.isNegative with
  | true => exact ⟨_, _, rfl, .minus sign⟩
  | false =>
      obtain ⟨d, s, split, digit⟩ := n.exists_digit
      exact ⟨d, s, split, .digit sign digit⟩

/-- Behind blanks a value begins. -/
theorem Spelled.begins {v : Value} {s t : List UInt8} (spelled : Spelled v s t) :
    ∃ b s', Blanks s (b :: s') ∧ v.Begins b ∧ Spelled v (b :: s') t := by
  cases spelled with
  | null word => exact ⟨_, _, word, .null, .null .none⟩
  | true word => exact ⟨_, _, word, .true, .true .none⟩
  | false word => exact ⟨_, _, word, .false, .false .none⟩
  | @number n _ _ digits =>
      obtain ⟨b, s', split, begins⟩ := n.begins
      refine ⟨b, s' ++ t, ?_, begins, .number ?_⟩
      · rwa [split] at digits
      · rw [split]
        exact .none
  | string quoted => exact ⟨_, _, quoted, .string, .string .none⟩
  | list opened elements closed => exact ⟨_, _, opened, .list, .list .none elements closed⟩
  | object opened elements closed => exact ⟨_, _, opened, .object, .object .none elements closed⟩

theorem Spelled.starts {v : Value} {s t : List UInt8} (spelled : Spelled v s t) :
    ∃ b s', Blanks s (b :: s') ∧ isStart b ∧ Spelled v (b :: s') t := by
  obtain ⟨b, s', blanks, begins, spelled'⟩ := spelled.begins
  exact ⟨b, s', blanks, begins.isStart, spelled'⟩

theorem Member.starts {Spelled : Value → List UInt8 → List UInt8 → Prop} {m : Literal × Value}
    {s t : List UInt8} (spelled : Member Spelled m s t) :
    ∃ b s', Blanks s (b :: s') ∧ isStart b ∧ Member Spelled m (b :: s') t := by
  obtain ⟨quote, colon, value⟩ := spelled
  exact ⟨_, _, quote, rfl, .mk .none colon value⟩

/-! ## Without blanks -/

namespace Value

mutual

/-- The spelling of a value without blanks. -/
def compact : Value → List UInt8
  | null => [0x6E, 0x75, 0x6C, 0x6C]
  | boolean true => [0x74, 0x72, 0x75, 0x65]
  | boolean false => [0x66, 0x61, 0x6C, 0x73, 0x65]
  | number n => n.bytes
  | string l => 0x22 :: (l.bytes ++ [0x22])
  | list items => 0x5B :: (compactItems true items ++ [0x5D])
  | object members => 0x7B :: (compactMembers true members ++ [0x7D])

def compactItems (isFirst : Bool) : List Value → List UInt8
  | [] => []
  | v :: all => (if isFirst then [] else [0x2C]) ++ v.compact ++ compactItems false all

def compactMembers (isFirst : Bool) : List (Literal × Value) → List UInt8
  | [] => []
  | (key, v) :: all =>
    (if isFirst then [] else [0x2C]) ++ 0x22 :: (key.bytes ++ [0x22, 0x3A]) ++ v.compact ++
      compactMembers false all

end

theorem elements_compactItems {items : List Value}
    (each : ∀ v ∈ items, ∀ t, Spelled v (v.compact ++ t) t) (isFirst : Bool) (t : List UInt8) :
    Elements Spelled isFirst items (compactItems isFirst items ++ t) t := by
  induction items generalizing isFirst with
  | nil => exact .nil
  | cons v all ih =>
      obtain ⟨spelled, each⟩ := List.forall_mem_cons.mp each
      simp only [compactItems, List.append_assoc]
      cases isFirst with
      | true => exact .first (spelled _) (ih each false)
      | false => exact .next .none (spelled _) (ih each false)

theorem elements_compactMembers {members : List (Literal × Value)}
    (each : ∀ m ∈ members, ∀ t, Spelled m.2 (m.2.compact ++ t) t) (isFirst : Bool)
    (t : List UInt8) :
    Elements (Member Spelled) isFirst members (compactMembers isFirst members ++ t) t := by
  induction members generalizing isFirst with
  | nil => exact .nil
  | cons m all ih =>
      obtain ⟨key, v⟩ := m
      obtain ⟨spelled, each⟩ := List.forall_mem_cons.mp each
      simp only [compactMembers, List.append_assoc, List.cons_append]
      cases isFirst with
      | true => exact .first (.mk .none .none (spelled _)) (ih each false)
      | false => exact .next .none (.mk .none .none (spelled _)) (ih each false)

/-- A value is spelled by its tokens alone. -/
theorem spelled_compact (v : Value) (t : List UInt8) : Spelled v (v.compact ++ t) t := by
  induction v generalizing t with
  | null => exact .null .none
  | boolean value =>
      cases value with
      | true => exact .true .none
      | false => exact .false .none
  | number n => exact .number .none
  | string l =>
      rw [compact, List.cons_append, List.append_assoc]
      exact .string .none
  | list items ih =>
      rw [compact, List.cons_append, List.append_assoc]
      exact .list .none (elements_compactItems ih true _) .none
  | object members ih =>
      rw [compact, List.cons_append, List.append_assoc]
      exact .object .none (elements_compactMembers ih true _) .none

end Value

theorem spells_compact {v : Value} {text : String} (same : Utf8.encode text = v.compact) :
    Spells v text := by
  refine ⟨[], ?_, .none⟩
  rw [same, ← List.append_nil v.compact]
  exact v.spelled_compact []

end SceneBench.Json
