import SceneBench.Json.Shape
import SceneBench.Proofs.Json.Meaning

/-!
# What shapes make of values

What a shape makes of an object is gathered member by member, and what it makes of a list field by
field. If its fields are read steadily, so is the shape: unknown members are looked over to their
end, and a value that is faulty as a whole is refused however it is spelled.
-/

namespace SceneBench.Json

namespace Shape

variable {α : Type} {c : Cursor} {v : Value} {t rest : List UInt8}

/-! ## What a shape makes of a value -/

/-- What comes of the members of an object, when some names have been given before. -/
def gather? (s : Shape α) : List (Literal × Value) → List String → α → Option α
  | [], given, value => if (s.missing? given).isSome then none else some value
  | (key, v) :: others, given, value =>
    key.text?.bind fun name =>
      match s.field? name with
      | none => s.gather? others given value
      | some f =>
        if given.contains name then none
        else (f.read.meaning v).bind fun change => s.gather? others (name :: given) (change value)

/-- What comes of items that stand for fields in their order. -/
def line? : List (Field α) → List Value → α → Option α
  | [], [], value => some value
  | [], _ :: _, _ => none
  | f :: fields, [], value => if f.isRequired then none else line? fields [] value
  | f :: fields, v :: items, value =>
    (f.read.meaning v).bind fun change => line? fields items (change value)

/-- What a shape makes of a value. -/
def made? (s : Shape α) : Value → Option α
  | .object members => s.gather? members [] s.blank
  | .list items => line? s.fields items s.blank
  | _ => none

theorem field?_mem {s : Shape α} {name : String} {f : Field α} (found : s.field? name = some f) :
    f ∈ s.fields := List.mem_of_find?_eq_some found

theorem yields_members {s : Shape α} (steady : ∀ f ∈ s.fields, f.read.Steady)
    {members : List (Literal × Value)} {isFirst : Bool} {bound between : List UInt8} {value : α}
    {given : List String} (elements : Elements (Member Spelled) isFirst members c.rest between)
    (closed : Blanks between (0x7D :: t)) (enough : members.length < bound.length) :
    (do Scan.close Closing.object (← s.members bound isFirst value given)).Yields c
      (s.gather? members given value) t := by
  induction members generalizing c isFirst bound value given with
  | nil =>
      obtain ⟨x, bound, rfl⟩ := List.exists_cons_of_length_pos enough
      cases elements with
      | nil =>
          rw [Shape.members, bind_assoc]
          apply (Scan.yields_nextKey_closing closed).then
          intro c₁ at₁
          rw [gather?]
          cases missing : s.missing? given with
          | none => exact Scan.yields_close_object (.of_eq at₁) (.ok value)
          | some f => exact Scan.yields_close_object (.of_eq at₁) (.error _)
  | cons m others ih =>
      obtain ⟨x, bound, rfl⟩ := List.exists_cons_of_length_pos (Nat.zero_lt_of_lt enough)
      obtain ⟨key, v⟩ := m
      obtain ⟨s₁, s₂, s₃, next, mark, spelled, more⟩ := Scan.exists_member elements
      have stops := more.stops (closed.stops (by decide))
      have enough' := Nat.lt_of_succ_lt_succ enough
      rw [Shape.members, bind_assoc, gather?]
      apply next.then
      intro c₁ at₁
      rw [if_pos rfl, bind_assoc]
      apply (Scan.yields_string key at₁).bind
      intro name c₂ _ at₂
      cases known : s.field? name with
      | none =>
          simp only [bind_assoc]
          apply (Scan.yields_colon (at₂ ▸ mark)).then
          intro c₃ at₃
          apply (Scan.yields_skipValue (at₃ ▸ spelled) stops).then
          exact fun c₄ at₄ => ih (at₄ ▸ more) enough'
      | some f =>
          dsimp only
          split
          · exact ⟨_, rfl⟩
          · simp only [bind_assoc]
            apply (Scan.yields_colon (at₂ ▸ mark)).then
            intro c₃ at₃
            apply (steady f (field?_mem known) v s₃ c₃ (at₃ ▸ spelled) stops).bind
            exact fun change c₄ _ at₄ => ih (at₄ ▸ more) enough'

theorem yields_inOrder {s : Shape α} {fields : List (Field α)}
    (steady : ∀ f ∈ fields, f.read.Steady) {items : List Value} {isFirst : Bool} {found : Nat}
    {between : List UInt8} {value : α} (first : isFirst = decide (found = 0))
    (elements : Elements Spelled isFirst items c.rest between)
    (closed : Blanks between (0x5D :: t)) :
    (do Scan.close Closing.list (← s.inOrder fields found value)).Yields c
      (line? fields items value) t := by
  induction fields generalizing c items isFirst found value between with
  | nil =>
      cases items with
      | nil =>
          cases elements with
          | nil => exact Scan.yields_close_list closed (.ok value)
      | cons v others => exact Scan.fails_close_list elements (.ok value)
  | cons f fields ih =>
      obtain ⟨here, steady⟩ := List.forall_mem_cons.mp steady
      rw [inOrder, bind_assoc, ← first]
      cases items with
      | nil =>
          cases elements with
          | nil =>
              apply (Scan.yields_nextElement_closing closed).then
              intro c₁ at₁
              rw [line?, if_neg Bool.false_ne_true]
              split
              · exact Scan.yields_close_list (.of_eq at₁) (.error _)
              · exact ih steady first .nil (.of_eq at₁)
      | cons v others =>
          obtain ⟨s₁, s₂, next, spelled, more⟩ := Scan.exists_element elements
          apply next.then
          intro c₁ at₁
          rw [line?, if_pos rfl, bind_assoc]
          have stops := more.stops (closed.stops (by decide))
          apply (here v s₂ c₁ (at₁ ▸ spelled) stops).bind
          have first' : false = decide (found + 1 = 0) := by simp
          exact fun change c₂ _ at₂ => ih steady first' (at₂ ▸ more) closed

/-- A shape of steady fields is read steadily. -/
theorem means_read {s : Shape α} (steady : ∀ f ∈ s.fields, f.read.Steady) :
    s.read.Means s.made? := by
  intro v t c spelled stops
  obtain ⟨b, u, blanks, begins, spelled⟩ := spelled.begins
  apply Scan.bind_valueStart blanks begins.isStart rfl
  intro c₁ at₁
  cases begins with
  | @object members =>
      cases spelled with
      | object opened elements closed =>
          obtain ⟨⟩ := opened.eq_of_visible rfl
          apply Scan.bind_advance at₁
          intro c₂ at₂
          have shorter := elements.length_le fun m _ s t spelled =>
            spelled.length_lt fun _ value => value.length_lt
          have behind := closed.length_lt
          have enough : members.length < u.length := by omega
          rw [made?]
          apply Scan.bind_get
          rw [at₂]
          exact yields_members steady (at₂ ▸ elements) closed enough
  | @list items =>
      cases spelled with
      | list opened elements closed =>
          obtain ⟨⟩ := opened.eq_of_visible rfl
          apply Scan.bind_advance at₁
          intro c₂ at₂
          have first : true = decide (0 = 0) := rfl
          exact yields_inOrder steady first (at₂ ▸ elements) closed
  | digit natural digit =>
      split
      case h_1 same => exact absurd same (Scan.charOf_ne_of_isDigit digit rfl)
      case h_2 same => exact absurd same (Scan.charOf_ne_of_isDigit digit rfl)
      case h_3 => exact Scan.fails_mismatch _ c₁ t
  | _ => exact Scan.fails_mismatch _ c₁ t

end Shape

end SceneBench.Json
