import SceneBench.Proofs.Json.Accounts

/-!
# Values with fields, spelled in other ways

A value with fields can be spelled in many ways: the members of an object in any order, with members
of unknown names and of fields that get what they have anyway, or without them, or as a list.
Whatever a shape makes of the value, it makes of all of them, and so it does if a part of the value
is spelled in another way.
-/

namespace SceneBench.Json

namespace Shape

variable {α : Type} {s : Shape α} {account : Account α} {before : List String}
  {members : List (Literal × Value)} {f : Field α} {a : α}

/-- What is read under a field that need not be given is what the blank value has there anyway. -/
def SpellsDefault (s : Shape α) (f : Field α) (v : Value) : Prop :=
  f.isRequired = false ∧ ∃ change, f.read.meaning v = some change ∧ change s.blank = s.blank

/-- A value can stand for a field in the list for an object: it stands under its name there, or none
does and it says what is there anyway. -/
def StandsFor (s : Shape α) (members : List (Literal × Value)) (f : Field α) (v : Value) : Prop :=
  (∃ key, (key, v) ∈ members ∧ key.text? = some f.name) ∨
    Absent members f.name ∧ s.SpellsDefault f v

/-- A field can be left out of the list for an object. -/
def CanLeave (s : Shape α) (members : List (Literal × Value)) (f : Field α) : Prop :=
  f.isRequired = false ∧ ∀ m ∈ members, m.1.text? = some f.name → s.SpellsDefault f m.2

/-- A list has the values of an object in the order of the fields, up to some that are left out. -/
structure Lists (s : Shape α) (members : List (Literal × Value)) (items : List Value) : Prop where
  length_le : items.length ≤ s.fields.length
  taken : ∀ (i : Nat) f v, s.fields[i]? = some f → items[i]? = some v → s.StandsFor members f v
  left : ∀ (i : Nat) f, s.fields[i]? = some f → items[i]? = none → s.CanLeave members f

/-- One step from a spelling of a value with fields to another. What is a step inside the value of a
field is given. -/
inductive Respells (s : Shape α) (Inside : Field α → Value → Value → Prop) : Value → Value → Prop
  | permute {members members' : List (Literal × Value)} (perm : members.Perm members') :
      Respells s Inside (.object members) (.object members')
  | unknown {front back : List (Literal × Value)} {key : Literal} {name : String} (v : Value)
      (named : key.text? = some name) (unknown : s.field? name = none) :
      Respells s Inside (.object (front ++ back)) (.object (front ++ (key, v) :: back))
  | addDefault {front back : List (Literal × Value)} {key : Literal} {v : Value} {f : Field α}
      (listed : f ∈ s.fields) (named : key.text? = some f.name)
      (absent : Absent (front ++ back) f.name) (default : s.SpellsDefault f v) :
      Respells s Inside (.object (front ++ back)) (.object (front ++ (key, v) :: back))
  | removeDefault {front back : List (Literal × Value)} {key : Literal} {v : Value} {f : Field α}
      (listed : f ∈ s.fields) (named : key.text? = some f.name) (default : s.SpellsDefault f v) :
      Respells s Inside (.object (front ++ (key, v) :: back)) (.object (front ++ back))
  | list {members : List (Literal × Value)} {items : List Value} (lists : s.Lists members items) :
      Respells s Inside (.object members) (.list items)
  | member {front back : List (Literal × Value)} {key : Literal} {v v' : Value} {f : Field α}
      (listed : f ∈ s.fields) (named : key.text? = some f.name) (inside : Inside f v v') :
      Respells s Inside (.object (front ++ (key, v) :: back)) (.object (front ++ (key, v') :: back))
  | item {items : List Value} {i : Nat} {f : Field α} {v v' : Value}
      (field : s.fields[i]? = some f) (item : items[i]? = some v) (inside : Inside f v v') :
      Respells s Inside (.list items) (.list (items.set i v'))

end Shape

/-- Whatever a reader makes of a value, it makes of the other as well. -/
def Scan.Keeps {α : Type} (read : Scan α) (Step : Value → Value → Prop) : Prop :=
  ∀ v v' a, Step v v' → read.meaning v = some a → read.meaning v' = some a

namespace Shape

variable {α : Type} {s : Shape α} {account : Account α} {before : List String}
  {members members' : List (Literal × Value)} {f : Field α} {a : α}

/-! ## Members -/

theorem Regular.meaning_object_iff (regular : s.Regular) :
    s.read.meaning (.object members) = some a ↔
      ∃ account, s.Gives [] members account ∧ s.settle account = a := by
  rw [regular.meaning_read]
  exact regular.gather?_eq_some_iff s.blank a

theorem Absent.perm {name : String} (perm : members.Perm members') :
    Absent members name ↔ Absent members' name := by
  simp only [Absent, perm.mem_iff]

theorem Gives.perm (perm : members.Perm members') (gives : s.Gives before members account) :
    s.Gives before members' account where
  keys m inside := gives.keys m (perm.mem_iff.mpr inside)
  once := (perm.pairwise_iff fun apart f listed named' named => apart f listed named named').mp
    gives.once
  fresh f listed given := (Absent.perm perm).mp (gives.fresh f listed given)
  given f listed m inside := gives.given f listed m (perm.mem_iff.mpr inside)
  left f listed absent := gives.left f listed ((Absent.perm perm).mpr absent)

/-- The order of members does not matter. -/
theorem Regular.meaning_perm (regular : s.Regular) (perm : members.Perm members')
    (means : s.read.meaning (.object members) = some a) :
    s.read.meaning (.object members') = some a := by
  obtain ⟨account, gives, settles⟩ := regular.meaning_object_iff.mp means
  exact regular.meaning_object_iff.mpr ⟨account, gives.perm perm, settles⟩

theorem Regular.meaning_unknown (regular : s.Regular) {key : Literal} {name : String} (v : Value)
    (named : key.text? = some name) (unknown : s.field? name = none) :
    s.read.meaning (.object ((key, v) :: members)) = some a ↔
      s.read.meaning (.object members) = some a := by
  simp only [regular.meaning_object_iff, gives_cons_iff_of_unknown named unknown]

/-- A field that need not be given is as good as given where no member is of its name. -/
theorem Regular.gives_before_iff (regular : s.Regular) (listed : f ∈ s.fields)
    (absent : Absent members f.name) (optional : f.isRequired = false) :
    s.Gives (f.name :: before) members account ↔ s.Gives before members account := by
  constructor
  · intro gives
    refine ⟨gives.keys, gives.once, ?_, gives.given, ?_⟩
    · exact fun f' listed' given => gives.fresh f' listed' (List.mem_cons_of_mem _ given)
    · intro f' listed' absent'
      obtain ⟨required, unmade⟩ := gives.left f' listed' absent'
      refine ⟨fun isRequired => ?_, unmade⟩
      apply (List.mem_cons.mp (required isRequired)).resolve_left
      intro same
      rw [List.inj_on_of_nodup_map regular.names listed' listed same, optional] at isRequired
      cases isRequired
  · intro gives
    refine ⟨gives.keys, gives.once, ?_, gives.given, ?_⟩
    · intro f' listed' given
      rcases List.mem_cons.mp given with same | given
      · rw [same]
        exact absent
      · exact gives.fresh f' listed' given
    · intro f' listed' absent'
      obtain ⟨required, unmade⟩ := gives.left f' listed' absent'
      exact ⟨fun isRequired => List.mem_cons_of_mem _ (required isRequired), unmade⟩

/-- A change that leaves the blank value as it is does not count. -/
theorem Regular.settle_put (regular : s.Regular) (isOf : account.IsOf s) {change : α → α}
    (makes : f.Makes change) (listed : f ∈ s.fields) (unmade : account f.name = none)
    (kept : change s.blank = s.blank) : s.settle (account.put f change) = s.settle account := by
  have put := regular.apply_put isOf listed makes unmade s.blank
  rwa [kept] at put

theorem Regular.meaning_default (regular : s.Regular) {key : Literal} {v : Value}
    (listed : f ∈ s.fields) (named : key.text? = some f.name) (absent : Absent members f.name)
    (default : s.SpellsDefault f v) :
    s.read.meaning (.object ((key, v) :: members)) = some a ↔
      s.read.meaning (.object members) = some a := by
  obtain ⟨optional, change, means, kept⟩ := default
  rw [regular.meaning_object_iff, regular.meaning_object_iff]
  simp only [regular.gives_cons_iff named listed, regular.gives_before_iff listed absent optional]
  constructor
  · rintro ⟨account, ⟨-, change', means', made, gives⟩, rfl⟩
    cases means.symm.trans means'
    have unmade : account.without f f.name = none := if_pos rfl
    refine ⟨account.without f, gives, ?_⟩
    rw [← regular.settle_put gives.isOf ⟨v, means⟩ listed unmade kept, Account.put_without made]
  · rintro ⟨account, gives, rfl⟩
    have unmade := (gives.left f listed absent).2
    refine ⟨account.put f change, ⟨List.not_mem_nil, change, means, if_pos rfl, ?_⟩, ?_⟩
    · rwa [Account.without_put unmade]
    · exact regular.settle_put gives.isOf ⟨v, means⟩ listed unmade kept

/-- The value of a member can be spelled in another way. -/
theorem Regular.meaning_member (regular : s.Regular) {key : Literal} {v v' : Value}
    (listed : f ∈ s.fields) (named : key.text? = some f.name)
    (keeps : ∀ change, f.read.meaning v = some change → f.read.meaning v' = some change)
    (means : s.read.meaning (.object ((key, v) :: members)) = some a) :
    s.read.meaning (.object ((key, v') :: members)) = some a := by
  rw [regular.meaning_object_iff] at means ⊢
  obtain ⟨account, gives, settles⟩ := means
  rw [regular.gives_cons_iff named listed] at gives
  obtain ⟨new, change, means, made, gives⟩ := gives
  refine ⟨account, ?_, settles⟩
  rw [regular.gives_cons_iff named listed]
  exact ⟨new, change, keeps change means, made, gives⟩

/-! ## Lists -/

/-- Items make the changes of an account in the order of the fields, of which the last ones may be
left out. -/
def Lines (fields : List (Field α)) (items : List Value) (account : Account α) : Prop :=
  items.length ≤ fields.length ∧ ∀ (i : Nat) f, fields[i]? = some f →
    match items[i]? with
    | some v => ∃ change, f.read.meaning v = some change ∧ account f.name = some change
    | none => f.isRequired = false ∧ account f.name = none

theorem Lines.isOf {items : List Value} (lines : Lines s.fields items account) :
    account.IsOf s := by
  intro f listed change made
  obtain ⟨i, at'⟩ := List.mem_iff_getElem?.mp listed
  have here := lines.2 i f at'
  cases item : items[i]? with
  | none =>
      rw [item] at here
      cases made.symm.trans here.2
  | some v =>
      rw [item] at here
      obtain ⟨change', means, made'⟩ := here
      cases made.symm.trans made'
      exact ⟨v, means⟩

theorem line?_of_lines {fields : List (Field α)} {items : List Value}
    (lines : Lines fields items account) (value : α) :
    line? fields items value = some (account.apply fields value) := by
  obtain ⟨length_le, each⟩ := lines
  induction fields generalizing items value with
  | nil =>
      rw [List.eq_nil_of_length_eq_zero (Nat.le_zero.mp length_le)]
      rfl
  | cons f fields ih =>
      cases items with
      | nil =>
          obtain ⟨optional, unmade⟩ := each 0 f rfl
          rw [line?, if_neg (by simp [optional]), Account.apply, Account.change, unmade]
          exact ih value (Nat.zero_le _) fun i f' at' => each (i + 1) f' at'
      | cons v items =>
          obtain ⟨change, means, made⟩ := each 0 f rfl
          rw [line?, means, Account.apply, Account.change, made]
          exact ih _ (Nat.le_of_succ_le_succ length_le) fun i f' at' => each (i + 1) f' at'

/-- An account is put together field by field. -/
theorem exists_account {fields : List (Field α)} (names : (fields.map Field.name).Nodup)
    {P : Nat → Field α → Option (α → α) → Prop}
    (each : ∀ (i : Nat) f, fields[i]? = some f → ∃ made, P i f made) :
    ∃ account : Account α, ∀ (i : Nat) f, fields[i]? = some f → P i f (account f.name) := by
  induction fields generalizing P with
  | nil => exact ⟨fun _ => none, fun i f at' => by simp at at'⟩
  | cons f fields ih =>
      rw [List.map_cons, List.nodup_cons] at names
      obtain ⟨made, here⟩ := each 0 f rfl
      obtain ⟨account, further⟩ := ih names.2 fun i f' at' => each (i + 1) f' at'
      refine ⟨fun name => if name = f.name then made else account name, fun i f' at' => ?_⟩
      cases i with
      | zero =>
          cases at'
          dsimp only
          rwa [if_pos rfl]
      | succ i =>
          have inside : f' ∈ fields := List.mem_of_getElem? at'
          have other : f'.name ≠ f.name := fun same => names.1 (same ▸ List.mem_map_of_mem inside)
          dsimp only
          rw [if_neg other]
          exact further i f' at'

/-- A list for an object comes to the same as the object. -/
theorem Regular.meaning_list (regular : s.Regular) {items : List Value}
    (lists : s.Lists members items) (means : s.read.meaning (.object members) = some a) :
    s.read.meaning (.list items) = some a := by
  obtain ⟨account, gives, rfl⟩ := regular.meaning_object_iff.mp means
  have each : ∀ (i : Nat) f, s.fields[i]? = some f → ∃ made : Option (α → α),
      (match items[i]? with
        | some v => ∃ change, f.read.meaning v = some change ∧ made = some change
        | none => f.isRequired = false ∧ made = none) ∧
      (account f.name = made ∨ account.Idle s f.name ∧
        ∀ change, made = some change → change s.blank = s.blank) := by
    intro i f at'
    have listed := List.mem_of_getElem? at'
    cases item : items[i]? with
    | some v =>
        obtain ⟨key, inside, named⟩ | ⟨absent, -, change, means, kept⟩ :=
          lists.taken i f v at' item
        · obtain ⟨change, means, made⟩ := gives.given f listed (key, v) inside named
          exact ⟨some change, ⟨change, means, rfl⟩, .inl made⟩
        · refine ⟨some change, ⟨change, means, rfl⟩, .inr ⟨fun change' made => ?_, ?_⟩⟩
          · cases made.symm.trans (gives.left f listed absent).2
          · rintro _ ⟨⟩
            exact kept
    | none =>
        obtain ⟨optional, default⟩ := lists.left i f at' item
        by_cases absent : Absent members f.name
        · exact ⟨none, ⟨optional, rfl⟩, .inl (gives.left f listed absent).2⟩
        · simp only [Absent, not_forall, not_not] at absent
          obtain ⟨m, inside, named⟩ := absent
          obtain ⟨change, means, made⟩ := gives.given f listed m inside named
          obtain ⟨-, change', means', kept⟩ := default m inside named
          cases means.symm.trans means'
          refine ⟨none, ⟨optional, rfl⟩, .inr ⟨fun change' made' => ?_, fun change' made' => ?_⟩⟩
          · cases made.symm.trans made'
            exact kept
          · cases made'
  obtain ⟨account', made⟩ := exists_account regular.names each
  have lines : Lines s.fields items account' :=
    ⟨lists.length_le, fun i f at' => (made i f at').1⟩
  have agrees : account.Agrees account' s := fun f listed => by
    obtain ⟨i, at'⟩ := List.mem_iff_getElem?.mp listed
    exact (made i f at').2
  rw [regular.meaning_read, made?, line?_of_lines lines,
    regular.settle_eq gives.isOf lines.isOf agrees]
  rfl

/-- An item of a list can be spelled in another way. -/
theorem line?_set {fields : List (Field α)} {items : List Value} {i : Nat} {v v' : Value}
    {value : α} (field : fields[i]? = some f) (item : items[i]? = some v)
    (keeps : ∀ change, f.read.meaning v = some change → f.read.meaning v' = some change)
    (made : line? fields items value = some a) :
    line? fields (items.set i v') value = some a := by
  induction fields generalizing items i value with
  | nil => simp at field
  | cons f' fields ih =>
      cases items with
      | nil => simp at item
      | cons v₀ items =>
          rw [line?, Option.bind_eq_some_iff] at made
          obtain ⟨change, means, made⟩ := made
          cases i with
          | zero =>
              cases field
              cases item
              rw [List.set_cons_zero, line?, keeps change means, Option.bind_some]
              exact made
          | succ i =>
              rw [List.set_cons_succ, line?, means, Option.bind_some]
              exact ih field item made

/-! ## One step -/

/-- What a shape makes of a value, it makes of every other spelling. -/
theorem Regular.keeps (regular : s.Regular) {Inside : Field α → Value → Value → Prop}
    (inside : ∀ f ∈ s.fields, f.read.Keeps (Inside f)) : s.read.Keeps (s.Respells Inside) := by
  intro v v' a step means
  cases step with
  | permute perm => exact regular.meaning_perm perm means
  | unknown v named unknown =>
      apply regular.meaning_perm List.perm_middle.symm
      exact (regular.meaning_unknown v named unknown).mpr means
  | addDefault listed named absent default =>
      apply regular.meaning_perm List.perm_middle.symm
      exact (regular.meaning_default listed named absent default).mpr means
  | removeDefault listed named default =>
      have first := regular.meaning_perm List.perm_middle means
      obtain ⟨account, gives, -⟩ := regular.meaning_object_iff.mp first
      have absent := fun m inside =>
        (List.pairwise_cons.mp gives.once).1 m inside _ listed named
      exact (regular.meaning_default listed named absent default).mp first
  | list lists => exact regular.meaning_list lists means
  | member listed named step =>
      apply regular.meaning_perm List.perm_middle.symm
      apply regular.meaning_member listed named fun change => inside _ listed _ _ change step
      exact regular.meaning_perm List.perm_middle means
  | item field item step =>
      rw [regular.meaning_read] at means ⊢
      have listed := List.mem_of_getElem? field
      exact line?_set field item (fun change => inside _ listed _ _ change step) means

/-- Where only some values of fields are spelled in other ways, those of one name. -/
theorem Regular.keeps_of_name (regular : s.Regular) {Step : Value → Value → Prop}
    (listed : f ∈ s.fields) (keeps : f.read.Keeps Step) {f' : Field α} (listed' : f' ∈ s.fields)
    {v v' : Value} {change : α → α} (step : f'.name = f.name ∧ Step v v')
    (means : f'.read.meaning v = some change) : f'.read.meaning v' = some change := by
  obtain ⟨name, step⟩ := step
  have same := List.inj_on_of_nodup_map regular.names listed' listed name
  subst same
  exact keeps v v' change step means

/-! ## Values that lack something -/

/-- A value has something under the name of a field, in the form of an object or of a list. -/
def Has (s : Shape α) (name : String) (part : Value) : Value → Prop
  | .object members => ∃ key, (key, part) ∈ members ∧ key.text? = some name
  | .list items => ∃ i : Nat, ∃ f, s.fields[i]? = some f ∧ f.name = name ∧ items[i]? = some part
  | _ => False

/-- A value with fields has nothing under the name of a field. -/
def Lacks (s : Shape α) (name : String) : Value → Prop
  | .object members => Absent members name
  | .list items => ∃ i : Nat, ∃ f, s.fields[i]? = some f ∧ f.name = name ∧ items.length ≤ i
  | _ => False

theorem line?_of_short {fields : List (Field α)} {items : List Value} {i : Nat}
    (field : fields[i]? = some f) (required : f.isRequired = true) (short : items.length ≤ i)
    (value : α) : line? fields items value = none := by
  induction fields generalizing items i value with
  | nil => simp at field
  | cons f' fields ih =>
      cases items with
      | nil =>
          rw [line?]
          cases i with
          | zero =>
              cases field
              exact if_pos required
          | succ i =>
              split
              · rfl
              · have short' : ([] : List Value).length ≤ i := Nat.zero_le i
                exact ih field short' value
      | cons v items =>
          cases i with
          | zero => cases short
          | succ i =>
              rw [line?, Option.bind_eq_none_iff]
              exact fun change _ => ih field (Nat.le_of_succ_le_succ short) _

theorem exists_change_of_line? {fields : List (Field α)} {items : List Value} {i : Nat}
    {part : Value} {value : α} (field : fields[i]? = some f) (item : items[i]? = some part)
    (made : line? fields items value = some a) : ∃ change, f.read.meaning part = some change := by
  induction fields generalizing items i value with
  | nil => simp at field
  | cons f' fields ih =>
      cases items with
      | nil => simp at item
      | cons v items =>
          rw [line?, Option.bind_eq_some_iff] at made
          obtain ⟨change, means, made⟩ := made
          cases i with
          | zero =>
              cases field
              cases item
              exact ⟨change, means⟩
          | succ i => exact ih field item made

/-- Nothing is made of a value that lacks a field that is required. -/
theorem Regular.meaning_of_lacks (regular : s.Regular) (listed : f ∈ s.fields)
    (required : f.isRequired = true) {v : Value} (lacks : s.Lacks f.name v) :
    s.read.meaning v = none := by
  cases v with
  | object members =>
      rw [Option.eq_none_iff_forall_ne_some]
      intro a means
      obtain ⟨account, gives, -⟩ := regular.meaning_object_iff.mp means
      exact absurd ((gives.left f listed lacks).1 required) List.not_mem_nil
  | list items =>
      obtain ⟨i, f', field, name, short⟩ := lacks
      have same := List.inj_on_of_nodup_map regular.names (List.mem_of_getElem? field) listed name
      rw [regular.meaning_read]
      exact line?_of_short field (same ▸ required) short s.blank
  | null | boolean | number | string => exact lacks.elim

/-- Something is made of every part of a value of which something is made. -/
theorem Regular.exists_meaning_of_has (regular : s.Regular) {v part : Value} (listed : f ∈ s.fields)
    (has : s.Has f.name part v) (means : s.read.meaning v = some a) :
    ∃ change, f.read.meaning part = some change := by
  cases v with
  | object members =>
      obtain ⟨key, inside, named⟩ := has
      obtain ⟨account, gives, -⟩ := regular.meaning_object_iff.mp means
      obtain ⟨change, means, -⟩ := gives.given f listed (key, part) inside named
      exact ⟨change, means⟩
  | list items =>
      obtain ⟨i, f', field, name, item⟩ := has
      have same := List.inj_on_of_nodup_map regular.names (List.mem_of_getElem? field) listed name
      rw [regular.meaning_read] at means
      exact same ▸ exists_change_of_line? field item means
  | null | boolean | number | string => exact has.elim

end Shape

/-! ## Fields and lists of values -/

/-- A field keeps what the reader of its values keeps. -/
theorem Field.keeps_of {α β : Type} {name : String} {read : Scan β} {put : β → α → α}
    {isRequired : Bool} {Step : Value → Value → Prop} (steady : read.Steady)
    (keeps : read.Keeps Step) : (Field.of name read put isRequired).read.Keeps Step := by
  intro v v' change step means
  rw [Field.meaning_of steady, Option.map_eq_some_iff] at means ⊢
  obtain ⟨b, means, same⟩ := means
  exact ⟨b, keeps v v' b step means, same⟩

/-- One item of a list is spelled in another way. -/
inductive RespellsItem (Step : Value → Value → Prop) : Value → Value → Prop
  | mk {front back : List Value} {v v' : Value} (step : Step v v') :
      RespellsItem Step (.list (front ++ v :: back)) (.list (front ++ v' :: back))

namespace Scan

variable {α : Type} {read : Scan α} {Step : Value → Value → Prop}

theorem Steady.meaning_list (steady : read.Steady) (items : List Value) :
    (list read).meaning (.list items) = items.mapM read.meaning :=
  (means_list steady).meaning_eq (.list items)

theorem Keeps.list (steady : read.Steady) (keeps : read.Keeps Step) :
    (list read).Keeps (RespellsItem Step) := by
  intro v v' all step means
  obtain ⟨step⟩ := step
  rw [steady.meaning_list, List.mapM_append] at means ⊢
  simp only [List.mapM_cons, Option.bind_eq_bind, Option.bind_eq_some_iff] at means ⊢
  obtain ⟨before, front, behind, ⟨a, here, others, back, rest⟩, whole⟩ := means
  exact ⟨before, front, behind, ⟨a, keeps _ _ a step here, others, back, rest⟩, whole⟩

/-- Something is made of every item of a list of which something is made. -/
theorem Steady.exists_meaning_of_mem (steady : read.Steady) {items : List Value} {all : List α}
    (means : (Scan.list read).meaning (.list items) = some all) {v : Value} (inside : v ∈ items) :
    ∃ a, read.meaning v = some a := by
  rw [steady.meaning_list] at means
  induction items generalizing all with
  | nil => cases inside
  | cons v' items ih =>
      simp only [List.mapM_cons, Option.bind_eq_bind, Option.bind_eq_some_iff] at means
      obtain ⟨a, here, others, further, -⟩ := means
      rcases List.mem_cons.mp inside with rfl | inside
      · exact ⟨a, here⟩
      · exact ih further inside

end Scan

end SceneBench.Json
