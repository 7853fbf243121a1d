import Mathlib.Data.List.Induction
import Mathlib.Data.List.Nodup
import Mathlib.Data.List.Pairwise
import SceneBench.Proofs.Json.Records

/-!
# Accounts of fields

What comes of a value with fields is told by an account: for each field the change that is made to
the blank value, if one is made at all. Where changes of different fields do not get into each
other's way the account alone decides, and not the order of the members or the form of the value. A
change that leaves the blank value as it is can be taken out of the account, or put into it.
-/

namespace SceneBench.Json

variable {α : Type}

/-- A field makes a change of some value. -/
def Field.Makes (f : Field α) (change : α → α) : Prop := ∃ v, f.read.meaning v = some change

/-- What two fields make does not get in each other's way. -/
def Field.Apart (f f' : Field α) : Prop :=
  ∀ change change', f.Makes change → f'.Makes change' →
    ∀ a, change (change' a) = change' (change a)

instance : Std.Symm (Field.Apart (α := α)) where
  symm _ _ apart change change' makes makes' a := (apart change' change makes' makes a).symm

namespace Field

variable {β γ : Type} {name name' : String} {read : Scan β} {read' : Scan γ} {put : β → α → α}
  {put' : γ → α → α} {isRequired isRequired' : Bool}

theorem read_of (name : String) (read : Scan β) (put : β → α → α) (isRequired : Bool) :
    (Field.of name read put isRequired).read = put <$> read := by
  rw [map_eq_pure_bind]
  rfl

theorem meaning_of (steady : read.Steady) (v : Value) :
    (Field.of name read put isRequired).read.meaning v = (read.meaning v).map put := by
  rw [read_of]
  exact (steady.map put).meaning_eq v

theorem exists_of_makes (steady : read.Steady) {change : α → α}
    (makes : (Field.of name read put isRequired).Makes change) : ∃ b, change = put b := by
  obtain ⟨v, means⟩ := makes
  rw [meaning_of steady, Option.map_eq_some_iff] at means
  obtain ⟨b, -, same⟩ := means
  exact ⟨b, same.symm⟩

theorem apart_of (steady : read.Steady) (steady' : read'.Steady)
    (apart : ∀ b b' a, put b (put' b' a) = put' b' (put b a)) :
    (Field.of name read put isRequired).Apart (Field.of name' read' put' isRequired') := by
  intro change change' makes makes' a
  obtain ⟨b, rfl⟩ := exists_of_makes steady makes
  obtain ⟨b', rfl⟩ := exists_of_makes steady' makes'
  exact apart b b' a

end Field

namespace Shape

/-- The fields of a shape are told apart by their names and read steadily, and what is made of one
does not get in the way of another. -/
structure Regular (s : Shape α) : Prop where
  names : (s.fields.map Field.name).Nodup
  steady : ∀ f ∈ s.fields, f.read.Steady
  apart : s.fields.Pairwise Field.Apart

theorem Regular.meaning_read {s : Shape α} (regular : s.Regular) : s.read.meaning = s.made? :=
  funext (means_read regular.steady).meaning_eq

/-- For each name the change that is made under it, if one is made. -/
abbrev Account (α : Type) := String → Option (α → α)

namespace Account

/-- The change of a field. -/
def change (account : Account α) (f : Field α) (a : α) : α :=
  (account f.name).elim a fun change => change a

/-- The changes of fields, one after the other. -/
def apply (account : Account α) : List (Field α) → α → α
  | [], a => a
  | f :: fields, a => account.apply fields (account.change f a)

/-- Every change of an account is made by the field of its name. -/
def IsOf (account : Account α) (s : Shape α) : Prop :=
  ∀ f ∈ s.fields, ∀ change, account f.name = some change → f.Makes change

theorem apply_append (account : Account α) (fields fields' : List (Field α)) (a : α) :
    account.apply (fields ++ fields') a = account.apply fields' (account.apply fields a) := by
  induction fields generalizing a with
  | nil => rfl
  | cons f fields ih => exact ih _

theorem apply_congr {account account' : Account α} {fields : List (Field α)}
    (same : ∀ f ∈ fields, account f.name = account' f.name) (a : α) :
    account.apply fields a = account'.apply fields a := by
  induction fields generalizing a with
  | nil => rfl
  | cons f fields ih =>
      obtain ⟨here, same⟩ := List.forall_mem_cons.mp same
      rw [apply, apply, change, change, here]
      exact ih same _

/-- One more change. -/
def put (account : Account α) (f : Field α) (change : α → α) : Account α := fun name =>
  if name = f.name then some change else account name

/-- No change of a field. -/
def without (account : Account α) (f : Field α) : Account α := fun name =>
  if name = f.name then none else account name

theorem without_put {account : Account α} {f : Field α} (unmade : account f.name = none)
    (change : α → α) : (account.put f change).without f = account := by
  funext name
  by_cases same : name = f.name
  · rw [without, if_pos same, same, unmade]
  · rw [without, if_neg same, put, if_neg same]

theorem put_without {account : Account α} {f : Field α} {change : α → α}
    (made : account f.name = some change) : (account.without f).put f change = account := by
  funext name
  by_cases same : name = f.name
  · rw [put, if_pos same, same, made]
  · rw [put, if_neg same, without, if_neg same]

end Account

variable {s : Shape α} {account account' : Account α} {fields : List (Field α)}

/-- A change of another field can as well be made before. -/
theorem Regular.apply_comm (regular : s.Regular) (isOf : account.IsOf s) {f : Field α}
    (listed : f ∈ s.fields) {change : α → α} (makes : f.Makes change)
    (within : ∀ f' ∈ fields, f' ∈ s.fields) (others : ∀ f' ∈ fields, f'.name ≠ f.name) (a : α) :
    change (account.apply fields a) = account.apply fields (change a) := by
  induction fields generalizing a with
  | nil => rfl
  | cons f' fields ih =>
      obtain ⟨listed', within⟩ := List.forall_mem_cons.mp within
      obtain ⟨other, others⟩ := List.forall_mem_cons.mp others
      have swapped : change (account.change f' a) = account.change f' (change a) := by
        rw [Account.change, Account.change]
        cases made : account f'.name with
        | none => rfl
        | some change' =>
            have apart := regular.apart.forall listed listed' fun same =>
              other (congrArg Field.name same.symm)
            exact apart change change' makes (isOf f' listed' change' made) a
      rw [Account.apply, Account.apply, ih within others, swapped]

/-- A change that is made first can as well be made in its place. -/
theorem Regular.apply_put (regular : s.Regular) (isOf : account.IsOf s) {f : Field α}
    (listed : f ∈ s.fields) {change : α → α} (makes : f.Makes change)
    (unmade : account f.name = none) (a : α) :
    (account.put f change).apply s.fields a = account.apply s.fields (change a) := by
  obtain ⟨front, back, split⟩ := List.append_of_mem listed
  have names := regular.names
  rw [split, List.map_append, List.map_cons, List.nodup_append, List.nodup_cons] at names
  obtain ⟨-, ⟨behind, -⟩, before⟩ := names
  have front_ne : ∀ f' ∈ front, f'.name ≠ f.name := fun f' inFront same =>
    before f'.name (List.mem_map_of_mem inFront) f.name List.mem_cons_self same
  have back_ne : ∀ f' ∈ back, f'.name ≠ f.name := fun f' inBack same =>
    behind (same ▸ List.mem_map_of_mem inBack)
  have within : ∀ f' ∈ front, f' ∈ s.fields := fun f' inFront => by
    rw [split]
    exact List.mem_append_left _ inFront
  have here (a : α) : (account.put f change).change f a = change a := by
    simp [Account.change, Account.put]
  have away (a : α) : account.change f a = a := by simp [Account.change, unmade]
  have frontSame (a : α) : (account.put f change).apply front a = account.apply front a :=
    Account.apply_congr (fun f' inFront => if_neg (front_ne f' inFront)) a
  have backSame (a : α) : (account.put f change).apply back a = account.apply back a :=
    Account.apply_congr (fun f' inBack => if_neg (back_ne f' inBack)) a
  rw [split, Account.apply_append, Account.apply_append, Account.apply, Account.apply, here, away,
    frontSame, backSame, regular.apply_comm isOf listed makes within front_ne]

/-! ## Idle changes -/

/-- What an account makes of the blank value. -/
def settle (s : Shape α) (account : Account α) : α := account.apply s.fields s.blank

/-- Under a name the blank value is left as it is. -/
def Account.Idle (account : Account α) (s : Shape α) (name : String) : Prop :=
  ∀ change, account name = some change → change s.blank = s.blank

/-- Two accounts make the same changes, except for those that leave the blank value as it is. -/
def Account.Agrees (account account' : Account α) (s : Shape α) : Prop :=
  ∀ f ∈ s.fields, account f.name = account' f.name ∨
    account.Idle s f.name ∧ account'.Idle s f.name

/-- Where the blank value is left as it is, so is every value that others come to. -/
theorem Regular.change_idle (regular : s.Regular) (isOf : account.IsOf s) {f : Field α}
    (listed : f ∈ s.fields) (idle : account.Idle s f.name)
    (within : ∀ f' ∈ fields, f' ∈ s.fields) (others : ∀ f' ∈ fields, f'.name ≠ f.name) :
    account.change f (account.apply fields s.blank) = account.apply fields s.blank := by
  rw [Account.change]
  cases made : account f.name with
  | none => rfl
  | some change =>
      have kept := idle change made
      have swapped := regular.apply_comm isOf listed (isOf f listed change made) within others
        s.blank
      rw [kept] at swapped
      exact swapped

/-- Accounts that agree come to the same. -/
theorem Regular.settle_eq (regular : s.Regular) (isOf : account.IsOf s) (isOf' : account'.IsOf s)
    (agrees : account.Agrees account' s) : s.settle account = s.settle account' := by
  have taken (fields : List (Field α)) (within : ∀ f ∈ fields, f ∈ s.fields)
      (names : (fields.map Field.name).Nodup) :
      account.apply fields s.blank = account'.apply fields s.blank := by
    -- The field that has its turn last is told apart: what the others come to is not changed by it.
    induction fields using List.reverseRecOn with
    | nil => rfl
    | append_singleton fields f ih =>
        rw [List.map_append, List.nodup_append] at names
        obtain ⟨names, -, apart⟩ := names
        have others : ∀ f' ∈ fields, f'.name ≠ f.name := fun f' before same =>
          apart f'.name (List.mem_map_of_mem before) f.name (by simp) same
        have listed := within f (by simp)
        have within' : ∀ f' ∈ fields, f' ∈ s.fields := fun f' before =>
          within f' (List.mem_append_left _ before)
        rw [Account.apply_append, Account.apply_append]
        have same := ih within' names
        show account.change f (account.apply fields s.blank) =
          account'.change f (account'.apply fields s.blank)
        rcases agrees f listed with alike | ⟨idle, idle'⟩
        · rw [same, Account.change, Account.change, alike]
        · rw [regular.change_idle isOf listed idle within' others,
            regular.change_idle isOf' listed idle' within' others, same]
  exact taken s.fields (fun _ listed => listed) regular.names

/-! ## Objects -/

/-- No member of an object stands under a name. -/
def Absent (members : List (Literal × Value)) (name : String) : Prop :=
  ∀ m ∈ members, m.1.text? ≠ some name

/-- Members make the changes of an account, when some names have been given before: their names can
be read, no field is given twice, and only those are left out that need not be given. -/
structure Gives (s : Shape α) (before : List String) (members : List (Literal × Value))
    (account : Account α) : Prop where
  keys : ∀ m ∈ members, ∃ name, m.1.text? = some name
  once : members.Pairwise fun m m' =>
    ∀ f ∈ s.fields, m.1.text? = some f.name → m'.1.text? ≠ some f.name
  fresh : ∀ f ∈ s.fields, f.name ∈ before → Absent members f.name
  given : ∀ f ∈ s.fields, ∀ m ∈ members, m.1.text? = some f.name →
    ∃ change, f.read.meaning m.2 = some change ∧ account f.name = some change
  left : ∀ f ∈ s.fields, Absent members f.name →
    (f.isRequired = true → f.name ∈ before) ∧ account f.name = none

variable {before : List String} {members : List (Literal × Value)}

theorem Gives.isOf (gives : s.Gives before members account) : account.IsOf s := by
  intro f listed change made
  by_cases absent : Absent members f.name
  · rw [(gives.left f listed absent).2] at made
    cases made
  · simp only [Absent, not_forall, not_not] at absent
    obtain ⟨m, inside, named⟩ := absent
    obtain ⟨change', means, made'⟩ := gives.given f listed m inside named
    cases made.symm.trans made'
    exact ⟨m.2, means⟩

theorem missing?_eq_none_iff : s.missing? before = none ↔
    ∀ f ∈ s.fields, f.isRequired = true → f.name ∈ before := by
  simp [missing?, List.find?_eq_none]

theorem Account.apply_of_unmade (unmade : ∀ f ∈ fields, account f.name = none) (a : α) :
    account.apply fields a = a := by
  induction fields generalizing a with
  | nil => rfl
  | cons f fields ih =>
      obtain ⟨here, unmade⟩ := List.forall_mem_cons.mp unmade
      rw [apply, change, here, Option.elim_none]
      exact ih unmade a

theorem gives_nil_iff : s.Gives before [] account ↔
    s.missing? before = none ∧ ∀ f ∈ s.fields, account f.name = none := by
  rw [missing?_eq_none_iff]
  constructor
  · intro gives
    exact ⟨fun f listed => (gives.left f listed nofun).1, fun f listed =>
      (gives.left f listed nofun).2⟩
  · rintro ⟨given, unmade⟩
    exact ⟨nofun, .nil, fun _ _ _ => nofun, fun _ _ => nofun, fun f listed _ =>
      ⟨given f listed, unmade f listed⟩⟩

theorem absent_cons_iff {m : Literal × Value} {name : String} :
    Absent (m :: members) name ↔ m.1.text? ≠ some name ∧ Absent members name :=
  List.forall_mem_cons

/-- An unknown member does not count. -/
theorem gives_cons_iff_of_unknown {key : Literal} {v : Value} {name : String}
    (named : key.text? = some name) (unknown : s.field? name = none) :
    s.Gives before ((key, v) :: members) account ↔ s.Gives before members account := by
  have other : ∀ f ∈ s.fields, key.text? ≠ some f.name := by
    intro f listed same
    rw [named, Option.some.injEq] at same
    simpa [same] using List.find?_eq_none.mp unknown f listed
  constructor
  · intro gives
    refine ⟨(List.forall_mem_cons.mp gives.keys).2, gives.once.tail, ?_, ?_, ?_⟩
    · exact fun f listed given => (absent_cons_iff.mp (gives.fresh f listed given)).2
    · exact fun f listed => (List.forall_mem_cons.mp (gives.given f listed)).2
    · exact fun f listed absent =>
        gives.left f listed (absent_cons_iff.mpr ⟨other f listed, absent⟩)
  · intro gives
    refine ⟨List.forall_mem_cons.mpr ⟨⟨name, named⟩, gives.keys⟩, ?_, ?_, ?_, ?_⟩
    · exact .cons (fun m' _ f listed same => absurd same (other f listed)) gives.once
    · exact fun f listed given =>
        absent_cons_iff.mpr ⟨other f listed, gives.fresh f listed given⟩
    · exact fun f listed => List.forall_mem_cons.mpr
        ⟨fun same => absurd same (other f listed), gives.given f listed⟩
    · exact fun f listed absent => gives.left f listed (absent_cons_iff.mp absent).2

/-- A known member gives its field, which no other may give again. -/
theorem Regular.gives_cons_iff (regular : s.Regular) {key : Literal} {v : Value} {f : Field α}
    (named : key.text? = some f.name) (listed : f ∈ s.fields) :
    s.Gives before ((key, v) :: members) account ↔
      f.name ∉ before ∧ ∃ change, f.read.meaning v = some change ∧
        account f.name = some change ∧ s.Gives (f.name :: before) members (account.without f) := by
  constructor
  · intro gives
    obtain ⟨change, means, made⟩ := gives.given f listed (key, v) List.mem_cons_self named
    refine ⟨fun given => ?_, change, means, made, ?_⟩
    · exact gives.fresh f listed given (key, v) List.mem_cons_self named
    · obtain ⟨single, once⟩ := List.pairwise_cons.mp gives.once
      have absent : Absent members f.name := fun m inside => single m inside f listed named
      refine ⟨(List.forall_mem_cons.mp gives.keys).2, once, ?_, ?_, ?_⟩
      · intro f' listed' given
        rcases List.mem_cons.mp given with same | given
        · rw [same]
          exact absent
        · exact (absent_cons_iff.mp (gives.fresh f' listed' given)).2
      · intro f' listed' m inside named'
        have other : f'.name ≠ f.name := fun same => absent m inside (same ▸ named')
        rw [Account.without, if_neg other]
        exact gives.given f' listed' m (List.mem_cons_of_mem _ inside) named'
      · intro f' listed' absent'
        by_cases same : f'.name = f.name
        · rw [Account.without, if_pos same, same]
          exact ⟨fun _ => List.mem_cons_self, rfl⟩
        · rw [Account.without, if_neg same]
          have key_ne : key.text? ≠ some f'.name := fun same' => by
            rw [named, Option.some.injEq] at same'
            exact same same'.symm
          obtain ⟨required, unmade⟩ := gives.left f' listed' (absent_cons_iff.mpr ⟨key_ne, absent'⟩)
          exact ⟨fun isRequired => List.mem_cons_of_mem _ (required isRequired), unmade⟩
  · rintro ⟨new, change, means, made, gives⟩
    have absent := gives.fresh f listed List.mem_cons_self
    refine ⟨List.forall_mem_cons.mpr ⟨⟨f.name, named⟩, gives.keys⟩, ?_, ?_, ?_, ?_⟩
    · refine .cons (fun m inside f' listed' same => ?_) gives.once
      rw [named] at same
      exact same ▸ absent m inside
    · intro f' listed' given
      refine absent_cons_iff.mpr ⟨fun same => ?_, ?_⟩
      · rw [named, Option.some.injEq] at same
        exact new (same ▸ given)
      · exact gives.fresh f' listed' (List.mem_cons_of_mem _ given)
    · intro f' listed'
      refine List.forall_mem_cons.mpr ⟨fun same => ?_, fun m inside named' => ?_⟩
      · rw [named, Option.some.injEq] at same
        rw [List.inj_on_of_nodup_map regular.names listed' listed same.symm]
        exact ⟨change, means, made⟩
      · obtain ⟨change', means', made'⟩ := gives.given f' listed' m inside named'
        have other : f'.name ≠ f.name := fun same => absent m inside (same ▸ named')
        rw [Account.without, if_neg other] at made'
        exact ⟨change', means', made'⟩
    · intro f' listed' absent'
      obtain ⟨key_ne, absent'⟩ := absent_cons_iff.mp absent'
      have other : f'.name ≠ f.name := fun same => key_ne (same ▸ named)
      obtain ⟨required, unmade⟩ := gives.left f' listed' absent'
      rw [Account.without, if_neg other] at unmade
      exact ⟨fun isRequired => (List.mem_cons.mp (required isRequired)).resolve_left other, unmade⟩

/-- What is gathered from the members of an object is what their account makes of a value. -/
theorem Regular.gather?_eq_some_iff (regular : s.Regular) (value a : α) :
    s.gather? members before value = some a ↔
      ∃ account, s.Gives before members account ∧ account.apply s.fields value = a := by
  induction members generalizing before value with
  | nil =>
      rw [gather?]
      cases missing : s.missing? before with
      | some f =>
          refine iff_of_false (by simp) ?_
          rintro ⟨account, gives, -⟩
          cases missing.symm.trans (gives_nil_iff.mp gives).1
      | none =>
          constructor
          · intro same
            refine ⟨fun _ => none, gives_nil_iff.mpr ⟨missing, fun _ _ => rfl⟩, ?_⟩
            rw [Account.apply_of_unmade fun _ _ => rfl]
            exact Option.some.inj same
          · rintro ⟨account, gives, rfl⟩
            rw [Account.apply_of_unmade (gives_nil_iff.mp gives).2]
            rfl
  | cons m members ih =>
      obtain ⟨key, v⟩ := m
      rw [gather?]
      cases named : key.text? with
      | none =>
          refine iff_of_false (by simp) ?_
          rintro ⟨account, gives, -⟩
          obtain ⟨name, named'⟩ := gives.keys (key, v) List.mem_cons_self
          cases named.symm.trans named'
      | some name =>
          rw [Option.bind_some]
          cases known : s.field? name with
          | none =>
              dsimp only
              simp only [ih, gives_cons_iff_of_unknown named known]
          | some f =>
              have listed := field?_mem known
              have same : f.name = name := by simpa using List.find?_some known
              subst same
              dsimp only
              simp only [regular.gives_cons_iff named listed, List.contains_iff_mem]
              split
              case isTrue given =>
                refine iff_of_false (by simp) ?_
                rintro ⟨account, ⟨new, -⟩, -⟩
                exact new given
              case isFalse new =>
                cases means : f.read.meaning v with
                | none =>
                    refine iff_of_false (by simp) ?_
                    rintro ⟨account, ⟨-, change, means', -⟩, -⟩
                    cases means'
                | some change =>
                    rw [Option.bind_some, ih]
                    constructor
                    · rintro ⟨account, gives, rfl⟩
                      have absent := gives.fresh f listed List.mem_cons_self
                      have unmade := (gives.left f listed absent).2
                      refine ⟨account.put f change, ⟨new, change, rfl, if_pos rfl, ?_⟩, ?_⟩
                      · rwa [Account.without_put unmade]
                      · exact regular.apply_put gives.isOf listed ⟨v, means⟩ unmade value
                    · rintro ⟨account, ⟨-, change', ⟨⟩, made, gives⟩, rfl⟩
                      have unmade : account.without f f.name = none := if_pos rfl
                      refine ⟨account.without f, gives, ?_⟩
                      rw [← regular.apply_put gives.isOf listed ⟨v, means⟩ unmade,
                        Account.put_without made]

end Shape

end SceneBench.Json
