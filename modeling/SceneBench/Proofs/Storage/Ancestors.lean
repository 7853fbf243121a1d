import Mathlib.Data.String.Basic
import SceneBench.Proofs.Storage.Joining

/-!
# The paths that a path runs through

A path is named again by its first components, as plainly as possible. What comes of that is a path
with just these components, and its text is the text of the first path with characters left out; so
unless it is empty it may be followed whenever the first one may. Following it is following the
first steps of the first path, apart from those that stay where they are. So a path that leads to a
directory runs through directories only.
-/

namespace SceneBench

namespace Path

variable {p q : Path} {parts : List Component}

/-! ## Pieces that are joined -/

theorem splitSlash_eq_splitOn (cs : List Char) : splitSlash cs = cs.splitOn '/' := by
  induction cs with
  | nil => simp [splitSlash]
  | cons c rest ih =>
      obtain ⟨piece, pieces, split, whole⟩ := splitSlash_cons c rest
      rw [whole, List.splitOn_cons_eq_if_modifyHead, ← ih, split]
      simp

theorem whole_of_mem_splitSlash (cs : List Char) : ∀ piece ∈ splitSlash cs, '/' ∉ piece := by
  induction cs with
  | nil => simp [splitSlash]
  | cons c rest ih =>
      obtain ⟨first, pieces, split, whole⟩ := splitSlash_cons c rest
      rw [split] at ih
      rw [whole]
      split
      · exact List.forall_mem_cons.mpr ⟨List.not_mem_nil, ih⟩
      · next other =>
        obtain ⟨first', others⟩ := List.forall_mem_cons.mp ih
        exact List.forall_mem_cons.mpr ⟨by simpa [Ne.symm other] using first', others⟩

/-- With pieces left out, characters are left out. -/
theorem sublist_intercalate {pieces all : List (List Char)} (sub : pieces.Sublist all) :
    (['/'].intercalate pieces).Sublist (['/'].intercalate all) := by
  induction sub with
  | slnil => exact .refl _
  | @cons pieces all piece sub ih =>
      cases all with
      | nil =>
          obtain rfl := List.sublist_nil.mp sub
          exact List.nil_sublist _
      | cons next further =>
          rw [List.intercalate_cons_cons]
          exact ih.trans (List.sublist_append_right _ _)
  | @cons_cons pieces all piece sub ih =>
      cases pieces with
      | nil =>
          cases all with
          | nil => exact .refl _
          | cons next further =>
              rw [List.intercalate_singleton, List.intercalate_cons_cons, List.append_assoc]
              exact List.sublist_append_left _ _
      | cons next further =>
          cases all with
          | nil => cases sub
          | cons next' further' =>
              rw [List.intercalate_cons_cons, List.intercalate_cons_cons]
              exact (List.Sublist.refl _).append ih

/-! ## Components -/

namespace Component

/-- The steps of a component. -/
def steps : Component → List Step
  | root => []
  | current => [.stay]
  | parent => [.up]
  | name text => [.enter text]

/-- A component that may stand anywhere in a path. -/
def Plain : Component → Prop
  | parent => True
  | name text => '/' ∉ text.toList ∧ text ≠ "" ∧ text ≠ "." ∧ text ≠ ".."
  | _ => False

/-- The component of a name between slashes. -/
def ofName (text : String) : Component := if text = ".." then .parent else .name text

variable {c : Component}

theorem text_ofName (text : String) : (ofName text).text = text := by
  rw [ofName]
  split
  · next up => exact up.symm
  · rfl

theorem plain_ofName {text : String} (whole : '/' ∉ text.toList) (some' : text ≠ "")
    (onward : text ≠ ".") : (ofName text).Plain := by
  rw [ofName]
  split
  · trivial
  · next down => exact ⟨whole, some', onward, down⟩

namespace Plain

theorem whole (plain : c.Plain) : '/' ∉ c.text.toList := by
  cases c with
  | name text => exact plain.1
  | parent => decide
  | root | current => exact plain.elim

theorem text_ne (plain : c.Plain) : c.text ≠ "" ∧ c.text ≠ "." := by
  cases c with
  | name text => exact ⟨plain.2.1, plain.2.2.1⟩
  | parent => decide
  | root | current => exact plain.elim

theorem ne_root (plain : c.Plain) : c ≠ .root := by
  rintro rfl
  exact plain

theorem ofName_text (plain : c.Plain) : ofName c.text = c := by
  cases c with
  | name text => exact if_neg plain.2.2.2
  | parent => rfl
  | root | current => exact plain.elim

end Plain

end Component

open Component

/-- The components of names. -/
def plainOf (names : List String) : List Component := (names.filter (· ≠ ".")).map ofName

theorem components_eq (p : Path) : p.components =
    if p.isAbsolute then .root :: plainOf p.names
    else
      match p.names with
      | "." :: rest => .current :: plainOf rest
      | names => plainOf names := rfl

/-- Components as a path has them: the root or a dot may stand in front, and nowhere else. -/
inductive Orderly : List Component → Prop
  | plain {rest : List Component} (all : ∀ c ∈ rest, c.Plain) : Orderly rest
  | root {rest : List Component} (all : ∀ c ∈ rest, c.Plain) : Orderly (.root :: rest)
  | current {rest : List Component} (all : ∀ c ∈ rest, c.Plain) : Orderly (.current :: rest)

theorem mem_names {name : String} (listed : name ∈ p.names) : '/' ∉ name.toList ∧ name ≠ "" := by
  obtain ⟨piece, held, rfl⟩ := List.mem_map.mp listed
  obtain ⟨held, some'⟩ := List.mem_filter.mp held
  refine ⟨?_, fun none' => ?_⟩
  · simpa using whole_of_mem_splitSlash _ piece held
  · simp_all

theorem plain_of_mem_plainOf {names : List String} (all : ∀ name ∈ names, name ∈ p.names)
    {c : Component} (listed : c ∈ plainOf names) : c.Plain := by
  obtain ⟨name, held, rfl⟩ := List.mem_map.mp listed
  obtain ⟨held, onward⟩ := List.mem_filter.mp held
  obtain ⟨whole, some'⟩ := mem_names (all name held)
  exact plain_ofName whole some' (by simpa using onward)

theorem orderly_components (p : Path) : Orderly p.components := by
  rw [components_eq]
  split
  · exact .root fun c => plain_of_mem_plainOf fun name => id
  · split
    · next rest dot =>
      refine .current fun c => plain_of_mem_plainOf (p := p) fun name held => ?_
      rw [dot]
      exact List.mem_cons_of_mem _ held
    · exact .plain fun c => plain_of_mem_plainOf fun name => id

theorem Orderly.take (orderly : Orderly parts) (k : Nat) : Orderly (parts.take k) := by
  have fewer {rest : List Component} (all : ∀ c ∈ rest, c.Plain) (n : Nat) :
      ∀ c ∈ rest.take n, c.Plain := fun c listed => all c (List.mem_of_mem_take listed)
  cases k with
  | zero => exact .plain nofun
  | succ k =>
      cases orderly with
      | plain all => exact .plain (fewer all (k + 1))
      | root all => exact .root (fewer all k)
      | current all => exact .current (fewer all k)

/-! ## Steps of components -/

/-- The same steps, but for some that stay where they are. -/
inductive Sheds : List Step → List Step → Prop
  | nil : Sheds [] []
  | keep {steps fewer : List Step} (s : Step) (rest : Sheds steps fewer) :
      Sheds (s :: steps) (s :: fewer)
  | shed {steps fewer : List Step} (rest : Sheds steps fewer) : Sheds (.stay :: steps) fewer

namespace Sheds

theorem append_left (before : List Step) {steps fewer : List Step} (sheds : Sheds steps fewer) :
    Sheds (before ++ steps) (before ++ fewer) := by
  induction before with
  | nil => exact sheds
  | cons s rest ih => exact .keep s ih

end Sheds

/-- The step of a name between slashes. -/
def stepOf (name : String) : Step :=
  if name = "." then .stay else if name = ".." then .up else .enter name

theorem innerSteps_eq (p : Path) : p.innerSteps = p.names.map stepOf := rfl

theorem steps_ofName {name : String} (onward : name ≠ ".") :
    (ofName name).steps = [stepOf name] := by
  rw [ofName, stepOf, if_neg onward]
  split <;> rfl

theorem sheds_plainOf (names : List String) :
    Sheds (names.map stepOf) ((plainOf names).flatMap Component.steps) := by
  induction names with
  | nil => exact .nil
  | cons name rest ih =>
      by_cases dot : name = "."
      · rw [dot]
        exact .shed ih
      · have kept : plainOf (name :: rest) = ofName name :: plainOf rest := by
          simp [plainOf, dot]
        rw [kept, List.flatMap_cons, steps_ofName dot]
        exact .keep _ ih

theorem sheds_innerSteps (p : Path) :
    Sheds p.innerSteps (p.components.flatMap Component.steps) := by
  rw [innerSteps_eq, components_eq]
  split
  · exact sheds_plainOf p.names
  · split
    · next rest dot =>
      rw [dot]
      exact .keep _ (sheds_plainOf rest)
    · exact sheds_plainOf p.names

theorem isAbsolute_eq (p : Path) :
    p.isAbsolute = decide (p.components.head? = some .root) := by
  rw [components_eq]
  split
  · next absolute => simpa using absolute
  · next relative =>
    have other (names : List String) : (plainOf names).head? ≠ some .root := by
      intro first
      obtain ⟨name, -, root⟩ := List.mem_map.mp (List.mem_of_head? first)
      rw [ofName] at root
      split at root <;> cases root
    split
    · simpa using relative
    · simpa [other] using relative

/-! ## Paths of components -/

theorem toList_text_ofComponents (other : parts ≠ [.root]) :
    (ofComponents parts).text.toList = ['/'].intercalate (parts.map (·.text.toList)) := by
  have text : (ofComponents parts).text = "/".intercalate (parts.map Component.text) := by
    rw [ofComponents]
    exact other
  rw [text, String.toList_intercalate, List.map_map]
  rfl

namespace Orderly

theorem cases_mem (orderly : Orderly parts) {c : Component} (listed : c ∈ parts) :
    c = .root ∨ c = .current ∨ c.Plain := by
  cases orderly with
  | plain all => exact .inr (.inr (all c listed))
  | root all =>
      rcases List.mem_cons.mp listed with same | listed
      · exact .inl same
      · exact .inr (.inr (all c listed))
  | current all =>
      rcases List.mem_cons.mp listed with same | listed
      · exact .inr (.inl same)
      · exact .inr (.inr (all c listed))

theorem whole (orderly : Orderly parts) {c : Component} (listed : c ∈ parts) :
    '/' ∉ c.text.toList := by
  obtain rfl | rfl | plain := orderly.cases_mem listed
  · decide
  · decide
  · exact plain.whole

/-- Only the root has nothing for a text. -/
theorem text_eq_empty_iff (orderly : Orderly parts) {c : Component} (listed : c ∈ parts) :
    c.text = "" ↔ c = .root := by
  obtain rfl | rfl | plain := orderly.cases_mem listed
  · decide
  · decide
  · exact iff_of_false plain.text_ne.1 plain.ne_root

end Orderly

/-- The names of a path of components are the texts of these, the root apart. -/
theorem names_ofComponents (orderly : Orderly parts) :
    (ofComponents parts).names = (parts.filter (· ≠ .root)).map Component.text := by
  by_cases root : parts = [.root]
  · rw [root]
    rfl
  by_cases none' : parts = []
  · rw [none']
    rfl
  have whole : ∀ piece ∈ parts.map (·.text.toList), '/' ∉ piece :=
    List.forall_mem_map.mpr fun c => orderly.whole
  have named : ∀ c ∈ parts, (!c.text.toList.isEmpty) = decide (c ≠ .root) := by
    intro c listed
    rw [Bool.eq_iff_iff]
    simp [orderly.text_eq_empty_iff listed]
  have some' : parts.map (·.text.toList) ≠ [] := by simpa using none'
  rw [names, toList_text_ofComponents root, splitSlash_eq_splitOn,
    List.splitOn_intercalate '/' whole some', List.filter_map, List.map_map]
  rw [List.filter_congr (q := fun c => decide (c ≠ .root)) named]
  simp [Function.comp_def]

/-- A path of components begins at the root if they do. -/
theorem isAbsolute_ofComponents (orderly : Orderly parts) :
    (ofComponents parts).isAbsolute = decide (parts.head? = some .root) := by
  by_cases root : parts = [.root]
  · rw [root]
    rfl
  cases parts with
  | nil => rfl
  | cons c rest =>
      have whole := orderly.whole (List.mem_cons_self ..)
      have empty := orderly.text_eq_empty_iff (List.mem_cons_self ..)
      rw [isAbsolute, toList_text_ofComponents root, List.map_cons]
      by_cases first : c = .root
      · cases rest with
        | nil => exact absurd (congrArg (· :: []) first) root
        | cons next further => simp [first, Component.text]
      · have some' : c.text.toList ≠ [] := by simpa [empty] using first
        obtain ⟨letter, others, text⟩ := List.exists_cons_of_ne_nil some'
        rw [text, List.mem_cons, not_or] at whole
        rw [text, List.intercalate_cons_cons_left]
        simp [first, Ne.symm whole.1]

theorem plainOf_map_text (all : ∀ c ∈ parts, c.Plain) :
    plainOf (parts.map Component.text) = parts := by
  induction parts with
  | nil => rfl
  | cons c rest ih =>
      obtain ⟨plain, others⟩ := List.forall_mem_cons.mp all
      have kept : plainOf ((c :: rest).map Component.text) =
          ofName c.text :: plainOf (rest.map Component.text) := by
        simp [plainOf, plain.text_ne.2]
      rw [kept, plain.ofName_text, ih others]

theorem filter_plain (all : ∀ c ∈ parts, c.Plain) : parts.filter (· ≠ .root) = parts := by
  refine List.filter_eq_self.mpr fun c listed => ?_
  simpa using (all c listed).ne_root

/-- A path of components has just these components. -/
theorem components_ofComponents (orderly : Orderly parts) :
    (ofComponents parts).components = parts := by
  have names := names_ofComponents orderly
  have absolute := isAbsolute_ofComponents orderly
  rw [components_eq, absolute, names]
  cases orderly with
  | root all =>
      rw [List.filter_cons_of_neg (by decide), filter_plain all, plainOf_map_text all]
      rfl
  | current all =>
      rw [List.filter_cons_of_pos (by decide), filter_plain all, List.map_cons]
      show Component.current :: plainOf (_ : List String) = _
      rw [plainOf_map_text all]
  | plain all =>
      rw [filter_plain all]
      cases parts with
      | nil => rfl
      | cons c rest =>
          have plain := (List.forall_mem_cons.mp all).1
          have all' := plainOf_map_text all
          rw [List.map_cons] at all' ⊢
          split
          · next root =>
            exact absurd (Option.some.inj (of_decide_eq_true root)) plain.ne_root
          · split
            · next dot => exact absurd (List.cons.inj dot).1 plain.text_ne.2
            · exact all'

/-- A path of components takes their steps. -/
theorem innerSteps_ofComponents (orderly : Orderly parts) :
    (ofComponents parts).innerSteps = parts.flatMap Component.steps := by
  have plainSteps {rest : List Component} (all : ∀ c ∈ rest, c.Plain) :
      (rest.map Component.text).map stepOf = rest.flatMap Component.steps := by
    induction rest with
    | nil => rfl
    | cons c rest ih =>
        obtain ⟨plain, others⟩ := List.forall_mem_cons.mp all
        have steps := steps_ofName plain.text_ne.2
        rw [plain.ofName_text] at steps
        rw [List.map_cons, List.map_cons, ih others, List.flatMap_cons, steps]
        rfl
  rw [innerSteps_eq, names_ofComponents orderly]
  cases orderly with
  | plain all => rw [filter_plain all, plainSteps all]
  | root all =>
      rw [List.filter_cons_of_neg (by decide), filter_plain all, plainSteps all]
      rfl
  | current all =>
      rw [List.filter_cons_of_pos (by decide), filter_plain all, List.map_cons, List.map_cons,
        plainSteps all]
      rfl

/-! ## Ancestors -/

/-- A path runs through the paths that its first components name. -/
def RunsThrough (p q : Path) : Prop := ∃ k, q = ofComponents (p.components.take k)

namespace RunsThrough

theorem prefix_components (through : p.RunsThrough q) : q.components <+: p.components := by
  obtain ⟨k, rfl⟩ := through
  rw [components_ofComponents ((orderly_components p).take k)]
  exact List.take_prefix k p.components

/-- Where something is left of the path, both begin at the same place. -/
theorem same_start (through : p.RunsThrough q) (some' : q.text ≠ "") :
    q.isAbsolute = p.isAbsolute := by
  obtain ⟨k, rfl⟩ := through
  rw [isAbsolute_ofComponents ((orderly_components p).take k), Path.isAbsolute_eq p]
  cases k with
  | zero => exact absurd rfl some'
  | succ k => rw [List.head?_take, if_neg (Nat.succ_ne_zero k)]

/-- The steps are the first of those that the components take. -/
theorem prefix_innerSteps (through : p.RunsThrough q) :
    q.innerSteps <+: p.components.flatMap Component.steps := by
  obtain ⟨k, rfl⟩ := through
  rw [innerSteps_ofComponents ((orderly_components p).take k)]
  refine ⟨(p.components.drop k).flatMap Component.steps, ?_⟩
  rw [← List.flatMap_append, List.take_append_drop]

end RunsThrough

theorem sublist_namesIn (cs : List Char) :
    ((namesIn cs).map String.toList).Sublist (splitSlash cs) := by
  have same : (namesIn cs).map String.toList =
      (splitSlash cs).filter fun piece => !piece.isEmpty := by
    simp [namesIn, Function.comp_def]
  rw [same]
  exact List.filter_sublist

theorem text_plainOf (names : List String) :
    (plainOf names).map Component.text = names.filter (· ≠ ".") := by
  simp [plainOf, text_ofName, Function.comp_def]

/-- The texts of the components stand between the slashes of the path. -/
theorem sublist_components (p : Path) :
    (p.components.map (·.text.toList)).Sublist (splitSlash p.text.toList) := by
  have same : p.components.map (·.text.toList) =
      (p.components.map Component.text).map String.toList := by
    rw [List.map_map]
    rfl
  rw [same, components_eq]
  split
  · next absolute =>
    obtain ⟨c, rest, text⟩ := List.exists_cons_of_ne_nil
      (l := p.text.toList) fun none' => by simp [isAbsolute, none'] at absolute
    obtain rfl : c = '/' := by simpa [isAbsolute, text] using absolute
    have names : p.names = namesIn rest := by
      show namesIn p.text.toList = _
      rw [text]
      exact namesIn_append [] rest
    rw [List.map_cons, text_plainOf, names, text, List.map_cons, splitSlash, if_pos rfl]
    exact (((List.filter_sublist).map _).trans (sublist_namesIn rest)).cons_cons _
  · have kept : (List.map Component.text (match p.names with
        | "." :: rest => .current :: plainOf rest
        | names => plainOf names)).Sublist p.names := by
      split
      · next rest dot =>
        rw [List.map_cons, text_plainOf, dot]
        exact (List.filter_sublist).cons_cons _
      · rw [text_plainOf]
        exact List.filter_sublist
    exact (kept.map _).trans (sublist_namesIn p.text.toList)

/-- The text is that of the path with characters left out. -/
theorem RunsThrough.sublist (through : p.RunsThrough q) :
    q.text.toList.Sublist p.text.toList := by
  obtain ⟨k, rfl⟩ := through
  by_cases root : p.components.take k = [.root]
  · have absolute : p.isAbsolute = true := by
      rw [Path.isAbsolute_eq, ← List.take_append_drop k p.components, root]
      rfl
    have slash : '/' ∈ p.text.toList := List.mem_of_head? (by simpa [isAbsolute] using absolute)
    rw [root]
    exact List.singleton_sublist.mpr slash
  · rw [toList_text_ofComponents root]
    have fewer := (List.take_sublist k p.components).map (·.text.toList)
    have joined := sublist_intercalate (fewer.trans (sublist_components p))
    rwa [splitSlash_eq_splitOn, List.intercalate_splitOn] at joined

theorem runsThrough_of_mem_parents (listed : q ∈ p.parents) : p.RunsThrough q := by
  obtain ⟨k, -, rfl⟩ := List.mem_map.mp listed
  exact ⟨k, rfl⟩

/-- Of the paths that a path runs through, the nearer ones run through the others. -/
theorem pairwise_parents (p : Path) : (p :: p.parents).Pairwise RunsThrough := by
  refine .cons (fun q => runsThrough_of_mem_parents) ?_
  rw [parents, List.pairwise_map, List.pairwise_reverse]
  refine (List.pairwise_lt_range' 1).imp fun {k j} lower => ⟨k, ?_⟩
  rw [components_ofComponents ((orderly_components p).take j), List.take_take,
    Nat.min_eq_left (Nat.le_of_lt lower)]

end Path

end SceneBench
