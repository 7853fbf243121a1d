import SceneBench.Storage.Disk.Walk

/-!
# What a path leads to

A walk that does not end in an error is told by the entries it comes through: directories that are
gone into, links whose targets are followed, and in the end a directory, a leaf, or a name that is
missing. Purposes differ in where they end in errors, and in whether a link at the end is followed;
where writing leads, visiting leads too.
-/

namespace SceneBench

/-- Where a path begins for somebody who is at a place. -/
def Place.start (here : Place) (p : Path) : Place := if p.isAbsolute then .root else here

namespace Disk

variable {d : Disk} {links : Nat} {q : Place} {name : String} {steps rest : List Step}
  {arrival : Arrival}

/-! ## Entries -/

/-- The entry under a name at a place. -/
def held? (d : Disk) (q : Place) (name : String) : Option Entry :=
  if q.isLost then none else d.get? (q.live ++ [name])

theorem map_entry_find? (d : Disk) (q : Place) (name : String) :
    ((d.trail q).find? name).map Node.entry = d.held? q name := by
  rw [find?_trail, held?, get?]
  split <;> rfl

/-- Only a directory that is still there has entries. -/
theorem isLost_of_held? {e : Entry} (found : d.held? q name = some e) : q.isLost = false := by
  cases lost : q.isLost with
  | false => rfl
  | true => simp [held?, lost] at found

theorem held?_of_not_isLost (there : q.isLost = false) (name : String) :
    d.held? q name = d.get? (q.live ++ [name]) := by
  simp [held?, there]

@[simp] theorem get?_nil (d : Disk) : d.get? [] = some .directory := rfl

/-- What has something below it is a directory. -/
theorem get?_of_append {a b : Address} {e : Entry} (found : d.get? (a ++ b) = some e)
    (below : b ≠ []) : d.get? a = some .directory := by
  obtain ⟨name, further, rfl⟩ := List.exists_cons_of_ne_nil below
  rw [get?, Node.at?_append] at found
  rw [get?]
  match node : d.tree.at? a with
  | none => simp [node] at found
  | some (.leaf l) => simp [node, Node.at?_cons, Node.members] at found
  | some (.directory m) => rfl

theorem get?_up (there : d.get? q.live = some .directory) :
    d.get? q.up.live = some .directory := by
  rw [Place.up]
  split
  · rcases List.eq_nil_or_concat q.live with root | ⟨above, name, split⟩
    · rw [root]
      rfl
    · rw [split, List.concat_eq_append] at there
      simpa [split] using get?_of_append there (List.cons_ne_nil _ _)
  · exact there

/-! ## Walks -/

/-- A name that may be looked up at a place: in a removed directory any name may. -/
def Admits (q : Place) (name : String) : Prop := q.isLost ∨ name.utf8ByteSize ≤ longestName

/-- From a place, steps lead to an arrival over at most so many links. -/
inductive Leads (d : Disk) : Nat → Place → List Step → Arrival → Prop
  | arrived {links : Nat} {q : Place} : Leads d links q [] (.directory q)
  | stay {links : Nat} {q : Place} {rest : List Step} {arrival : Arrival}
      (further : Leads d links q rest arrival) : Leads d links q (.stay :: rest) arrival
  | slash {links : Nat} {q : Place} {rest : List Step} {arrival : Arrival}
      (further : Leads d links q rest arrival) : Leads d links q (.slash :: rest) arrival
  | up {links : Nat} {q : Place} {rest : List Step} {arrival : Arrival}
      (further : Leads d links q.up rest arrival) : Leads d links q (.up :: rest) arrival
  | into {links : Nat} {q : Place} {name : String} {rest : List Step} {arrival : Arrival}
      (admits : Admits q name) (found : d.held? q name = some .directory)
      (further : Leads d links ⟨q.live ++ [name], []⟩ rest arrival) :
      Leads d links q (.enter name :: rest) arrival
  | link {links : Nat} {q : Place} {name : String} {rest : List Step} {arrival : Arrival}
      {target : Path} (admits : Admits q name)
      (found : d.held? q name = some (.leaf (.link target)))
      (further : Leads d links (q.start target) (target.steps ++ rest) arrival) :
      Leads d (links + 1) q (.enter name :: rest) arrival
  | leaf {links : Nat} {q : Place} {name : String} {l : Leaf} (admits : Admits q name)
      (found : d.held? q name = some (.leaf l)) (kind : ∀ target, l ≠ .link target) :
      Leads d links q [.enter name] (.leaf (q.live ++ [name]) l)
  | missing {links : Nat} {q : Place} {name : String} (admits : Admits q name)
      (found : d.held? q name = none) :
      Leads d links q [.enter name] (.missing q name)

theorem start_trail_eq (d : Disk) (q : Place) (p : Path) :
    start (d.trail q) p = d.trail (q.start p) := by
  rw [start, Place.start]
  split
  · exact start_trail d q
  · rfl

/-- The name that a walk looks up is one that may be. -/
theorem admits_of_walkWith {purpose : Purpose}
    {jump : Trail → List Step → Except OsError Arrival}
    (walked : walkWith purpose jump (d.trail q) (.enter name :: rest) = .ok arrival) :
    Admits q name := by
  rw [walkWith, isLost_trail] at walked
  split at walked
  · cases walked
  · split at walked
    · cases walked
    · next _ short =>
      cases lost : q.isLost with
      | true => exact .inl lost
      | false => exact .inr (by simpa [lost] using short)

/-- What a walk does with the entry under a name, once the name may be looked up. -/
theorem walkWith_enter {purpose : Purpose} {jump : Trail → List Step → Except OsError Arrival}
    (admits : Admits q name) (open' : ¬ (purpose = .write ∧ rest = [.slash])) :
    walkWith purpose jump (d.trail q) (.enter name :: rest) =
      match d.held? q name with
      | none => if rest.isEmpty then .ok (.missing q name) else .error .notFound
      | some .directory => walkWith purpose jump (d.trail ⟨q.live ++ [name], []⟩) rest
      | some (.leaf (.link target)) =>
        if rest.isEmpty ∧ purpose = .visitLink then
          .ok (.leaf (q.live ++ [name]) (.link target))
        else jump (d.trail (q.start target)) (target.steps ++ rest)
      | some (.leaf l) =>
        if rest.isEmpty then .ok (.leaf (q.live ++ [name]) l) else .error .notADirectory := by
  have short : ¬ (longestName < name.utf8ByteSize ∧ !(d.trail q).isLost) := by
    rw [isLost_trail]
    rintro ⟨long, there⟩
    rcases admits with lost | short
    · simp [lost] at there
    · omega
  rw [walkWith, if_neg open', if_neg short, ← map_entry_find?]
  cases looked : (d.trail q).find? name with
  | none => simp only [place_trail, Option.map_none]
  | some node =>
      cases node with
      | directory m => simp only [enter_trail looked, Option.map_some, Node.entry]
      | leaf l =>
          cases l <;> simp only [address_trail, start_trail_eq, Option.map_some, Node.entry]

/-- An arrival that is not a link which the walk was asked not to follow. -/
def Settled (purpose : Purpose) (arrival : Arrival) : Prop :=
  purpose = .visitLink → ∀ a goal, arrival ≠ .leaf a (.link goal)

theorem settled_of_ne {purpose : Purpose} (plain : purpose ≠ .visitLink) :
    Settled purpose arrival := fun asked => absurd asked plain

theorem settled_missing (purpose : Purpose) (q : Place) (name : String) :
    Settled purpose (.missing q name) := nofun

/-- Steps lead where walking them arrives, if walking from a link does. -/
theorem leads_of_walkWith {purpose : Purpose}
    {jump : Trail → List Step → Except OsError Arrival} (settled : Settled purpose arrival)
    (jumps : ∀ q rest, jump (d.trail q) rest = .ok arrival →
      ∃ fewer, links = fewer + 1 ∧ Leads d fewer q rest arrival)
    (walked : walkWith purpose jump (d.trail q) steps = .ok arrival) :
    Leads d links q steps arrival := by
  induction steps generalizing q with
  | nil =>
      rw [walkWith, place_trail] at walked
      cases walked
      exact .arrived
  | cons step rest ih =>
      cases step with
      | stay => exact .stay (ih walked)
      | slash => exact .slash (ih walked)
      | up =>
          rw [walkWith, up_trail] at walked
          exact .up (ih walked)
      | enter name =>
          have admits := admits_of_walkWith walked
          have open' : ¬ (purpose = .write ∧ rest = [.slash]) := by
            intro closed
            rw [walkWith, if_pos closed] at walked
            cases walked
          rw [walkWith_enter admits open'] at walked
          split at walked
          · next missing =>
            split at walked
            · next last =>
              cases walked
              rw [List.isEmpty_iff.mp last]
              exact .missing admits missing
            · cases walked
          · next found => exact .into admits found (ih walked)
          · next target found =>
            split at walked
            · next asked =>
              cases walked
              exact absurd rfl (settled asked.2 _ _)
            · obtain ⟨fewer, rfl, further⟩ := jumps _ _ walked
              exact .link admits found further
          · next l kind found =>
            split at walked
            · next last =>
              cases walked
              rw [List.isEmpty_iff.mp last]
              exact .leaf admits found fun target same => kind target same
            · cases walked

theorem leads_of_walk {purpose : Purpose} (settled : Settled purpose arrival)
    (walked : walk purpose links (d.trail q) steps = .ok arrival) :
    Leads d links q steps arrival := by
  induction links generalizing q steps with
  | zero => exact leads_of_walkWith settled (fun _ _ jumped => by cases jumped) walked
  | succ links ih =>
      exact leads_of_walkWith settled (fun _ _ jumped => ⟨links, rfl, ih jumped⟩) walked

/-- A walk with few links left differs from one with many only in what it does with a link. -/
theorem exists_walk_eq (purpose : Purpose) (links : Nat) :
    ∃ jump, walk purpose links = walkWith purpose jump := by
  cases links with
  | zero => exact ⟨_, rfl⟩
  | succ links => exact ⟨walk purpose links, rfl⟩

/-- A visit goes where the steps lead. -/
theorem Leads.walk_eq (leads : Leads d links q steps arrival) :
    walk .visit links (d.trail q) steps = .ok arrival := by
  have visits (rest : List Step) : ¬ (Purpose.visit = .write ∧ rest = [.slash]) := nofun
  induction leads with
  | @arrived links q =>
      obtain ⟨jump, walks⟩ := exists_walk_eq .visit links
      rw [walks, walkWith, place_trail]
  | @stay links q rest arrival further ih | @slash links q rest arrival further ih =>
      obtain ⟨jump, walks⟩ := exists_walk_eq .visit links
      rw [walks] at ih ⊢
      exact ih
  | @up links q rest arrival further ih =>
      obtain ⟨jump, walks⟩ := exists_walk_eq .visit links
      rw [walks] at ih ⊢
      rw [walkWith, up_trail]
      exact ih
  | @into links q name rest arrival admits found further ih =>
      obtain ⟨jump, walks⟩ := exists_walk_eq .visit links
      rw [walks] at ih ⊢
      rw [walkWith_enter admits (visits rest), found]
      exact ih
  | @link links q name rest arrival target admits found further ih =>
      rw [walk, walkWith_enter admits (visits rest), found]
      simpa using ih
  | @leaf links q name l admits found kind =>
      obtain ⟨jump, walks⟩ := exists_walk_eq .visit links
      rw [walks, walkWith_enter admits (visits []), found]
      cases l with
      | link target => exact absurd rfl (kind target)
      | file content => rfl
      | device device => rfl
  | @missing links q name admits found =>
      obtain ⟨jump, walks⟩ := exists_walk_eq .visit links
      rw [walks, walkWith_enter admits (visits []), found]
      rfl

/-- Where the steps of a path lead when they are followed. -/
theorem leads_of_followSteps {purpose : Purpose} {p : Path} (settled : Settled purpose arrival)
    (followed : d.followSteps purpose p steps = .ok arrival) :
    refuse? p = none ∧ Leads d mostLinks (d.here.start p) steps arrival := by
  rw [followSteps] at followed
  cases refused : refuse? p with
  | some e =>
      rw [refused] at followed
      cases followed
  | none =>
      rw [refused, start_trail_eq] at followed
      exact ⟨rfl, leads_of_walk settled followed⟩

/-- Where a path leads when it is followed for a purpose that also follows a link at its end. -/
theorem leads_of_follow {purpose : Purpose} {p : Path} (plain : purpose ≠ .visitLink)
    (followed : d.follow purpose p = .ok arrival) :
    refuse? p = none ∧ Leads d mostLinks (d.here.start p) p.steps arrival :=
  leads_of_followSteps (settled_of_ne plain) followed

theorem Leads.follow_eq {p : Path} (proper : refuse? p = none)
    (leads : Leads d mostLinks (d.here.start p) p.steps arrival) :
    d.follow .visit p = .ok arrival := by
  rw [follow, followSteps, proper, start_trail_eq]
  exact leads.walk_eq

/-! ## Where walks arrive -/

/-- An arrival that the tree bears out. -/
def Stands (d : Disk) : Arrival → Prop
  | .directory q => d.get? q.live = some .directory
  | .leaf a l => d.get? a = some (.leaf l)
  | .missing q name => d.get? q.live = some .directory ∧ d.held? q name = none

theorem get?_start (there : d.get? q.live = some .directory) (p : Path) :
    d.get? (q.start p).live = some .directory := by
  rw [Place.start]
  split
  · rfl
  · exact there

/-- From a place that is there, or was, steps lead to what is there. -/
theorem Leads.stands (leads : Leads d links q steps arrival)
    (there : d.get? q.live = some .directory) : d.Stands arrival := by
  induction leads with
  | arrived => exact there
  | stay further ih => exact ih there
  | slash further ih => exact ih there
  | up further ih => exact ih (get?_up there)
  | into admits found further ih =>
      rw [held?_of_not_isLost (isLost_of_held? found)] at found
      exact ih found
  | link admits found further ih => exact ih (get?_start there _)
  | leaf admits found kind =>
      rwa [held?_of_not_isLost (isLost_of_held? found)] at found
  | missing admits found => exact ⟨there, found⟩

end Disk

end SceneBench
