import SceneBench.Proofs.Storage.Placing

/-!
# What operations leave standing

A working directory stands if it is a directory, or if the part of it that is left when directories
were removed is one. No operation on a disk changes that, so whatever a program asks for, its paths
go on from a directory. And where the working directory stands, a file that is written changes what
is found at one address and at no other.
-/

namespace SceneBench

namespace Node

/-- What is removed below a directory is removed from what the directory holds. -/
theorem remove_cons_cons (m : Members) (name further : String) (a : Address) :
    (directory m).remove (name :: further :: a) =
      match m.lookup name with
      | some n => directory (m.set name (n.remove (further :: a)))
      | none => directory m := rfl

/-- Nothing but what is removed, with everything below it, is missed. -/
theorem entry_at?_remove {n : Node} {a b : Address} (past : ¬ a <+: b) :
    ((n.remove a).at? b).map entry = (n.at? b).map entry := by
  induction a generalizing n b with
  | nil => exact absurd List.nil_prefix past
  | cons name a ih =>
      cases n with
      | leaf l => cases a <;> rfl
      | directory m =>
          cases b with
          | nil =>
              cases a with
              | nil => rfl
              | cons further a =>
                  rw [remove_cons_cons]
                  split <;> rfl
          | cons other b =>
              have apart (same : other = name) : ¬ a <+: b := fun front =>
                past (List.cons_prefix_cons.mpr ⟨same.symm, front⟩)
              cases a with
              | nil =>
                  have other' : other ≠ name := fun same => apart same List.nil_prefix
                  rw [remove, at?_cons, at?_cons, members_directory, members_directory,
                    Members.lookup_unset, if_neg other']
              | cons further a =>
                  rw [remove_cons_cons]
                  cases held : m.lookup name with
                  | none => rfl
                  | some n =>
                      dsimp only
                      rw [at?_cons, at?_cons, members_directory, members_directory,
                        Members.lookup_set]
                      split
                      · next same =>
                        rw [same, held, Option.bind_some, Option.bind_some, ih (apart same)]
                      · rfl

end Node

namespace Disk

variable {d d' : Disk} {a b : Address} {new : Node} {q : Place} {name : String}
  {arrival : Arrival} {content : List UInt8} {p : Path}

/-! ## What is found after a change -/

theorem get?_remove (past : ¬ a <+: b) : (d.remove a).get? b = d.get? b := by
  have root : (d.remove a).tree = d.tree.remove a := by
    show Node.directory (Node.remove (.directory d.root) a).members = _
    match a with
    | [] => rfl
    | [name] => rfl
    | name :: further :: a =>
        rw [tree, Node.remove_cons_cons]
        split <;> rfl
  rw [get?, root, Node.entry_at?_remove past, get?]

/-- A directory that is not below an address is still there when something is put at the address. -/
theorem get?_put_directory (past : ¬ a <+: b) (found : d.get? b = some .directory) :
    (d.put a new).get? b = some .directory := by
  have below : a ≠ [] := by
    rintro rfl
    exact past List.nil_prefix
  rw [get?, tree_put below]
  by_cases onWay : b <+: a
  · obtain ⟨m, put⟩ : ∃ m, (Node.put new d.tree a).at? b = some (.directory m) :=
      Node.at?_put_of_passed onWay fun same => past (same ▸ List.prefix_refl a)
    rw [put, Option.map_some, Node.entry]
  · rw [Node.at?_put_of_apart past onWay]
    exact found

/-- What is put where there is no directory, but a way of directories to it, changes what is found
there and nowhere else. -/
theorem get?_put_eq (bare : d.get? a ≠ some .directory)
    (way : ∀ b, b <+: a → b ≠ a → d.get? b = some .directory) (empty : new.members = [])
    (b : Address) : (d.put a new).get? b = if b = a then some new.entry else d.get? b := by
  have below : a ≠ [] := fun root => bare (root ▸ get?_nil d)
  split
  · next same => rw [same, get?_put_self below]
  · next other =>
    by_cases past : a <+: b
    · obtain ⟨rest, rfl⟩ := past
      obtain ⟨name, further, rfl⟩ := List.exists_cons_of_ne_nil
        fun none' : rest = [] => other (none' ▸ List.append_nil a)
      have nothing : d.get? (a ++ name :: further) = none := by
        match found : d.get? (a ++ name :: further) with
        | none => rfl
        | some e => exact absurd (get?_of_append found (List.cons_ne_nil _ _)) bare
      rw [nothing, get?, tree_put below, Node.at?_append, Node.at?_put_self, Option.bind_some,
        Node.at?_cons, empty]
      rfl
    · by_cases onWay : b <+: a
      · rw [way b onWay other]
        exact get?_put_directory past (way b onWay other)
      · rw [get?, tree_put below, Node.at?_put_of_apart past onWay, get?]

/-- A file or an empty directory that is made, or a file that is replaced, is all that changes. -/
theorem Stands.get?_put (stands : d.Stands arrival) (target : target? arrival = some a)
    (empty : new.members = []) (b : Address) :
    (d.put a new).get? b = if b = a then some new.entry else d.get? b := by
  obtain ⟨file, way⟩ := stands.target target
  refine get?_put_eq (fun directory => ?_) way empty b
  obtain ⟨old, same⟩ := file _ directory
  cases same

/-! ## The working directory -/

/-- The working directory is there, or what is left of the way to it is. -/
def Standing (d : Disk) : Prop := d.get? d.here.live = some .directory

theorem standing_fresh : Standing fresh := rfl

theorem Standing.start (standing : d.Standing) (p : Path) :
    d.get? (d.here.start p).live = some .directory := get?_start standing p

/-- Where steps lead something stands. -/
theorem Standing.stands {purpose : Purpose} {steps : List Step} (standing : d.Standing)
    (settled : Settled purpose arrival) (followed : d.followSteps purpose p steps = .ok arrival) :
    d.Stands arrival :=
  (leads_of_followSteps settled followed).2.stands (standing.start p)

/-- A path leads to a directory that is there, or was. -/
theorem Standing.get?_of_follow (standing : d.Standing)
    (followed : d.follow .visit p = .ok (.directory q)) : d.get? q.live = some .directory := by
  have plain : Settled .visit (.directory q) := settled_of_ne (by decide)
  have stands : d.Stands (.directory q) := standing.stands plain followed
  exact stands

theorem Standing.put (standing : d.Standing) (stands : d.Stands arrival)
    (target : target? arrival = some a) (empty : new.members = []) : (d.put a new).Standing := by
  show (d.put a new).get? d.here.live = _
  rw [stands.get?_put target empty, if_neg]
  · exact standing
  · intro same
    have there : d.get? a = some .directory := same ▸ show d.get? d.here.live = _ from standing
    obtain ⟨old, file⟩ := (stands.target target).1 _ there
    cases file

theorem Standing.make (standing : d.Standing) (stands : d.Stands (.missing q name))
    (empty : new.members = []) : (d.make q name new).2.Standing := by
  rw [Disk.make]
  split
  · exact standing
  · next there => exact standing.put stands (by rw [target?, if_neg there]) empty

/-- From below a directory that is removed, the working directory falls back to the one above. -/
theorem Standing.remove (standing : d.Standing) (a : Address) : (d.remove a).Standing := by
  show (d.remove a).get? (d.here.afterRemoval a).live = _
  rw [Place.afterRemoval]
  split
  · next removed =>
    obtain ⟨inside, below⟩ := removed
    obtain ⟨rest, split⟩ := List.isPrefixOf_iff_prefix.mp inside
    obtain ⟨above, name, rfl⟩ := (List.eq_nil_or_concat a).resolve_left below
    rw [List.concat_eq_append] at split ⊢
    have past : ¬ above ++ [name] <+: above := fun front => by
      have short := front.length_le
      rw [List.length_append, List.length_singleton] at short
      omega
    rw [List.dropLast_concat, get?_remove past]
    have there : d.get? d.here.live = some .directory := standing
    rw [← split, List.append_assoc] at there
    exact get?_of_append there (List.cons_ne_nil name rest)
  · next kept =>
    by_cases root : a = []
    · subst root
      exact standing
    · rw [get?_remove fun inside => kept ⟨List.isPrefixOf_iff_prefix.mpr inside, root⟩]
      exact standing

/-- From below a directory that is emptied, the working directory falls back to that one. -/
theorem Standing.clear (standing : d.Standing) (a : Address) : (d.clear a).Standing := by
  show (d.put a (.directory [])).get? (d.here.afterClearing a).live = _
  rw [Place.afterClearing]
  split
  · match a with
    | [] => rfl
    | name :: further => exact get?_put_self (List.cons_ne_nil _ _)
  · next outside =>
    exact get?_put_directory (fun front => outside (List.isPrefixOf_iff_prefix.mpr front)) standing

/-! ## Operations -/

theorem Standing.makeDirectory (standing : d.Standing) (p : Path) :
    (d.makeDirectory p).2.Standing := by
  rw [Disk.makeDirectory]
  split
  · exact standing
  · next q name followed =>
    exact standing.make (standing.stands (settled_missing _ _ _) followed) rfl
  · exact standing

theorem Standing.removeEmptied (standing : d.Standing) (p : Path) :
    (d.removeEmptied p).2.Standing := by
  have unlessGone (e : OsError) : (if e.kind = .notFound then (.ok (), d) else (.error e, d) :
      Except OsError Unit × Disk).2 = d := by
    split <;> rfl
  rw [Disk.removeEmptied]
  split
  · exact standing
  · split
    · exact standing.remove _
    · exact standing
    · exact standing
    · rwa [unlessGone]
  · split
    · exact standing
    · exact standing
    · exact standing
    · rwa [unlessGone]

theorem Standing.removeTree (standing : d.Standing) (p : Path) : (d.removeTree p).2.Standing := by
  rw [Disk.removeTree]
  split
  · exact standing
  · exact standing.remove _
  · exact standing
  · exact standing
  · refine Standing.removeEmptied ?_ p
    split
    · exact standing
    · exact standing.clear _

/-- What could not be written under a path changed nothing. -/
theorem eq_of_replaceFile {fault : ReplaceFault}
    (failed : d.replaceFile p content = (.error fault, d')) : d' = d := by
  rw [replaceFile] at failed
  split at failed
  · exact (congrArg Prod.snd failed).symm
  · exact (congrArg Prod.snd failed).symm
  · cases failed
  · cases failed
  · split at failed
    · cases failed
    · exact (congrArg Prod.snd failed).symm
  · exact (congrArg Prod.snd failed).symm
  · next q name followed =>
    split at failed
    · cases failed
    · next e d'' made =>
      cases failed
      rw [make] at made
      split at made
      · exact (congrArg Prod.snd made).symm
      · cases made

theorem Standing.replaceFile (standing : d.Standing) (p : Path) (content : List UInt8) :
    (d.replaceFile p content).2.Standing := by
  rcases written : d.replaceFile p content with ⟨answer, d'⟩
  cases answer with
  | error fault => exact eq_of_replaceFile written ▸ standing
  | ok _ =>
      obtain ⟨arrival, followed, ⟨a, target, rfl⟩ | ⟨rfl, -⟩⟩ := exists_of_replaceFile written
      · exact standing.put (standing.stands (settled_of_ne (by decide)) followed) target rfl
      · exact standing

theorem Standing.changeDirectory (standing : d.Standing) (p : Path) :
    (d.changeDirectory p).2.Standing := by
  rw [Disk.changeDirectory]
  split
  · exact standing
  · next q followed => exact standing.get?_of_follow followed
  · exact standing
  · exact standing

/-- Whatever a program asks a disk for, the working directory goes on to stand. -/
theorem Standing.run {α : Type} (act : Action α) {w : World Disk} (standing : w.state.Standing) :
    (act.run host w).2.state.Standing := by
  obtain ⟨d, log⟩ := w
  replace standing : d.Standing := standing
  induction act generalizing d log with
  | done value => exact standing
  | note notice next ih => exact ih d _ standing
  | inspect path next ih => exact ih _ d log standing
  | makeDirectory path next ih => exact ih _ _ log (standing.makeDirectory path)
  | removeTree path next ih => exact ih _ _ log (standing.removeTree path)
  | replaceFile path content next ih => exact ih _ _ log (standing.replaceFile path content)
  | openFile path next ih => exact ih _ d log standing
  | currentDirectory next ih => exact ih _ d log standing
  | changeDirectory path next ih => exact ih _ _ log (standing.changeDirectory path)

end Disk

end SceneBench
