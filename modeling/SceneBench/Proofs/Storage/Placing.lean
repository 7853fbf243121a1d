import SceneBench.Proofs.Storage.Following
import SceneBench.Storage.Disk.Host

/-!
# Files are found again

A file is written where its path leads, over an older file or in a directory that lacks the name.
Neither is on the way there, and directories on the way stay as they are; so the path leads to the
file from then on. A device that a path leads to takes what is written without keeping it.
-/

namespace SceneBench

namespace Node

/-- What is put below a node makes this node a directory. -/
theorem at?_put_of_passed {new n : Node} {a b : Address} (passed : b <+: a) (short : b ≠ a) :
    ∃ m, (put new n a).at? b = some (.directory m) := by
  induction a generalizing n b with
  | nil => exact absurd (List.prefix_nil.mp passed) short
  | cons name a ih =>
      cases b with
      | nil => exact ⟨_, at?_nil _⟩
      | cons other b =>
          obtain ⟨rfl, further⟩ := List.cons_prefix_cons.mp passed
          rw [put, at?_cons, members_directory, Members.lookup_set, if_pos rfl, Option.bind_some]
          exact ih further fun same => short (congrArg _ same)

end Node

namespace Disk

variable {d : Disk} {a b : Address} {new : Node} {e : Entry} {q : Place} {name : String}
  {links : Nat} {steps : List Step} {arrival : Arrival} {content : List UInt8}

/-! ## After a node was put -/

theorem tree_put (below : a ≠ []) (d : Disk) (new : Node) :
    (d.put a new).tree = Node.put new d.tree a := by
  obtain ⟨name, rest, rfl⟩ := List.exists_cons_of_ne_nil below
  rfl

theorem get?_put_self (below : a ≠ []) : (d.put a new).get? a = some new.entry := by
  rw [get?, tree_put below, Node.at?_put_self, Option.map_some]

/-- What is found beside the way to a node is found when the node is put, and so are the directories
on the way. -/
theorem get?_put (bare : d.get? a ≠ some .directory) (found : d.get? b = some e) (other : b ≠ a)
    (passed : b <+: a → e = .directory) : (d.put a new).get? b = some e := by
  have below : a ≠ [] := fun root => bare (root ▸ get?_nil d)
  rw [get?, tree_put below]
  by_cases onWay : b <+: a
  · obtain ⟨m, put⟩ : ∃ m, (Node.put new d.tree a).at? b = some (.directory m) :=
      Node.at?_put_of_passed onWay other
    rw [put, passed onWay, Option.map_some, Node.entry]
  · have past : ¬ a <+: b := by
      rintro ⟨rest, rfl⟩
      refine bare (get?_of_append found ?_)
      rintro rfl
      exact other (List.append_nil a)
    rw [Node.at?_put_of_apart past onWay]
    exact found

/-! ## Writing a file -/

/-- The address that a file gets that is written at an arrival: that of the file before it, or that
of the name that is missing from a directory that is still there. -/
def target? : Arrival → Option Address
  | .leaf a (.file _) => some a
  | .missing q name => if q.isLost then none else some (q.live ++ [name])
  | _ => none

theorem exists_of_target? (target : target? arrival = some a) :
    (∃ old, arrival = .leaf a (.file old)) ∨
      ∃ q name, arrival = .missing q name ∧ q.isLost = false ∧ a = q.live ++ [name] := by
  match arrival, target with
  | .leaf _ (.file old), rfl => exact .inl ⟨old, rfl⟩
  | .missing q name, target =>
      cases lost : q.isLost with
      | true => simp [target?, lost] at target
      | false => exact .inr ⟨q, name, rfl, lost, by simpa [target?, lost] using target.symm⟩

/-- Where a file goes there is nothing but a file, and all the way there are directories. -/
theorem Stands.target (stands : d.Stands arrival) (target : target? arrival = some a) :
    (∀ e, d.get? a = some e → ∃ old, e = .leaf (.file old)) ∧
      ∀ b, b <+: a → b ≠ a → d.get? b = some .directory := by
  obtain ⟨old, rfl⟩ | ⟨q, name, rfl, there, rfl⟩ := exists_of_target? target
  · refine ⟨fun e found => ⟨old, Option.some.inj (found.symm.trans stands)⟩, ?_⟩
    rintro b ⟨rest, rfl⟩ other
    exact get?_of_append stands fun none' => other (by rw [none', List.append_nil])
  · obtain ⟨directory, missing⟩ := stands
    rw [held?_of_not_isLost there] at missing
    refine ⟨fun e found => (nomatch found.symm.trans missing), fun b passed other => ?_⟩
    obtain ⟨rest, split⟩ := (List.prefix_concat_iff.mp passed).resolve_left other
    rw [← split] at directory
    by_cases here : rest = []
    · rwa [here, List.append_nil] at directory
    · exact get?_of_append directory here

/-- Whatever leads on, a directory or a link, is still found when the file was put. -/
theorem held?_put (stands : d.Stands arrival) (target : target? arrival = some a)
    (found : d.held? q name = some e) (leads : ∀ old, e ≠ .leaf (.file old)) :
    (d.put a new).held? q name = some e := by
  have there := isLost_of_held? found
  rw [held?_of_not_isLost there] at found ⊢
  obtain ⟨file, way⟩ := stands.target target
  have other : q.live ++ [name] ≠ a := by
    rintro rfl
    obtain ⟨old, same⟩ := file e found
    exact leads old same
  refine get?_put (fun directory => ?_) found other fun passed => ?_
  · obtain ⟨old, same⟩ := file _ directory
    cases same
  · exact Option.some.inj (found.symm.trans (way _ passed other))

/-- Where a file was put, the steps that led there find it. -/
theorem Leads.put (leads : Leads d links q steps arrival) (target : target? arrival = some a) :
    Leads (d.put a (.leaf (.file content))) links q steps (.leaf a (.file content)) := by
  induction leads with
  | arrived => cases target
  | stay further ih => exact .stay (ih target)
  | slash further ih => exact .slash (ih target)
  | up further ih => exact .up (ih target)
  | into admits found further ih =>
      have below := found
      rw [held?_of_not_isLost (isLost_of_held? found)] at below
      exact .into admits (held?_put (further.stands below) target found (by simp)) (ih target)
  | @link links q name rest arrival goal admits found further ih =>
      have below := found
      rw [held?_of_not_isLost (isLost_of_held? found)] at below
      have there := get?_start (get?_of_append below (List.cons_ne_nil _ _)) goal
      exact .link admits (held?_put (further.stands there) target found (by simp)) (ih target)
  | @leaf links q name l admits found kind =>
      obtain ⟨old, same⟩ | ⟨_, _, same, _⟩ := exists_of_target? target
      · cases same
        cases target
        refine .leaf admits ?_ (by simp)
        rw [held?_of_not_isLost (isLost_of_held? found)]
        exact get?_put_self (by simp)
      · cases same
  | @missing links q name admits found =>
      obtain ⟨old, same⟩ | ⟨_, _, same, there, rfl⟩ := exists_of_target? target
      · cases same
      · cases same
        refine .leaf admits ?_ (by simp)
        rw [held?_of_not_isLost there]
        exact get?_put_self (by simp)

/-- Content that was written without an error is put where the path leads, unless a device took
it. -/
theorem exists_of_replaceFile {p : Path} {d' : Disk}
    (written : d.replaceFile p content = (.ok (), d')) :
    ∃ arrival, d.follow .write p = .ok arrival ∧
      ((∃ a, target? arrival = some a ∧ d' = d.put a (.leaf (.file content))) ∨
        d' = d ∧ ∃ a device, arrival = .leaf a (.device device)) := by
  rw [replaceFile] at written
  match followed : d.follow .write p with
  | .error e => simp [followed] at written
  | .ok (.directory q) => simp [followed] at written
  | .ok (.leaf a (.file old)) =>
      simp only [followed, Prod.mk.injEq, true_and] at written
      exact ⟨_, rfl, .inl ⟨a, rfl, written.symm⟩⟩
  | .ok (.leaf a (.link goal)) => simp [followed] at written
  | .ok (.leaf a (.device .null)) =>
      simp only [followed, Prod.mk.injEq, true_and] at written
      exact ⟨_, rfl, .inr ⟨written.symm, a, .null, rfl⟩⟩
  | .ok (.leaf a (.device .full)) =>
      simp only [followed] at written
      split at written
      · exact ⟨_, rfl, .inr ⟨(congrArg Prod.snd written).symm, a, .full, rfl⟩⟩
      · cases written
  | .ok (.missing q name) =>
      simp only [followed, make] at written
      cases lost : q.isLost with
      | true => simp [lost] at written
      | false =>
          simp only [lost, Bool.false_eq_true, if_false, Prod.mk.injEq, true_and] at written
          exact ⟨_, rfl, .inl ⟨q.live ++ [name], by simp [target?, lost], written.symm⟩⟩

/-- What was written is what the path leads to, or else it leads to a device. -/
theorem follow_of_replaceFile {p : Path} {d' : Disk}
    (written : d.replaceFile p content = (.ok (), d')) :
    (∃ a, d'.follow .visit p = .ok (.leaf a (.file content))) ∨
      ∃ a device, d'.follow .visit p = .ok (.leaf a (.device device)) := by
  obtain ⟨arrival, followed, put | ⟨rfl, a, device, rfl⟩⟩ := exists_of_replaceFile written
  · obtain ⟨a, target, rfl⟩ := put
    obtain ⟨proper, leads⟩ := leads_of_follow (by decide) followed
    exact .inl ⟨a, Leads.follow_eq proper (leads.put target)⟩
  · obtain ⟨proper, leads⟩ := leads_of_follow (by decide) followed
    exact .inr ⟨a, device, leads.follow_eq proper⟩

end Disk

end SceneBench
