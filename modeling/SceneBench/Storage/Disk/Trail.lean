import SceneBench.Storage.Disk.Basic

/-!
# Trails

A trail is a place together with what the directories on the way to it hold, the nearest first, so
that looking up a name, going into a directory and going back up are single steps however deep the
place is. `Disk.trail` is the trail to a place, `Trail.place` is the place of a trail, and each
operation on the trails of a disk is told by what it does to places.
-/

namespace SceneBench

/-- The directories come through on the way from the root, each under its name with what it holds,
and behind them the names of removed ones; both with the nearest first. -/
structure Trail where
  root : Members
  passed : List (String × Members) := []
  lost : List String := []

namespace Trail

/-- What the nearest directory that is still there holds. -/
def members (t : Trail) : Members :=
  match t.passed with
  | [] => t.root
  | (_, m) :: _ => m

/-- The names that lead to that directory. -/
def address (t : Trail) : Address := (t.passed.map Prod.fst).reverse

/-- The place that the trail leads to. -/
def place (t : Trail) : Place := ⟨t.address, t.lost.reverse⟩

/-- Below a removed directory there is nothing. -/
def isLost (t : Trail) : Bool := !t.lost.isEmpty

/-- The trail back to where this one began. -/
def start (t : Trail) : Trail := { root := t.root }

/-- Go into a directory that was found. -/
def enter (t : Trail) (name : String) (m : Members) : Trail :=
  { t with passed := (name, m) :: t.passed }

/-- Go to the directory above; the root is above itself. -/
def up (t : Trail) : Trail :=
  match t.lost with
  | _ :: lost => { t with lost }
  | [] => { t with passed := t.passed.tail }

/-- What is found under a name. -/
def find? (t : Trail) (name : String) : Option Node :=
  if t.isLost then none else t.members.lookup name

/-- Go into one directory after the other. Where there is none nothing is held. -/
def enterAll (t : Trail) : Address → Trail
  | [] => t
  | name :: rest => (t.enter name ((t.members.lookup name).elim [] Node.members)).enterAll rest

theorem enterAll_append (t : Trail) (a b : Address) :
    t.enterAll (a ++ b) = (t.enterAll a).enterAll b := by
  induction a generalizing t with
  | nil => rfl
  | cons name rest ih => simp only [List.cons_append, enterAll, ih]

@[simp] theorem root_enterAll (t : Trail) (a : Address) : (t.enterAll a).root = t.root := by
  induction a generalizing t with
  | nil => rfl
  | cons name rest ih => simp [enterAll, enter, ih]

@[simp] theorem address_enterAll (t : Trail) (a : Address) :
    (t.enterAll a).address = t.address ++ a := by
  induction a generalizing t with
  | nil => simp [enterAll]
  | cons name rest ih =>
    rw [enterAll, ih]
    simp [address, enter]

theorem members_enterAll (t : Trail) (a : Address) :
    (t.enterAll a).members = ((Node.directory t.members).at? a).elim [] Node.members := by
  induction a generalizing t with
  | nil => rfl
  | cons name rest ih =>
    rw [enterAll, ih, Node.at?_cons, Node.members_directory]
    show ((Node.directory ((t.members.lookup name).elim [] Node.members)).at? rest).elim [] _ = _
    cases t.members.lookup name with
    | none => cases rest <;> rfl
    | some n => cases n <;> cases rest <;> rfl

end Trail

/-- The trail to a place on a disk. -/
def Disk.trail (d : Disk) (p : Place) : Trail :=
  { Trail.enterAll { root := d.root } p.live with lost := p.lost.reverse }

namespace Disk

@[simp] theorem address_trail (d : Disk) (p : Place) : (d.trail p).address = p.live := by
  simpa [trail, Trail.address] using Trail.address_enterAll { root := d.root } p.live

/-- The trail to a place leads to that place. -/
@[simp] theorem place_trail (d : Disk) (p : Place) : (d.trail p).place = p := by
  rw [Trail.place, address_trail, trail, List.reverse_reverse]

@[simp] theorem isLost_trail (d : Disk) (p : Place) : (d.trail p).isLost = p.isLost := by
  simp [Trail.isLost, trail, Place.isLost]

/-- A name is found where the tree has it. -/
theorem find?_trail (d : Disk) (p : Place) (name : String) :
    (d.trail p).find? name = if p.isLost then none else d.tree.at? (p.live ++ [name]) := by
  rw [Trail.find?, isLost_trail, Node.at?_append]
  split
  · rfl
  · have : (d.trail p).members = (d.tree.at? p.live).elim [] Node.members :=
      Trail.members_enterAll { root := d.root } p.live
    rw [this]
    cases d.tree.at? p.live with
    | none => rfl
    | some n => simp [Node.at?_cons]

/-- Every trail of a disk began at its root. -/
theorem start_trail (d : Disk) (p : Place) : (d.trail p).start = d.trail .root := by
  simp [trail, Trail.start, Place.root, Trail.enterAll]

/-- Going up leads to the place above. -/
theorem up_trail (d : Disk) (p : Place) : (d.trail p).up = d.trail p.up := by
  obtain ⟨live, lost⟩ := p
  rcases List.eq_nil_or_concat lost with rfl | ⟨rest, name, rfl⟩
  · rcases List.eq_nil_or_concat live with rfl | ⟨rest, name, rfl⟩
    · rfl
    · simp [trail, Trail.up, Place.up, Trail.enterAll_append, Trail.enterAll, Trail.enter]
  · simp [trail, Trail.up, Place.up]

/-- Going into a directory that was found leads to the place of that directory. -/
theorem enter_trail {d : Disk} {p : Place} {name : String} {m : Members}
    (found : (d.trail p).find? name = some (.directory m)) :
    (d.trail p).enter name m = d.trail ⟨p.live ++ [name], []⟩ := by
  obtain ⟨live, lost⟩ := p
  cases lost with
  | cons _ _ => simp [Trail.find?, Place.isLost] at found
  | nil =>
    have held : (Trail.enterAll { root := d.root } live).members.lookup name =
        some (.directory m) := found
    simp [trail, Trail.enterAll_append, Trail.enterAll, Trail.enter, held]

end Disk

end SceneBench
