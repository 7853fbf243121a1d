import SceneBench.Storage.Path

/-!
# Trees of directories

A directory holds nodes under names, and a node is a directory again or a leaf. An address is the
list of names that leads to a node without passing through a link, so no two addresses name the same
node. What a node is, whatever it holds, is its entry.
-/

namespace SceneBench

/-- The names that lead to a node from the root. -/
abbrev Address := List String

/-- The devices that a disk may hold: one that takes everything, and one that has room for
nothing. -/
inductive Device where
  | null
  | full
  deriving DecidableEq, Repr

/-- What holds no further names. -/
inductive Leaf where
  | file (content : List UInt8)
  | link (target : Path)
  | device (device : Device)
  deriving DecidableEq, Repr

/-- What is told of a node: that it is a directory, or the leaf that it is. -/
inductive Entry where
  | directory
  | leaf (leaf : Leaf)
  deriving DecidableEq, Repr

inductive Node where
  | directory (members : List (String × Node))
  | leaf (leaf : Leaf)
  deriving Inhabited

/-- What a directory holds; the first node of a name counts. -/
abbrev Members := List (String × Node)

namespace Members

/-- Hold a node under a name, in place of the one that was there. -/
def set (m : Members) (name : String) (n : Node) : Members :=
  (name, n) :: m.filter fun member => member.1 ≠ name

/-- Hold nothing under a name. -/
def unset (m : Members) (name : String) : Members := m.filter fun member => member.1 ≠ name

theorem lookup_cons (m : Members) (held other : String) (n : Node) :
    ((held, n) :: m).lookup other = if other = held then some n else m.lookup other := by
  rw [List.lookup_cons]
  by_cases h : other = held
  · simp [h]
  · simp [h, beq_false_of_ne h]

@[simp] theorem lookup_unset (m : Members) (name other : String) :
    (m.unset name).lookup other = if other = name then none else m.lookup other := by
  induction m with
  | nil => simp [unset]
  | cons member m ih =>
    obtain ⟨held, n⟩ := member
    by_cases h : held = name
    · have : unset ((held, n) :: m) name = unset m name := by simp [unset, h]
      rw [this, ih, lookup_cons, h]
      split <;> rfl
    · have : unset ((held, n) :: m) name = (held, n) :: unset m name := by simp [unset, h]
      rw [this, lookup_cons, lookup_cons, ih]
      by_cases h' : other = held
      · simp [h', h]
      · simp [h']

@[simp] theorem lookup_set (m : Members) (name other : String) (n : Node) :
    (m.set name n).lookup other = if other = name then some n else m.lookup other := by
  show ((name, n) :: m.unset name).lookup other = _
  rw [lookup_cons, lookup_unset]
  split <;> rfl

end Members

namespace Node

def entry : Node → Entry
  | directory _ => .directory
  | leaf l => .leaf l

/-- What a node holds; a leaf holds nothing. -/
def members : Node → Members
  | directory m => m
  | leaf _ => []

/-- The node at an address below this one. -/
def at? : Node → Address → Option Node
  | n, [] => some n
  | leaf _, _ :: _ => none
  | directory m, name :: rest => (m.lookup name).bind fun n => n.at? rest

/-- Put a node at an address. The directories on the way are made where they are missing. -/
def put (new : Node) : Node → Address → Node
  | _, [] => new
  | n, name :: rest =>
    let below := (n.members.lookup name).getD (directory [])
    directory (n.members.set name (put new below rest))

/-- Remove the node at an address, with everything below it. The root stays. -/
def remove : Node → Address → Node
  | directory m, [name] => directory (Members.unset m name)
  | directory m, name :: rest =>
    match m.lookup name with
    | some n => directory (Members.set m name (n.remove rest))
    | none => directory m
  | n, _ => n

/-- The entries below a node, each under the address that leads to it from there. -/
def listing : Node → List (Address × Entry)
  | leaf _ => []
  | directory m => all m
where
  all : List (String × Node) → List (Address × Entry)
    | [] => []
    | (name, n) :: rest =>
      ([name], n.entry) :: n.listing.map (fun (names, e) => (name :: names, e)) ++ all rest

@[simp] theorem members_directory (m : Members) : (directory m).members = m := rfl

@[simp] theorem at?_nil (n : Node) : n.at? [] = some n := by cases n <;> rfl

theorem at?_cons (n : Node) (name : String) (rest : Address) :
    n.at? (name :: rest) = (n.members.lookup name).bind fun n => n.at? rest := by
  cases n <;> rfl

/-- An address leads on from where its beginning leads. -/
theorem at?_append (n : Node) (a b : Address) :
    n.at? (a ++ b) = (n.at? a).bind fun n => n.at? b := by
  induction a generalizing n with
  | nil => simp
  | cons name rest ih => simp [at?_cons, ih, Option.bind_assoc]

/-- What was put is found. -/
@[simp] theorem at?_put_self (new n : Node) (a : Address) : (put new n a).at? a = some new := by
  induction a generalizing n with
  | nil => simp [put]
  | cons name rest ih => simp [put, at?_cons, ih]

/-- Nothing changes under addresses that neither lead to what was put nor through it. -/
theorem at?_put_of_apart {new n : Node} {a b : Address} (past : ¬ a <+: b) (short : ¬ b <+: a) :
    (put new n a).at? b = n.at? b := by
  induction a generalizing n b with
  | nil => exact absurd List.nil_prefix past
  | cons name a ih =>
    cases b with
    | nil => exact absurd List.nil_prefix short
    | cons other b =>
      simp only [put, at?_cons, members_directory, Members.lookup_set]
      split
      · next same =>
        subst same
        simp only [List.cons_prefix_cons, true_and] at past short
        rw [Option.bind_some, ih past short]
        cases n.members.lookup other with
        | some _ => rfl
        | none =>
          cases b with
          | nil => exact absurd List.nil_prefix short
          | cons _ _ => rfl
      · rfl

end Node

end SceneBench
