import SceneBench.Storage.Disk.Trail
import SceneBench.Storage.Error

/-!
# Following a path

A path is followed step by step from the root or the working directory. Whatever a step leads to
must be a directory if there are more steps, and a trailing slash is one more step. A link is
replaced by the steps of its target, unless it comes last and the caller asked for the link itself;
no more than forty links are followed. A name is only looked at where there is a directory to look
into, so in a removed one a name that is too long is missing like any other.

When only the last name is missing, the walk still tells the directory in which it is missing,
because that is where a new entry would go.
-/

namespace SceneBench

/-- One step along a path. -/
inductive Step where
  | stay
  | up
  | enter (name : String)
  | slash
  deriving DecidableEq, Repr

/-- The steps of a path, without those that a trailing slash adds. -/
def Path.innerSteps (p : Path) : List Step :=
  p.names.map fun name => if name = "." then .stay else if name = ".." then .up else .enter name

/-- The steps of a path. -/
def Path.steps (p : Path) : List Step :=
  if p.endsInSlash then p.innerSteps ++ [.slash] else p.innerSteps

/-- Where a walk has led. -/
inductive Arrival where
  | directory (place : Place)
  | leaf (address : Address) (leaf : Leaf)
  | missing (place : Place) (name : String)
  deriving DecidableEq, Repr

/-- What a walk is for, which decides over its last step. -/
inductive Purpose where
  | visit
  | visitLink
  | write
  deriving DecidableEq, Repr

namespace Disk

/-- The longest name of an entry, in bytes. -/
def longestName : Nat := 255

/-- The longest path, in bytes. -/
def longestPath : Nat := 4095

/-- How many links one walk follows. -/
def mostLinks : Nat := 40

/-- Where the steps of a path begin. -/
def start (here : Trail) (p : Path) : Trail := if p.isAbsolute then here.start else here

/-- Follow steps from the end of a trail; `jump` goes on from a link. -/
def walkWith (purpose : Purpose) (jump : Trail → List Step → Except OsError Arrival) :
    Trail → List Step → Except OsError Arrival
  | trail, [] => .ok (.directory trail.place)
  | trail, .stay :: rest => walkWith purpose jump trail rest
  | trail, .slash :: rest => walkWith purpose jump trail rest
  | trail, .up :: rest => walkWith purpose jump trail.up rest
  | trail, .enter name :: rest =>
    if purpose = .write ∧ rest = [.slash] then .error .isADirectory
    else if longestName < name.utf8ByteSize ∧ !trail.isLost then .error .nameTooLong
    else
      match trail.find? name with
      | none => if rest.isEmpty then .ok (.missing trail.place name) else .error .notFound
      | some (.directory members) => walkWith purpose jump (trail.enter name members) rest
      | some (.leaf (.link target)) =>
        if rest.isEmpty ∧ purpose = .visitLink then
          .ok (.leaf (trail.address ++ [name]) (.link target))
        else jump (start trail target) (target.steps ++ rest)
      | some (.leaf leaf) =>
        if rest.isEmpty then .ok (.leaf (trail.address ++ [name]) leaf) else .error .notADirectory

/-- Follow steps from the end of a trail through at most the given number of links. -/
def walk (purpose : Purpose) : Nat → Trail → List Step → Except OsError Arrival
  | 0 => walkWith purpose fun _ _ => .error .tooManyLinks
  | links + 1 => walkWith purpose (walk purpose links)

/-- What is wrong with a path before any step is taken. -/
def refuse? (p : Path) : Option OsError :=
  if p.text.toList.contains '\x00' then some .nulInName
  else if longestPath < p.text.utf8ByteSize then some .nameTooLong
  else if p.text.isEmpty then some .notFound
  else none

/-- Follow the given steps of a path. -/
def followSteps (d : Disk) (purpose : Purpose) (p : Path) (steps : List Step) :
    Except OsError Arrival :=
  match refuse? p with
  | some e => .error e
  | none => walk purpose mostLinks (start (d.trail d.here) p) steps

/-- Follow a path. -/
def follow (d : Disk) (purpose : Purpose) (p : Path) : Except OsError Arrival :=
  d.followSteps purpose p p.steps

end Disk

end SceneBench
