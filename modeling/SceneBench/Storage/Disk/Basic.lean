import SceneBench.Storage.Disk.Node

/-!
# A disk

A disk is a tree of directories and leaves with a working directory. The working directory is a
place of its own: it survives the removal of its directory, as a place where nothing can be found or
made and from which only the way up leads back.
-/

namespace SceneBench

/-- A directory, or what is left of one: the names below `live` belong to directories that have been
removed. -/
structure Place where
  live : Address
  lost : List String := []
  deriving DecidableEq, Repr

namespace Place

def root : Place := ⟨[], []⟩

/-- The directory above; the root is above itself. -/
def up (p : Place) : Place :=
  if p.lost.isEmpty then ⟨p.live.dropLast, []⟩ else ⟨p.live, p.lost.dropLast⟩

/-- Below a removed directory there is nothing. -/
def isLost (p : Place) : Bool := !p.lost.isEmpty

/-- The place after everything below an address was removed. -/
def afterClearing (cleared : Address) (p : Place) : Place :=
  if cleared.isPrefixOf p.live then ⟨cleared, p.live.drop cleared.length ++ p.lost⟩ else p

/-- The place after the entry at an address was removed. -/
def afterRemoval (removed : Address) (p : Place) : Place :=
  if removed.isPrefixOf p.live ∧ removed ≠ [] then
    ⟨removed.dropLast, p.live.drop (removed.length - 1) ++ p.lost⟩
  else p

end Place

structure Disk where
  root : Members
  here : Place

namespace Disk

/-- The whole tree. -/
def tree (d : Disk) : Node := .directory d.root

/-- The entry at an address. -/
def get? (d : Disk) (a : Address) : Option Entry := (d.tree.at? a).map Node.entry

/-- Put a node at an address, in place of the one that was there. -/
def put (d : Disk) (a : Address) (n : Node) : Disk :=
  { d with root := (Node.put n d.tree a).members }

/-- Remove the entry at an address, with everything below it. -/
def remove (d : Disk) (a : Address) : Disk :=
  { root := (d.tree.remove a).members, here := d.here.afterRemoval a }

/-- Remove everything in the directory at an address, and leave the directory itself. -/
def clear (d : Disk) (a : Address) : Disk :=
  { d.put a (.directory []) with here := d.here.afterClearing a }

/-- The entries below an address, each under the names that lead to it from there. -/
def below (d : Disk) (a : Address) : List (Address × Entry) :=
  (d.tree.at? a).elim [] Node.listing

/-- The disk of a system that has just started: two devices and a directory for scratch work. -/
def fresh : Disk :=
  { root :=
      [ ("dev", .directory [("null", .leaf (.device .null)), ("full", .leaf (.device .full))]),
        ("tmp", .directory []) ]
    here := .root }

end Disk

end SceneBench
