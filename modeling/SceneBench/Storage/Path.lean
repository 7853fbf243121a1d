/-!
# Paths

A path is the text it was written as: joining never changes what is already there. What a path
means is its list of components, in which repeated slashes, a trailing slash and every dot but a
leading one leave no trace; two paths name the same entry by name when their components agree.
-/

namespace SceneBench

structure Path where
  text : String
  deriving DecidableEq, Repr, Inhabited

namespace Path

instance : ToString Path := ⟨Path.text⟩

/-- The pieces of a text between slashes, empty ones included. -/
def splitSlash : List Char → List (List Char)
  | [] => [[]]
  | c :: rest =>
    if c = '/' then [] :: splitSlash rest
    else
      match splitSlash rest with
      | [] => [[c]]
      | piece :: pieces => (c :: piece) :: pieces

/-- The names between slashes, dots included. -/
def names (p : Path) : List String :=
  ((splitSlash p.text.toList).filter fun piece => !piece.isEmpty).map String.ofList

def isAbsolute (p : Path) : Bool := p.text.toList.head? == some '/'

def endsInSlash (p : Path) : Bool := p.text.toList.getLast? == some '/'

/-- A part of a path that has a meaning of its own. -/
inductive Component where
  | root
  | current
  | parent
  | name (text : String)
  deriving DecidableEq, Repr

/-- The components of a path. A dot counts only where a relative path begins with it. -/
def components (p : Path) : List Component :=
  let meaning (name : String) : Component := if name = ".." then .parent else .name name
  let plain (names : List String) : List Component := (names.filter (· ≠ ".")).map meaning
  if p.isAbsolute then .root :: plain p.names
  else
    match p.names with
    | "." :: rest => .current :: plain rest
    | names => plain names

/-- Two paths with the same components. -/
def same (p q : Path) : Bool := decide (p.components = q.components)

/-- The text of a component; the root is the empty name before the first slash. -/
def Component.text : Component → String
  | root => ""
  | current => "."
  | parent => ".."
  | name text => text

/-- The plainest path with the given components. -/
def ofComponents : List Component → Path
  | [.root] => ⟨"/"⟩
  | parts => ⟨"/".intercalate (parts.map Component.text)⟩

/-- The entry below this one; an absolute name replaces the path. A slash is put between the two
unless one is there, and nothing is put before the first name. -/
def join (p name : Path) : Path :=
  if name.isAbsolute then name
  else if p.text.isEmpty || p.endsInSlash then ⟨p.text ++ name.text⟩
  else ⟨p.text ++ "/" ++ name.text⟩

/-- The last component, when it is a name. -/
def fileName (p : Path) : Option String :=
  match p.components.getLast? with
  | some (.name text) => some text
  | _ => none

/-- The paths that this one runs through, the nearest first. A relative path begins at the empty
path, an absolute one at the root. -/
def parents (p : Path) : List Path :=
  let parts := p.components
  let least := if p.isAbsolute then 1 else 0
  (List.range' least (parts.length - least)).reverse.map fun k => ofComponents (parts.take k)

end Path

end SceneBench
