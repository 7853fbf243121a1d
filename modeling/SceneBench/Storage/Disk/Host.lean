import SceneBench.Storage.Action
import SceneBench.Storage.Disk.Walk

/-!
# A disk that answers

The operations of an operating system whose only state is a disk. A successful write is kept and
read back as it was written; a question that is refused changes nothing, except that removing a
directory that cannot itself be removed still removes what is in it.
-/

namespace SceneBench.Disk

/-- The entry at the end of a path. -/
def inspect (p : Path) (d : Disk) : Except OsError EntryInfo :=
  match d.follow .visit p with
  | .error e => .error e
  | .ok (.directory _) => .ok ⟨.directory, 0⟩
  | .ok (.leaf _ (.file content)) => .ok ⟨.regular, content.length⟩
  | .ok (.leaf _ _) => .ok ⟨.other, 0⟩
  | .ok (.missing _ _) => .error .notFound

/-- Make an entry where a walk found none. -/
def make (d : Disk) (place : Place) (name : String) (n : Node) : Except OsError Unit × Disk :=
  if place.isLost then (.error .notFound, d) else (.ok (), d.put (place.live ++ [name]) n)

/-- Make one directory. A link in its place counts as an entry, and a trailing slash says nothing
new about a directory. -/
def makeDirectory (p : Path) (d : Disk) : Except OsError Unit × Disk :=
  match d.followSteps .visitLink p p.innerSteps with
  | .error e => (.error e, d)
  | .ok (.missing place name) => d.make place name (.directory [])
  | .ok _ => (.error .alreadyExists, d)

/-- Remove one directory that is empty; one that is gone already needs no removing. A last step that
stays or goes up names no entry, but the way to it has to be there before that counts. -/
def removeEmptied (p : Path) (d : Disk) : Except OsError Unit × Disk :=
  let unlessGone (e : OsError) : Except OsError Unit × Disk :=
    if e.kind = .notFound then (.ok (), d) else (.error e, d)
  match p.innerSteps.getLast? with
  | none => (.error .resourceBusy, d)
  | some (.enter _) =>
    match d.followSteps .visitLink p p.innerSteps with
    | .ok (.directory place) => (.ok (), d.remove place.live)
    | .ok (.leaf _ _) => (.error .notADirectory, d)
    | .ok (.missing _ _) => (.ok (), d)
    | .error e => unlessGone e
  | some last =>
    match d.followSteps .visit p p.innerSteps.dropLast with
    | .ok (.directory _) =>
      (.error (if last = .up then .directoryNotEmpty else .invalidArgument), d)
    | .ok (.leaf _ _) => (.error .notADirectory, d)
    | .ok (.missing _ _) => (.ok (), d)
    | .error e => unlessGone e

/-- Remove a directory with everything in it, or a link without what it leads to. -/
def removeTree (p : Path) (d : Disk) : Except OsError Unit × Disk :=
  match d.follow .visitLink p with
  | .error e => (.error e, d)
  | .ok (.leaf address (.link _)) => (.ok (), d.remove address)
  | .ok (.leaf _ _) => (.error .notADirectory, d)
  | .ok (.missing _ _) => (.error .notFound, d)
  | .ok (.directory place) =>
    (if place.isLost then d else d.clear place.live).removeEmptied p

/-- Replace the content of a file, which is made when it is missing. -/
def replaceFile (p : Path) (content : List UInt8) (d : Disk) : Except ReplaceFault Unit × Disk :=
  match d.follow .write p with
  | .error e => (.error (.opening e), d)
  | .ok (.directory _) => (.error (.opening .isADirectory), d)
  | .ok (.leaf address (.file _)) => (.ok (), d.put address (.leaf (.file content)))
  | .ok (.leaf _ (.device .null)) => (.ok (), d)
  | .ok (.leaf _ (.device .full)) =>
    if content.isEmpty then (.ok (), d) else (.error (.writing .storageFull), d)
  | .ok (.leaf _ _) => (.error (.opening .isADirectory), d)
  | .ok (.missing place name) =>
    match d.make place name (.leaf (.file content)) with
    | (.ok (), d) => (.ok (), d)
    | (.error e, d) => (.error (.opening e), d)

/-- Open an entry for reading; a directory opens, but cannot be read. -/
def openFile (p : Path) (d : Disk) : Except OsError Stream :=
  match d.follow .visit p with
  | .error e => .error e
  | .ok (.directory _) => .ok ⟨[], .isDirectory⟩
  | .ok (.leaf _ (.file content)) => .ok (.ofBytes content)
  | .ok (.leaf _ (.device .full)) => .ok ⟨[], .zeros⟩
  | .ok (.leaf _ _) => .ok ⟨[], .endOfFile⟩
  | .ok (.missing _ _) => .error .notFound

/-- The path of the working directory; a removed directory has none. -/
def currentDirectory (d : Disk) : Except OsError Path :=
  if d.here.isLost then .error .notFound else .ok ⟨"/" ++ "/".intercalate d.here.live⟩

def changeDirectory (p : Path) (d : Disk) : Except OsError Unit × Disk :=
  match d.follow .visit p with
  | .error e => (.error e, d)
  | .ok (.directory place) => (.ok (), { d with here := place })
  | .ok (.leaf _ _) => (.error .notADirectory, d)
  | .ok (.missing _ _) => (.error .notFound, d)

/-- Make a link, which may lead nowhere, but has to say something that could be a path. A trailing
slash asks for a directory, which a link that is not there yet is not. -/
def makeLink (p target : Path) (d : Disk) : Except OsError Unit × Disk :=
  match refuse? target, d.followSteps .visitLink p p.innerSteps with
  | some e, _ => (.error e, d)
  | none, .error e => (.error e, d)
  | none, .ok (.missing place name) =>
    if p.endsInSlash then (.error .notFound, d) else d.make place name (.leaf (.link target))
  | none, .ok _ => (.error .alreadyExists, d)

/-- The host whose state is a disk. -/
def host : Host Disk where
  inspect p d := (d.inspect p, d)
  makeDirectory p d := d.makeDirectory p
  removeTree p d := d.removeTree p
  replaceFile p content d := d.replaceFile p content
  openFile p d := (d.openFile p, d)
  currentDirectory d := (d.currentDirectory, d)
  changeDirectory p d := d.changeDirectory p

end SceneBench.Disk
