import SceneBench.Storage.Action
import SceneBench.Storage.Utf8

/-!
# Working with files

Each operation is an action that turns the answers of the operating system into one result, with
the step that failed named in the error. Text is never an error: a file that cannot be read is
empty text, with a notice in the log.
-/

namespace SceneBench.Files

variable {α : Type}

/-- Something is there, at the end of all links. -/
def pathExists (p : Path) : Action Bool :=
  .inspect p fun
    | .ok _ => return true
    | .error _ => return false

def isDirectory (p : Path) : Action Bool :=
  .inspect p fun
    | .ok info => return info.kind = .directory
    | .error _ => return false

/-- The size of a regular file; nothing else has one. -/
def size (p : Path) : Action (Except OsError Nat) :=
  .inspect p fun
    | .ok info =>
      return if info.kind = .regular then .ok info.size else .error (.notARegularFile p)
    | .error e => return .error e

/-- A directory that could not be made is good enough when it is there already. -/
def unlessDirectory (p : Path) (e : OsError) : Action (Except OsError Unit) := do
  return if ← isDirectory p then .ok () else .error e

/-- Make one directory, which may be there already. -/
def ensureDirectory (p : Path) : Action (Except OsError Unit) :=
  .makeDirectory p fun
    | .ok () => return .ok ()
    | .error e => unlessDirectory p e

/-- Try to make a directory, and go on with `otherwise` when its place is missing. The empty path
needs no directory. -/
def tryDirectory (p : Path) (otherwise : Unit → Action (Except OsError Unit)) :
    Action (Except OsError Unit) :=
  if p.text.isEmpty then return .ok ()
  else
    .makeDirectory p fun
      | .ok () => return .ok ()
      | .error e => if e.kind = .notFound then otherwise () else unlessDirectory p e

/-- Make a directory whose place was missing, given the paths it runs through, the nearest first.
The nearest of them is tried, and made in the same way if its own place is missing; then the
directory is tried once more. -/
def makeWithParents : Path → List Path → Action (Except OsError Unit)
  | _, [] => return .error .noPlace
  | p, parent :: further => do
    match ← tryDirectory parent fun _ => makeWithParents parent further with
    | .ok () => ensureDirectory p
    | .error e => return .error e

/-- Make a directory, with all the directories on the way where its place is missing. -/
def makeDirectories (p : Path) : Action (Except OsError Unit) :=
  tryDirectory p fun _ => makeWithParents p p.parents

/-- Make sure that a directory is there, with all the directories on the way. -/
def createDirectories (p : Path) : Action (Except FileError Unit) := do
  match ← makeDirectories p with
  | .error e => return .error (.createDirectory p e)
  | .ok () => return if ← isDirectory p then .ok () else .error (.notADirectory p)

/-- Remove a directory with all that is in it. -/
def removeDirectory (p : Path) : Action (Except FileError Unit) :=
  .removeTree p fun
    | .ok () => return .ok ()
    | .error e => return .error (.removeDirectory p e)

/-- The content of a file as text; empty when there is none to be read. -/
def readText (p : Path) : Action String :=
  .openFile p fun opened =>
    match opened >>= Stream.readWhole with
    | .ok bytes => return Utf8.decodeLossy bytes
    | .error e => do
      Action.say (.noText p e)
      return ""

/-- Replace the content of a file, which is made when it is missing. -/
def writeBytes (p : Path) (content : List UInt8) : Action (Except FileError Unit) :=
  .replaceFile p content fun
    | .ok () => return .ok ()
    | .error (.opening e) => return .error (.opening p e)
    | .error (.writing e) => return .error (.writing p e)

def writeText (p : Path) (content : String) : Action (Except FileError Unit) :=
  writeBytes p (Utf8.encode content)

/-- What the loop that filled a room has to say about its end. -/
def endNotices {ρ : Type} (expected : Nat) (f : Filled ρ) : List Notice :=
  match f.early with
  | some (.failed e) => [.readFailed f.bytes.length expected e]
  | some .stalled => [.readStalled f.bytes.length expected]
  | _ => []

/-- Read up to `expected` bytes from an open file. -/
def readStream (s : Stream) (expected : Nat) : Action Reading := do
  let filled := readUpTo s expected
  Action.sayAll (endNotices expected filled)
  return filled.reading

/-- The content of a regular file. Its size is asked for first, and an early end of the reading is
no error but part of the result. -/
def readBytes (p : Path) : Action (Except FileError Reading) := do
  match ← size p with
  | .error e => return .error (.sizeQuery p e)
  | .ok expected =>
    .openFile p fun
      | .error e => return .error (.opening p e)
      | .ok stream => do
        let reading ← readStream stream expected
        if !reading.isComplete then
          Action.say (.readStopped p reading.bytes.length expected reading.ending)
        return .ok reading

def currentDirectory : Action (Except FileError Path) :=
  .currentDirectory fun
    | .ok p => return .ok p
    | .error e => return .error (.workingDirectory e)

/-- Change the working directory to one that is there. -/
def setCurrentDirectory (p : Path) : Action (Except FileError Unit) := do
  if ← isDirectory p then
    .changeDirectory p fun
      | .ok () => return .ok ()
      | .error e => return .error (.workingDirectory e)
  else return .error (.notADirectory p)

end SceneBench.Files
