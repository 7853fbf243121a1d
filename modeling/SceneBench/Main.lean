import SceneBench.CommandLine

/-!
# The program

The outer layer puts the questions of an action to the operating system, shows the notices of the
chosen levels on the error stream as they come, and prints the outcome.
-/

namespace SceneBench.Main

/-- The errors that are told apart, by their numbers. -/
def knownErrors : List (UInt32 × OsError) :=
  [ (2, .notFound), (16, .resourceBusy), (17, .alreadyExists), (20, .notADirectory),
    (21, .isADirectory), (22, .invalidArgument), (28, .storageFull), (36, .nameTooLong),
    (39, .directoryNotEmpty), (40, .tooManyLinks) ]

/-- The error of a given number. -/
def errorOf (code : UInt32) (details : String) : OsError :=
  (knownErrors.lookup code).getD
    ⟨.device "Uncategorized", details ++ s!" (os error {code})"⟩

def osError : IO.Error → OsError
  | .alreadyExists _ code details | .invalidArgument _ code details
  | .permissionDenied _ code details | .resourceExhausted _ code details
  | .inappropriateType _ code details | .noSuchThing _ code details
  | .interrupted _ code details | .noFileOrDirectory _ code details
  | .otherError code details | .resourceBusy code details | .resourceVanished code details
  | .unsupportedOperation code details | .hardwareFault code details
  | .unsatisfiedConstraints code details | .illegalOperation code details
  | .protocolError code details | .timeExpired code details => errorOf code details
  | .unexpectedEof => ⟨.device "UnexpectedEof", "unexpected end of file"⟩
  | .userError details => ⟨.device "Other", details⟩

/-- Do something on the operating system, with its errors as values. -/
def attempt {α : Type} (request : IO α) : IO (Except OsError α) := do
  match ← request.toBaseIO with
  | .ok value => return .ok value
  | .error e => return .error (osError e)

/-- A request about a path. A name with a zero byte never gets as far as the operating system. -/
def asking {α : Type} (p : Path) (request : String → IO α) : IO (Except OsError α) :=
  if p.text.toList.contains '\x00' then return .error .nulInName else attempt (request p.text)

def inspect (name : String) : IO EntryInfo := do
  let found ← (← IO.FS.realPath name).metadata
  let kind := match found.type with
    | .dir => .directory
    | .file => .regular
    | _ => .other
  return ⟨kind, found.byteSize.toNat⟩

/-- Replace the content of a file, and tell which step failed. -/
def replaceFile (p : Path) (content : List UInt8) : IO (Except ReplaceFault Unit) := do
  match ← asking p fun name => IO.FS.Handle.mk name .write with
  | .error e => return .error (.opening e)
  | .ok handle =>
    return (← attempt (do handle.write ⟨content.toArray⟩; handle.flush)).mapError .writing

/-- Open a file and read it to its end; an error on the way is the answer to the first read. -/
def openFile (p : Path) : IO (Except OsError Stream) := do
  match ← asking p fun name => IO.FS.Handle.mk name .read with
  | .error e => return .error e
  | .ok handle =>
    match ← attempt handle.readBinToEnd with
    | .ok bytes => return .ok (.ofBytes bytes.toList)
    | .error e => return .ok ⟨[.failed e], .endOfFile⟩

/-- Put the questions of an action to the operating system. The working directory stays what it was
when the program began. -/
def perform {α : Type} (shown : Level) : Action α → IO α
  | .done value => return value
  | .note notice next => do
    if notice.level.rank ≤ shown.rank then IO.eprintln notice.line
    perform shown next
  | .inspect p next => do perform shown (next (← asking p inspect))
  | .makeDirectory p next => do perform shown (next (← asking p fun name => IO.FS.createDir name))
  | .removeTree p next => do perform shown (next (← asking p fun name => IO.FS.removeDirAll name))
  | .replaceFile p content next => do perform shown (next (← replaceFile p content))
  | .openFile p next => do perform shown (next (← openFile p))
  | .currentDirectory next => do
    let here ← attempt IO.currentDir
    perform shown (next (here.map fun p => ⟨p.toString⟩))
  | .changeDirectory _ next => perform shown (next (.error .invalidArgument))

end SceneBench.Main

open SceneBench in
def main (arguments : List String) : IO UInt32 := do
  let outcome ← Main.perform (CommandLine.shownLevel arguments) (CommandLine.program arguments)
  IO.print outcome.output
  IO.eprint outcome.errors
  return UInt32.ofNat outcome.code
