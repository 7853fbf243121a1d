import SceneBench.Storage.Error
import SceneBench.Storage.Room

/-!
# Reading a file of known size

One call of a reader may deliver fewer bytes than there is room for, so a file is read by calling
again with the room that is left. The loop ends when the room is full, at the end of the file, at a
failure, or at a call that delivers nothing without saying why; a reader that claims more than the
room is believed only up to the room. Every call but the last takes up at least one byte of room,
which is why the loop ends.
-/

namespace SceneBench

/-- What a reader reports of one call. -/
inductive ChunkResult where
  | delivered (count : Nat)
  | endOfFile
  | failed (error : OsError)
  deriving DecidableEq, Repr

/-- A source of bytes. A call is given the room it may write to, and gives back its report and the
bytes that it has written over the front of the room. -/
class ChunkReader (ρ : Type) where
  readChunk : ρ → Room → ChunkResult × List UInt8 × ρ

/-- How reading ended. -/
inductive ReadEnd where
  | complete
  | endOfFile
  | failed (kind : ErrorKind)
  | stalled
  deriving DecidableEq, Repr

/-- The three answers that a caller tells apart. -/
inductive ReadStatus where
  | ok
  | endOfFile
  | error
  deriving DecidableEq, Repr

namespace ReadEnd

/-- Reading that stalled counts as done, although bytes are missing. -/
def status : ReadEnd → ReadStatus
  | complete | stalled => .ok
  | endOfFile => .endOfFile
  | failed _ => .error

def title : ReadEnd → String
  | complete => "Complete"
  | endOfFile => "EndOfFile"
  | failed kind => "Failed(" ++ kind.title ++ ")"
  | stalled => "Stalled"

end ReadEnd

/-- The bytes that were read and how reading ended. -/
structure Reading where
  bytes : List UInt8
  ending : ReadEnd
  deriving DecidableEq, Repr

namespace Reading

def status (r : Reading) : ReadStatus := r.ending.status

def isComplete (r : Reading) : Bool := decide (r.ending = .complete)

end Reading

/-- Why reading stopped early, with the error where there was one. -/
inductive EarlyEnd where
  | endOfFile
  | stalled
  | failed (error : OsError)
  deriving DecidableEq, Repr

/-- What the loop has when it ends: the bytes delivered, and the reason if room is left. -/
structure Filled (ρ : Type) where
  bytes : List UInt8
  early : Option EarlyEnd
  reader : ρ

/-- Call the reader until the room is full or a call ends the reading. What a call delivered is set
aside before the next one, which gets only the room behind it. -/
def fill {ρ : Type} [ChunkReader ρ] (reader : ρ) (room : Room) : Filled ρ :=
  if room.length = 0 then ⟨[], none, reader⟩
  else
    let (result, written, reader) := ChunkReader.readChunk reader room
    match result with
    | .endOfFile => ⟨[], some .endOfFile, reader⟩
    | .failed error => ⟨[], some (.failed error), reader⟩
    | .delivered 0 => ⟨[], some .stalled, reader⟩
    | .delivered (count + 1) =>
      let room := room.overwrite written
      let further := fill reader (room.drop (count + 1))
      { further with bytes := room.take (count + 1) ++ further.bytes }
termination_by room.length
decreasing_by
  simp only [Room.length_drop, Room.length_overwrite]
  omega

/-- Read up to `expected` bytes into a room of zeros. -/
def readUpTo {ρ : Type} [ChunkReader ρ] (reader : ρ) (expected : Nat) : Filled ρ :=
  fill reader (.blank expected)

/-- The reading that a filled room stands for. -/
def Filled.reading {ρ : Type} (f : Filled ρ) : Reading :=
  match f.early with
  | none => ⟨f.bytes, .complete⟩
  | some .endOfFile => ⟨f.bytes, .endOfFile⟩
  | some .stalled => ⟨f.bytes, .stalled⟩
  | some (.failed error) => ⟨f.bytes, .failed error.kind⟩

end SceneBench
