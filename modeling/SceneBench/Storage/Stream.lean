import SceneBench.Storage.Reading

/-!
# Open files

How the operating system will answer the reads of an open file is data: a list of answers, given
one by one, and what every later read is answered. An answer with more bytes than were asked for is
given in parts. A read that was interrupted says nothing about the file and is tried again, and a
read of nothing at all means the end of the file.
-/

namespace SceneBench

/-- One answer of the operating system to a read. -/
inductive ReadAnswer where
  | bytes (available : List UInt8)
  | failed (error : OsError)
  deriving DecidableEq, Repr

/-- How reads are answered when the listed answers are used up. -/
inductive StreamEnd where
  | endOfFile
  | isDirectory
  | zeros
  deriving DecidableEq, Repr

/-- The answer to a read of at most `count` bytes after the listed ones. -/
def StreamEnd.read (count : Nat) : StreamEnd → Except OsError (List UInt8)
  | .endOfFile => .ok []
  | .isDirectory => .error .isADirectory
  | .zeros => .ok (List.replicate count 0)

/-- An open file, as far as reading it goes. -/
structure Stream where
  answers : List ReadAnswer
  thereafter : StreamEnd := .endOfFile
  deriving DecidableEq, Repr

namespace Stream

/-- The stream of a file with the given content. -/
def ofBytes (content : List UInt8) : Stream := ⟨[.bytes content], .endOfFile⟩

/-- One read of at most `count` bytes. -/
def read (s : Stream) (count : Nat) : Except OsError (List UInt8) × Stream :=
  match s.answers with
  | [] => (s.thereafter.read count, s)
  | .failed error :: rest => (.error error, { s with answers := rest })
  | .bytes available :: rest =>
    match available.drop count with
    | [] => (.ok available, { s with answers := rest })
    | further => (.ok (available.take count), { s with answers := .bytes further :: rest })

/-- The stream with the interruptions before its next answer left out. -/
def skipInterrupted (s : Stream) : Stream :=
  let interrupted : ReadAnswer → Bool
    | .failed error => decide (error.kind = .interrupted)
    | .bytes _ => false
  { s with answers := s.answers.dropWhile interrupted }

/-- A read of an open file as one call of a reader. -/
def readChunk (s : Stream) (room : Room) : ChunkResult × List UInt8 × Stream :=
  match s.skipInterrupted.read room.length with
  | (.error error, s) => (.failed error, [], s)
  | (.ok bytes, s) =>
    if bytes.isEmpty && room.length ≠ 0 then (.endOfFile, [], s)
    else (.delivered bytes.length, bytes, s)

instance : ChunkReader Stream := ⟨readChunk⟩

/-- Everything that reads deliver before the end of the file, or the error that ends them. A file
without an end has no whole content, and what was listed stands for it. -/
def readWhole (s : Stream) : Except OsError (List UInt8) :=
  collect [] s.answers
where
  collect (delivered : List UInt8) : List ReadAnswer → Except OsError (List UInt8)
    | [] =>
      match s.thereafter with
      | .isDirectory => .error .isADirectory
      | _ => .ok delivered
    | .failed error :: rest =>
      if error.kind = .interrupted then collect delivered rest else .error error
    | .bytes available :: rest =>
      if available.isEmpty then .ok delivered else collect (delivered ++ available) rest

end Stream

end SceneBench
