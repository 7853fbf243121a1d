import SceneBench.Storage.Reading

/-!
# A reader that follows a script

A scripted reader hands out given bytes in given portions, claims to have delivered what it has not,
ends early or fails, and remembers how much room each call offered. It shows how the reading loop
deals with readers that no operating system would be.
-/

namespace SceneBench

/-- What a scripted reader does in one call. -/
inductive ScriptStep where
  | deliver (atMost : Nat)
  | claim (count : Nat)
  | endOfFile
  | fail (error : OsError)
  deriving DecidableEq, Repr

structure ScriptedReader where
  data : List UInt8
  script : List ScriptStep
  rooms : List Nat := []
  delivered : Nat := 0

namespace ScriptedReader

/-- One call takes one step of the script; when there is none, the file has ended. -/
def readChunk (r : ScriptedReader) (room : Room) : ChunkResult × List UInt8 × ScriptedReader :=
  let called := { r with script := r.script.drop 1, rooms := r.rooms ++ [room.length] }
  match r.script.head? with
  | none | some .endOfFile => (.endOfFile, [], called)
  | some (.fail e) => (.failed e, [], called)
  | some (.claim count) => (.delivered count, [], called)
  | some (.deliver atMost) =>
    let bytes := r.data.take (min atMost room.length)
    (.delivered bytes.length, bytes,
      { called with data := r.data.drop bytes.length, delivered := r.delivered + bytes.length })

instance : ChunkReader ScriptedReader := ⟨readChunk⟩

end ScriptedReader

end SceneBench
