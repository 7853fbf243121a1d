import SceneBench.Record.Encoding
import SceneBench.Scene.Error
import SceneBench.Storage.Files

/-!
# Scene content in a file

Content is written as bare records and read back with the file operations. Only a complete reading
of whole records counts as content.
-/

namespace SceneBench.ContentFile

/-- Write content, in place of all that the file held. -/
def save (file : Path) (boxes : List BoxRecord) : Action (Except SceneError Unit) := do
  return (← Files.writeBytes file (encodeRecords boxes)).mapError .file

/-- The content that a reading of a file stands for. -/
def decode (file : Path) (reading : Reading) : Action (Except SceneError (List BoxRecord)) :=
  match if reading.isComplete then decodeRecords? reading.bytes else none with
  | some boxes => return .ok boxes
  | none => do
    Action.say (.contentCorrupt file reading.ending reading.bytes.length)
    return .error (.corruptContent file reading.bytes.length)

/-- Read content back. -/
def load (file : Path) : Action (Except SceneError (List BoxRecord)) := do
  match ← Files.readBytes file with
  | .error e => return .error (.file e)
  | .ok reading => decode file reading

end SceneBench.ContentFile
