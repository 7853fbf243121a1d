import SceneBench.Routine.Basic
import SceneBench.Routine.ContentFile

/-!
# The four standard routines

Each kind of test scene has its routine. Three of them build their content and show it; the fourth
writes its content to a file and shows only what it has read back. Whatever can fail comes before
the first edit, so a failed change of state leaves scene and routine as they were.
-/

namespace SceneBench

/-- Where content files are kept. -/
structure StorageSettings where
  sceneDirectory : Path := ⟨"scenes"⟩
  deriving DecidableEq, Repr, Inhabited

/-- A standard routine in its last state. -/
inductive StandardRoutine where
  | boxGrid (state : UInt32)
  | walls (state : UInt32)
  | fractal (state : UInt32)
  | fileLoading (state : UInt32) (file : Path)
  deriving DecidableEq, Repr

namespace StandardRoutine

def kind : StandardRoutine → Kind
  | boxGrid _ => .boxGrid
  | walls _ => .walls
  | fractal _ => .fractal
  | fileLoading .. => .fileLoading

def state : StandardRoutine → UInt32
  | boxGrid state | walls state | fractal state | fileLoading state _ => state

/-- The routine in another state. -/
def withState (r : StandardRoutine) (state : UInt32) : StandardRoutine :=
  match r with
  | boxGrid _ => boxGrid state
  | walls _ => walls state
  | fractal _ => fractal state
  | fileLoading _ file => fileLoading state file

/-- Write content to a file and give back what the file then holds. -/
def throughFile (id : SceneId) (file : Path) (boxes : List BoxRecord) :
    Action (Except SceneError (List BoxRecord)) := do
  match ← ContentFile.save file boxes with
  | .error e => return .error e
  | .ok () =>
    match ← ContentFile.load file with
    | .error e => return .error e
    | .ok loaded => do
      Action.say (.contentLoaded id loaded.length file)
      return .ok loaded

/-- The content that a routine shows in a state it knows. -/
def prepare (r : StandardRoutine) (id : SceneId) (state : UInt32) (boxes : List BoxRecord) :
    Action (Except SceneError (List BoxRecord)) :=
  match r with
  | fileLoading _ file => throughFile id file boxes
  | _ => do
    Action.say (.contentBuilt id r.kind state boxes.length)
    return .ok boxes

/-- Enter a state: its content is shown as one frame. -/
def enter (r : StandardRoutine) (scene : Scene) (state : UInt32) :
    Action (Turn StandardRoutine) :=
  match r.kind.content state with
  | none => return ⟨.error (.unknownState r.kind state), r, []⟩
  | some boxes => do
    match ← r.prepare scene.id state boxes with
    | .error e => return ⟨.error e, r, []⟩
    | .ok shown => return ⟨.ok (), r.withState state, Edit.present shown⟩

instance : Routine StandardRoutine where
  kind := kind
  state := state
  enter := enter

/-- Place the camera and enter the first state. -/
def begin (r : StandardRoutine) (camera : Camera) : Setup StandardRoutine := fun scene => do
  let turn ← r.enter scene r.state
  return (turn.result.map fun () => turn.routine, .setCamera camera :: turn.edits)

/-- Set up the routine of a kind. A sponge is looked at; content files need to know where to be. -/
def setup (kind : Kind) (state : UInt32) (camera : Vec3) : Setup StandardRoutine :=
  match kind with
  | .boxGrid => (boxGrid state).begin (.level camera)
  | .walls => (walls state).begin (.level camera)
  | .fractal => (fractal state).begin (.lookingAt camera Sponge.center)
  | .fileLoading => fun _ => return (.error (.needsStorage .fileLoading), [])

/-- The content file of a scene. -/
def contentFile (storage : StorageSettings) (id : SceneId) : Path :=
  storage.sceneDirectory.join ⟨s!"scene_{id}.bin"⟩

/-- Set up the routine whose content goes through a file. -/
def setupFileLoading (storage : StorageSettings) (state : UInt32) (camera : Vec3) :
    Setup StandardRoutine := fun scene => do
  match ← Files.createDirectories storage.sceneDirectory with
  | .error e => return (.error (.file e), [])
  | .ok () => (fileLoading state (contentFile storage scene.id)).begin (.level camera) scene

end StandardRoutine

end SceneBench
