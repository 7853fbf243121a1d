import SceneBench.Plan.Writing
import SceneBench.Registry
import SceneBench.Storage.Files

/-!
# Summaries

A summary is what a scene looks like from outside at one moment: what is registered about it, and
counts, bounds and camera of what it shows. It is shown as a few lines of text and kept as a
document, one file for each scene.
-/

namespace SceneBench

open Json (Document)

structure Summary where
  id : SceneId
  kind : Kind
  state : UInt32
  boxes : Nat
  movingBoxes : Nat
  bounds : Option Bounds
  camera : Vec3
  forward : Vec3
  flushes : Nat
  deriving DecidableEq, Repr

namespace Summary

/-! ## Taking a summary -/

/-- The summary of a scene that a routine of the given kind has driven into a state. -/
def ofScene (id : SceneId) (kind : Kind) (state : UInt32) (scene : Scene) : Summary where
  id := id
  kind := kind
  state := state
  boxes := scene.boxes.length
  movingBoxes := scene.movingBoxes
  bounds := scene.bounds
  camera := scene.camera.position
  forward := scene.camera.forward
  flushes := scene.flushes

/-- The summary of a registered scene. -/
def capture {π : Type} [Producer π] (r : SceneRegistry π) (id : SceneId) :
    Except SceneError Summary := do
  let scene ← r.scene id
  return ofScene id (← r.kind id) (← r.state id) scene

/-! ## Showing a summary -/

/-- The components of a position as they are shown. -/
def positionText (v : Vec3) : String :=
  "[" ++ ", ".intercalate ([v.x, v.y, v.z].map (Scalar.text .display)) ++ "]"

/-- The lines of a summary. An empty scene has no line about its bounds. -/
def lines (s : Summary) : List String :=
  let bounds := match s.bounds with
    | some b => [s!"Bounds:  {positionText b.low} .. {positionText b.high}"]
    | none => []
  [ "",
    s!"=== scene {s.id} ({s.kind.title}) ===",
    s!"State:   {s.state}",
    s!"Boxes:   {s.boxes} ({s.movingBoxes} moving)" ] ++ bounds ++
  [ s!"Camera:  {positionText s.camera} facing {positionText s.forward}",
    s!"Flushes: {s.flushes}" ]

/-- The lines as one text. -/
def shown (s : Summary) : String := String.join (s.lines.map (· ++ "\n"))

/-! ## Keeping a summary -/

def document (s : Summary) : Document :=
  .object
    [ ("id", s.id.document),
      ("kind", s.kind.document),
      ("state", .natural s.state.toNat),
      ("box_count", .natural s.boxes),
      ("moving_boxes", .natural s.movingBoxes),
      ("bounds_min", (s.bounds.map fun b => b.low.document).getD .null),
      ("bounds_max", (s.bounds.map fun b => b.high.document).getD .null),
      ("camera", s.camera.document),
      ("camera_forward", s.forward.document),
      ("flush_count", .natural s.flushes) ]

/-- The file of a summary within a directory. -/
def file (directory : Path) (s : Summary) : Path := directory.join ⟨s!"scene_{s.id}.json"⟩

/-- Write the files of summaries into a directory that is there. The first failure ends it. -/
def writeEach (directory : Path) : List Summary → Action (Except FileError Unit)
  | [] => return .ok ()
  | s :: rest => do
    match ← Files.writeText (s.file directory) s.document.pretty with
    | .error e => return .error e
    | .ok () => do
      Action.say (.summaryWritten (s.file directory))
      writeEach directory rest

/-- Write one file for each summary, in a directory that is made when it is missing. -/
def writeAll (directory : Path) (summaries : List Summary) : Action (Except FileError Unit) := do
  match ← Files.createDirectories directory with
  | .error e => return .error e
  | .ok () => writeEach directory summaries

end Summary

end SceneBench
