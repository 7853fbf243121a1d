import SceneBench.Content
import SceneBench.Geometry.Camera
import SceneBench.Identity

/-!
# Scenes

A scene has an identity, a handle and settings that never change, and a camera and boxes that do.
Every change is an `Edit`, so what a piece of code does to a scene is a list of edits; flushing
marks the content as one finished frame and is counted.
-/

namespace SceneBench

/-- How far a scene is made visible once it is published. -/
inductive Publication where
  | localOnly
  | localAndRemote
  deriving DecidableEq, Repr, Inhabited

namespace Publication

/-- The name of a mode in documents. -/
def tag : Publication → String
  | localOnly => "local_only"
  | localAndRemote => "local_and_remote"

def all : List Publication := [localOnly, localAndRemote]

end Publication

/-- What a producer is told about a scene besides its identity. -/
structure SceneSettings where
  publication : Publication := .localOnly
  deriving DecidableEq, Repr, Inhabited

/-- A scene as its client sees it. The flushes are counted without bound, where a client has 64 bits
for them: the two counts are the same below `2 ^ 64`. -/
structure Scene where
  id : SceneId
  handle : Handle
  settings : SceneSettings
  camera : Camera := default
  boxes : List BoxRecord := []
  flushes : Nat := 0
  deriving DecidableEq, Repr

/-- A change of a scene. -/
inductive Edit where
  | setCamera (camera : Camera)
  | add (box : BoxRecord)
  | replace (boxes : List BoxRecord)
  | clear
  | flush
  deriving DecidableEq, Repr

namespace Scene

def apply (s : Scene) : Edit → Scene
  | .setCamera camera => { s with camera }
  | .add box => { s with boxes := s.boxes ++ [box] }
  | .replace boxes => { s with boxes }
  | .clear => { s with boxes := [] }
  | .flush => { s with flushes := s.flushes + 1 }

def applyAll (s : Scene) (edits : List Edit) : Scene := edits.foldl apply s

/-- The bounds of all boxes; an empty scene has none. -/
def bounds (s : Scene) : Option Bounds := Bounds.enclosing (s.boxes.map BoxRecord.bounds)

/-- How many boxes travel. -/
def movingBoxes (s : Scene) : Nat := s.boxes.countP BoxRecord.isMoving

end Scene

/-- Show new content as one finished frame. -/
def Edit.present (boxes : List BoxRecord) : List Edit := [.replace boxes, .flush]

end SceneBench
