import SceneBench.Routine.Standard

/-!
# Plans

A plan says which scenes are created, into which states they are moved after that, and where the
summaries of the finished scenes go.
-/

namespace SceneBench

/-- One scene of a plan. Without an identity of its own it gets a counted one. -/
structure SceneRequest where
  kind : Kind
  state : UInt32 := 0
  camera : Vec3 := .zero
  id : Option SceneId := none
  settings : SceneSettings := {}
  deriving DecidableEq, Repr

/-- A change of state, once all scenes exist. -/
structure Transition where
  scene : SceneId
  kind : Kind
  state : UInt32
  deriving DecidableEq, Repr

structure Plan where
  storage : StorageSettings := {}
  scenes : List SceneRequest := []
  transitions : List Transition := []
  output : Option Path := none
  deriving DecidableEq, Repr

end SceneBench
