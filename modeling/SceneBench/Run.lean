import SceneBench.Summary

/-!
# Carrying out a plan

All scenes of a plan are created in order, then all its transitions are made, and then the summary
of every scene is taken. The first failure ends this. Whether it failed or not, all scenes are
destroyed before the outcome is told.
-/

namespace SceneBench

/-- Why a plan was not carried out. -/
inductive RunFailure where
  | identityNeeded
  | notCreated (kind : Kind) (error : SceneError)
  | notMoved (scene : SceneId) (state : UInt32) (error : SceneError)
  | notCaptured (error : SceneError)
  deriving DecidableEq, Repr

/-- The messages of a failure, the outermost first. -/
def RunFailure.chain : RunFailure → List String
  | identityNeeded => ["File loading scenes need an explicit id"]
  | notCreated kind error => s!"Failed to create {kind.title} scene" :: error.chain
  | notMoved scene state error => s!"Failed to move scene {scene} to state {state}" :: error.chain
  | notCaptured error => error.chain

namespace Plan

variable {π : Type} [Producer π]

/-- Create the scene of one request. A scene whose content goes through a file is named by its
identity there, so that it cannot have a counted one. -/
def createScene (storage : StorageSettings) (request : SceneRequest) (r : SceneRegistry π) :
    Action (Except RunFailure SceneId × SceneRegistry π) := do
  match request.kind, request.id with
  | .fileLoading, none => return (.error .identityNeeded, r)
  | .fileLoading, some id => do
    let (created, r) ← r.createFileLoading id request.camera storage request.state
    return (created.mapError (.notCreated .fileLoading), r)
  | kind, chosen => do
    let (created, r) ← r.createKind chosen kind request.state request.camera request.settings
    return (created.mapError (.notCreated kind), r)

/-- Create the scenes of requests in order; their identities. -/
def createScenes (storage : StorageSettings) :
    List SceneRequest → SceneRegistry π →
      Action (Except RunFailure (List SceneId) × SceneRegistry π)
  | [], r => return (.ok [], r)
  | request :: rest, r => do
    match ← createScene storage request r with
    | (.error e, r) => return (.error e, r)
    | (.ok id, r) => do
      let (ids, r) ← createScenes storage rest r
      return (ids.map (id :: ·), r)

/-- Make transitions in order. -/
def makeTransitions :
    List Transition → SceneRegistry π → Action (Except RunFailure Unit × SceneRegistry π)
  | [], r => return (.ok (), r)
  | t :: rest, r => do
    match ← r.setState t.scene t.kind t.state with
    | (.error e, r) => return (.error (.notMoved t.scene t.state e), r)
    | (.ok (), r) => makeTransitions rest r

/-- Carry out a plan on a registry, and leave the scenes there. -/
def drive (plan : Plan) (r : SceneRegistry π) :
    Action (Except RunFailure (List Summary) × SceneRegistry π) := do
  match ← createScenes plan.storage plan.scenes r with
  | (.error e, r) => return (.error e, r)
  | (.ok ids, r) =>
    match ← makeTransitions plan.transitions r with
    | (.error e, r) => return (.error e, r)
    | (.ok (), r) => return ((ids.mapM (Summary.capture r)).mapError .notCaptured, r)

/-- Carry out a plan on scenes of its own, of which nothing is left; the summaries in the order of
the requests. -/
def run (plan : Plan) : Action (Except RunFailure (List Summary)) := do
  let empty : SceneRegistry LocalProducer := { producer := {} }
  let (outcome, r) ← plan.drive empty
  let _ ← r.destroyAll
  return outcome

end Plan

end SceneBench
