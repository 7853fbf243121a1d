import SceneBench.Content
import SceneBench.Identity
import SceneBench.Storage.Error

/-!
# What can go wrong with scenes
-/

namespace SceneBench

/-- Why an operation on scenes failed. -/
inductive SceneError where
  | unknownScene (id : SceneId)
  | duplicateScene (id : SceneId)
  | kindMismatch (id : SceneId) (expected actual : Kind)
  | unknownState (kind : Kind) (state : UInt32)
  | producer (id : SceneId) (reason : String)
  | needsStorage (kind : Kind)
  | corruptContent (file : Path) (length : Nat)
  | file (error : FileError)
  deriving DecidableEq, Repr

namespace SceneError

def message : SceneError → String
  | unknownScene id => s!"scene {id} is not registered"
  | duplicateScene id => s!"scene {id} is already registered"
  | kindMismatch id expected actual =>
    s!"scene {id} runs {actual.title} test logic, not {expected.title}"
  | unknownState kind state => s!"{kind.title} test logic has no state {state}"
  | producer id reason => s!"scene producer failed for scene {id}: {reason}"
  | needsStorage kind => s!"{kind.title} test logic needs a framework configuration"
  | corruptContent path length => s!"scene content {path} is corrupt: {length} bytes"
  | file error => error.message

/-- The message, and after it those of the errors behind it. -/
def chain : SceneError → List String
  | file error => error.chain
  | error => [error.message]

end SceneError

end SceneBench
