import SceneBench.Plan.Reading
import SceneBench.Storage.Files

/-!
# Plans in files

A file that is not there is told apart from one that holds no plan. A file that is there but cannot
be read counts as empty, and so holds no plan either.
-/

namespace SceneBench

/-- What an unreadable text is reported as, whatever it came from. -/
def Plan.unreadable : String := "Failed to parse harness configuration"

/-- Why there is no plan in a file. -/
inductive LoadFailure where
  | missing (file : Path)
  | unreadable (file : Path) (failure : Json.Failure)
  deriving Repr

/-- The messages of a failure, the outermost first. -/
def LoadFailure.chain : LoadFailure → List String
  | missing file => [s!"Configuration file {file} does not exist"]
  | unreadable file failure =>
    [s!"Invalid configuration in {file}", Plan.unreadable, failure.message]

/-- The plan in a file. -/
def Plan.load (file : Path) : Action (Except LoadFailure Plan) := do
  if ← Files.pathExists file then
    return (Plan.ofText (← Files.readText file)).mapError (.unreadable file)
  else return .error (.missing file)

end SceneBench
