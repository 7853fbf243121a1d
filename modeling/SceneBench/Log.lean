import SceneBench.Content
import SceneBench.Identity
import SceneBench.Storage.Reading

/-!
# The log

What happens while scenes are driven is noted as data. A notice has a level and a line of text;
which levels are shown is up to whoever shows them.
-/

namespace SceneBench

inductive Level where
  | warning
  | info
  | debug
  deriving DecidableEq, Repr

namespace Level

def title : Level → String
  | warning => "WARN"
  | info => "INFO"
  | debug => "DEBUG"

/-- The more there is to see, the higher the level. -/
def rank : Level → Nat
  | warning => 1
  | info => 2
  | debug => 3

end Level

/-- One thing worth noting. -/
inductive Notice where
  | sceneCreated (id : SceneId) (kind : Kind) (state : UInt32)
  | sceneDestroyed (id : SceneId)
  | sceneMoved (id : SceneId) (state : UInt32)
  | destroyIgnored (id : SceneId)
  | producerForgot (id : SceneId)
  | contentBuilt (id : SceneId) (kind : Kind) (state : UInt32) (count : Nat)
  | contentLoaded (id : SceneId) (count : Nat) (file : Path)
  | contentCorrupt (file : Path) (ending : ReadEnd) (length : Nat)
  | readFailed (delivered expected : Nat) (error : OsError)
  | readStalled (delivered expected : Nat)
  | readStopped (file : Path) (delivered expected : Nat) (ending : ReadEnd)
  | noText (file : Path) (error : OsError)
  | summaryWritten (file : Path)
  deriving DecidableEq, Repr

namespace Notice

def level : Notice → Level
  | sceneCreated .. | sceneDestroyed .. | summaryWritten .. => .info
  | producerForgot .. | contentCorrupt .. | readFailed .. => .warning
  | sceneMoved .. | destroyIgnored .. | contentBuilt .. | contentLoaded .. | readStalled ..
  | readStopped .. | noText .. => .debug

/-- How a notice names built content. -/
def contentPhrase : Kind → String
  | .boxGrid => "box grid state"
  | .walls => "walls state"
  | .fractal => "menger sponge depth"
  | .fileLoading => "file state"

def text : Notice → String
  | sceneCreated id kind state => s!"created scene {id} ({kind.title}, state {state})"
  | sceneDestroyed id => s!"destroyed scene {id}"
  | sceneMoved id state => s!"scene {id} now in state {state}"
  | destroyIgnored id => s!"destroy of unregistered scene {id} ignored"
  | producerForgot id => s!"producer no longer knew client scene of scene {id}"
  | contentBuilt id kind state count =>
    s!"scene {id}: {contentPhrase kind} {state} ({count} boxes)"
  | contentLoaded id count file => s!"scene {id}: loaded {count} boxes from {file}"
  | contentCorrupt file ending length =>
    s!"{file}: read ended with {ending.title} after {length} bytes"
  | readFailed delivered expected error =>
    s!"read failed after {delivered} of {expected} bytes: {error.message}"
  | readStalled delivered expected => s!"read stalled after {delivered} of {expected} bytes"
  | readStopped file delivered expected ending =>
    s!"read of {file} stopped at {delivered} of {expected} bytes ({ending.title})"
  | noText file error => s!"no text read from {file}: {error.message}"
  | summaryWritten file => s!"wrote {file}"

/-- The line of a notice, with its level in front. -/
def line (n : Notice) : String := n.level.title ++ " " ++ n.text

end Notice

end SceneBench
