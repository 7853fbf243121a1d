import SceneBench.Scene.Basic
import SceneBench.Scene.Error
import SceneBench.Storage.Action

/-!
# Routines

A routine drives one scene through numbered states. It never touches a scene itself: entering a
state is an action that says which edits the scene is to be given, together with the result and the
routine as it is afterwards.
-/

namespace SceneBench

/-- What comes of entering a state. -/
structure Turn (ρ : Type) where
  result : Except SceneError Unit
  routine : ρ
  edits : List Edit

/-- Something that drives a scene. -/
class Routine (ρ : Type) where
  kind : ρ → Kind
  state : ρ → UInt32
  enter : ρ → Scene → UInt32 → Action (Turn ρ)

/-- A way to set up a routine on a new scene: the routine or the reason why there is none, and the
edits that the scene is given in either case. -/
abbrev Setup (ρ : Type) := Scene → Action (Except SceneError ρ × List Edit)

end SceneBench
