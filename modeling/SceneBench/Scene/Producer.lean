import SceneBench.Scene.Basic
import SceneBench.Scene.Error

/-!
# Producers of scenes

A producer owns its scenes and hands out handles to them. The program only relies on the five
requests of the class, and any of them may be answered in any way; the local producer of this module
keeps its scenes in memory, numbers its handles from one and never issues a number twice.
-/

namespace SceneBench

/-- Something that creates, shows, lends and releases scenes. A scene that was lent is given back
after it was changed. -/
class Producer (π : Type) where
  create : π → SceneId → SceneSettings → Except SceneError Handle × π
  view : π → Handle → Option Scene
  borrow : π → Handle → Option Scene × π
  giveBack : π → Handle → Scene → π
  release : π → Handle → Bool × π

/-- A producer that keeps its scenes in memory. -/
structure LocalProducer where
  scenes : List (Handle × Scene) := []
  issued : UInt64 := 0

namespace LocalProducer

def view (p : LocalProducer) (h : Handle) : Option Scene := p.scenes.lookup h

/-- The handle of the live scene with an identity. -/
def find (p : LocalProducer) (id : SceneId) : Option Handle :=
  (p.scenes.find? fun entry => entry.2.id = id).map fun entry => entry.2.handle

def liveScenes (p : LocalProducer) : Nat := p.scenes.length

/-- A new scene under the next handle. An identity in use is refused, and costs no handle. -/
def create (p : LocalProducer) (id : SceneId) (settings : SceneSettings) :
    Except SceneError Handle × LocalProducer :=
  if (p.find id).isSome then
    (.error (.producer id "a live scene already uses this identity"), p)
  else
    let handle : Handle := ⟨p.issued + 1⟩
    (.ok handle,
      { scenes := p.scenes ++ [(handle, { id, handle, settings })], issued := p.issued + 1 })

/-- Put a scene back under its handle. -/
def giveBack (p : LocalProducer) (h : Handle) (s : Scene) : LocalProducer :=
  { p with scenes := p.scenes.map fun entry => if entry.1 = h then (h, s) else entry }

/-- Forget a scene, and tell whether it was there. -/
def release (p : LocalProducer) (h : Handle) : Bool × LocalProducer :=
  ((p.view h).isSome, { p with scenes := p.scenes.filter fun entry => entry.1 ≠ h })

instance : Producer LocalProducer where
  create := create
  view := view
  borrow p h := (p.view h, p)
  giveBack := giveBack
  release := release

end LocalProducer

end SceneBench
