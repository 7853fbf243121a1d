import SceneBench.Scene.Producer

/-!
# A producer under watch

A local producer whose requests are recorded and which can be made to misbehave: refuse one scene,
hide all of them, or keep what it is told to release. It shows what the requests of a program are,
and what the program makes of a producer that does not do its work.
-/

namespace SceneBench

/-- A request that a producer was given, with its outcome where scenes come and go. -/
inductive ProducerRequest where
  | created (id : SceneId)
  | refused (id : SceneId)
  | released (handle : Handle)
  deriving DecidableEq, Repr

/-- How a producer misbehaves. -/
structure Faults where
  failNext : Bool := false
  hidden : Bool := false
  refuseRelease : Bool := false
  deriving DecidableEq, Repr

structure WatchedProducer where
  inner : LocalProducer := {}
  faults : Faults := {}
  requests : List ProducerRequest := []

namespace WatchedProducer

def record (p : WatchedProducer) (request : ProducerRequest) : WatchedProducer :=
  { p with requests := p.requests ++ [request] }

def create (p : WatchedProducer) (id : SceneId) (settings : SceneSettings) :
    Except SceneError Handle × WatchedProducer :=
  if p.faults.failNext then
    (.error (.producer id "out of scenes"),
      { p with faults := { p.faults with failNext := false } }.record (.refused id))
  else
    match p.inner.create id settings with
    | (.ok handle, inner) => (.ok handle, { p with inner }.record (.created id))
    | (.error e, inner) => (.error e, { p with inner }.record (.refused id))

def view (p : WatchedProducer) (h : Handle) : Option Scene :=
  if p.faults.hidden then none else p.inner.view h

def release (p : WatchedProducer) (h : Handle) : Bool × WatchedProducer :=
  if p.faults.refuseRelease then (false, p.record (.released h))
  else
    let (known, inner) := p.inner.release h
    (known, { p with inner }.record (.released h))

instance : Producer WatchedProducer where
  create := create
  view := view
  borrow p h := (p.view h, p)
  giveBack p h s := { p with inner := p.inner.giveBack h s }
  release := release

end WatchedProducer

end SceneBench
