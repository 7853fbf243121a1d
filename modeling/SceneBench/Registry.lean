import SceneBench.Routine.Standard
import SceneBench.Scene.Producer

/-!
# The registry

A registry keeps, under each identity, the handle of a scene and the routine that drives it. The
scenes themselves stay with the producer and are only asked for and given back through it.

Identities are either chosen by the caller or counted up from one, and a counted identity is never
counted again. An identity in use is refused before the producer is asked for anything; when a
routine cannot be set up, the scene that was made for it is released again.
-/

namespace SceneBench

/-- A registered scene. -/
structure Pair (ρ : Type) where
  handle : Handle
  routine : ρ

structure Registry (π ρ : Type) where
  producer : π
  nextId : UInt32 := 1
  pairs : List (SceneId × Pair ρ) := []

namespace Registry

variable {π ρ : Type}

def find? (r : Registry π ρ) (id : SceneId) : Option (Pair ρ) := r.pairs.lookup id

def contains (r : Registry π ρ) (id : SceneId) : Bool := (r.find? id).isSome

def size (r : Registry π ρ) : Nat := r.pairs.length

def isEmpty (r : Registry π ρ) : Bool := r.pairs.isEmpty

/-- The registered identities in ascending order. -/
def ids (r : Registry π ρ) : List SceneId :=
  (r.pairs.map Prod.fst).mergeSort fun a b => a.value ≤ b.value

/-- Put a pair under an identity, in place of the one that was there. -/
def put (r : Registry π ρ) (id : SceneId) (pair : Pair ρ) : Registry π ρ :=
  if r.contains id then
    { r with pairs := r.pairs.map fun entry => if entry.1 = id then (id, pair) else entry }
  else { r with pairs := r.pairs ++ [(id, pair)] }

/-- Take an identity off the registry. -/
def erase (r : Registry π ρ) (id : SceneId) : Registry π ρ :=
  { r with pairs := r.pairs.filter fun entry => entry.1 ≠ id }

/-! ## Identities -/

/-- The first number from the counter on under which nothing is registered. There are no more
registered identities to skip than the registry has. When every number of 32 bits is registered a
search without that bound would never end; this one comes back to the counter, and the creation it
was made for is refused as a duplicate. -/
def firstFree (r : Registry π ρ) : Nat → UInt32 → UInt32
  | 0, counter => counter
  | fuel + 1, counter =>
    if r.contains ⟨counter⟩ then firstFree r fuel (counter + 1) else counter

/-- Count up to a free identity. -/
def allocate (r : Registry π ρ) : SceneId × Registry π ρ :=
  let free := r.firstFree r.size r.nextId
  (⟨free⟩, { r with nextId := free + 1 })

/-- The chosen identity, or else the next counted one. -/
def chooseId (r : Registry π ρ) : Option SceneId → SceneId × Registry π ρ
  | some id => (id, r)
  | none => r.allocate

section Requests

variable [Producer π] [Routine ρ]

/-! ## Creating scenes -/

/-- Lend the scene of a handle to an action and apply the edits that come out of it. -/
def lend {α : Type} (r : Registry π ρ) (handle : Handle) (missing : α)
    (use : Scene → Action (α × List Edit)) : Action (α × Registry π ρ) :=
  match Producer.borrow r.producer handle with
  | (none, producer) => return (missing, { r with producer })
  | (some scene, producer) => do
    let (value, edits) ← use scene
    return (value,
      { r with producer := Producer.giveBack producer handle (scene.applyAll edits) })

/-- Register a new scene with the routine that the set-up makes. -/
def create (r : Registry π ρ) (chosen : Option SceneId) (settings : SceneSettings)
    (setup : Setup ρ) : Action (Except SceneError SceneId × Registry π ρ) := do
  let (id, r) := r.chooseId chosen
  if r.contains id then return (.error (.duplicateScene id), r)
  match Producer.create r.producer id settings with
  | (.error e, producer) => return (.error e, { r with producer })
  | (.ok handle, producer) => do
    let unreachable := .error (.producer id "created scene is not reachable")
    match ← { r with producer }.lend handle unreachable setup with
    | (.error e, r) =>
      return (.error e, { r with producer := (Producer.release r.producer handle).2 })
    | (.ok routine, r) => do
      Action.say (.sceneCreated id (Routine.kind routine) (Routine.state routine))
      return (.ok id, r.put id ⟨handle, routine⟩)

/-! ## Looking at scenes and changing them -/

/-- The scene of an identity. -/
def scene (r : Registry π ρ) (id : SceneId) : Except SceneError Scene :=
  match r.find? id >>= fun pair => Producer.view r.producer pair.handle with
  | some scene => .ok scene
  | none => .error (.unknownScene id)

/-- Change the scene of an identity; the scene as it is afterwards. -/
def edit (r : Registry π ρ) (id : SceneId) (change : Edit) :
    Except SceneError Scene × Registry π ρ :=
  match r.find? id with
  | none => (.error (.unknownScene id), r)
  | some pair =>
    match Producer.borrow r.producer pair.handle with
    | (none, producer) => (.error (.unknownScene id), { r with producer })
    | (some scene, producer) =>
      let scene := scene.apply change
      (.ok scene, { r with producer := Producer.giveBack producer pair.handle scene })

def kind (r : Registry π ρ) (id : SceneId) : Except SceneError Kind :=
  match r.find? id with
  | some pair => .ok (Routine.kind pair.routine)
  | none => .error (.unknownScene id)

def state (r : Registry π ρ) (id : SceneId) : Except SceneError UInt32 :=
  match r.find? id with
  | some pair => .ok (Routine.state pair.routine)
  | none => .error (.unknownScene id)

/-- Drive a scene into a state, by a caller who knows the kind of its routine. -/
def setState (r : Registry π ρ) (id : SceneId) (kind : Kind) (state : UInt32) :
    Action (Except SceneError Unit × Registry π ρ) :=
  match r.find? id with
  | none => return (.error (.unknownScene id), r)
  | some pair =>
    let actual := Routine.kind pair.routine
    if actual ≠ kind then return (.error (.kindMismatch id kind actual), r)
    else do
      let missing : Turn ρ := ⟨.error (.unknownScene id), pair.routine, []⟩
      let (turn, r) ← r.lend pair.handle missing fun scene => do
        let turn ← Routine.enter pair.routine scene state
        return (turn, turn.edits)
      if turn.result matches .ok () then Action.say (.sceneMoved id state)
      return (turn.result, r.put id { pair with routine := turn.routine })

/-! ## Destroying scenes -/

/-- Take a scene off the registry and release it; tells whether it was registered. -/
def destroy (r : Registry π ρ) (id : SceneId) : Action (Bool × Registry π ρ) :=
  match r.find? id with
  | none => do
    Action.say (.destroyIgnored id)
    return (false, r)
  | some pair => do
    let (known, producer) := Producer.release r.producer pair.handle
    if !known then Action.say (.producerForgot id)
    Action.say (.sceneDestroyed id)
    return (true, { r.erase id with producer })

/-- Destroy the scenes of the given identities one after the other. -/
def destroyEach (r : Registry π ρ) : List SceneId → Action (Registry π ρ)
  | [] => return r
  | id :: rest => do
    let (_, r) ← r.destroy id
    r.destroyEach rest

/-- Destroy every registered scene. -/
def destroyAll (r : Registry π ρ) : Action (Registry π ρ) := r.destroyEach (r.pairs.map Prod.fst)

end Requests

end Registry

/-- A registry of scenes that the standard routines drive. -/
abbrev SceneRegistry (π : Type) := Registry π StandardRoutine

namespace SceneRegistry

variable {π : Type} [Producer π]

/-- Create a scene of a kind, under a chosen or a counted identity. -/
def createKind (r : SceneRegistry π) (chosen : Option SceneId) (kind : Kind) (state : UInt32)
    (camera : Vec3) (settings : SceneSettings) :
    Action (Except SceneError SceneId × SceneRegistry π) :=
  r.create chosen settings (StandardRoutine.setup kind state camera)

/-- Create a scene whose content goes through a file. -/
def createFileLoading (r : SceneRegistry π) (id : SceneId) (camera : Vec3)
    (storage : StorageSettings) (state : UInt32) :
    Action (Except SceneError SceneId × SceneRegistry π) :=
  r.create (some id) {} (StandardRoutine.setupFileLoading storage state camera)

end SceneRegistry

end SceneBench
