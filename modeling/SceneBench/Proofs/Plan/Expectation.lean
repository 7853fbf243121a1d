import SceneBench.Proofs.Content.Kinds
import SceneBench.Proofs.Plan.Placement
import SceneBench.Proofs.Routine.Served
import SceneBench.Run
import Mathlib.Data.List.Nodup

/-!
# What to expect of a plan

What a plan comes to can be told from the plan and the identities of its scenes. Carrying it out
takes one step for each request and one for each transition, and a step either has a fault, which
is then what the whole run comes to, or it needs some jobs of the operating system. Where no step
has a fault, a summary tells of each scene the content that goes with its kind and with the state
of the last transition that names it.
-/

namespace SceneBench

/-- A step on the way through a plan. -/
structure PlanStep where
  fault? : Option RunFailure
  jobs : List StorageJob

/-- What steps ask of the operating system before a fault ends them. -/
def PlanStep.asked : List PlanStep → List StorageJob
  | [] => []
  | step :: rest => step.jobs ++ if step.fault?.isSome then [] else asked rest

/-- Further steps are asked for their jobs only where no fault comes before them. -/
theorem PlanStep.asked_append (steps further : List PlanStep) :
    asked (steps ++ further) =
      asked steps ++ if (steps.findSome? PlanStep.fault?).isSome then [] else asked further := by
  induction steps with
  | nil => rfl
  | cons step steps ih =>
      rw [List.cons_append, asked, asked, ih, List.findSome?_cons]
      cases step.fault? with
      | none => simp
      | some e => simp

namespace SceneRequest

/-- Where the scene of a request is looked at from, and which way. -/
def viewpoint (request : SceneRequest) : Camera :=
  match request.kind with
  | .fractal => .lookingAt request.camera Sponge.center
  | .boxGrid | .walls | .fileLoading => .level request.camera

end SceneRequest

namespace Placed

/-- The routine of a scene in its first state. -/
def routine (storage : StorageSettings) (p : Placed) : StandardRoutine :=
  match p.request.kind with
  | .boxGrid => .boxGrid p.request.state
  | .walls => .walls p.request.state
  | .fractal => .fractal p.request.state
  | .fileLoading => .fileLoading p.request.state (StandardRoutine.contentFile storage p.id)

/-- Content files need a directory first. -/
def directoryJobs (storage : StorageSettings) (p : Placed) : List StorageJob :=
  match p.request.kind with
  | .fileLoading => [.directory storage.sceneDirectory]
  | .boxGrid | .walls | .fractal => []

/-- What creating a scene needs. -/
def jobs (storage : StorageSettings) (p : Placed) : List StorageJob :=
  p.directoryJobs storage ++ (p.routine storage).enterJobs p.request.state

/-- Creating a scene after some others. -/
def creation (storage : StorageSettings) (earlier : List Placed) (p : Placed) : PlanStep :=
  if p.request.kind = .fileLoading ∧ p.request.id = none then ⟨some .identityNeeded, []⟩
  else if p.id ∈ earlier.map Placed.id then
    ⟨some (.notCreated p.request.kind (.duplicateScene p.id)), []⟩
  else if p.request.kind.states ≤ p.request.state.toNat then
    ⟨some (.notCreated p.request.kind (.unknownState p.request.kind p.request.state)),
      p.jobs storage⟩
  else ⟨none, p.jobs storage⟩

/-- Creating scenes one after the other. -/
def creations (storage : StorageSettings) : List Placed → List Placed → List PlanStep
  | _, [] => []
  | earlier, p :: rest => p.creation storage earlier :: creations storage (earlier ++ [p]) rest

/-- The state that some transitions leave a scene in: that of the last one that names it. -/
def stateAfter (transitions : List Transition) (p : Placed) : UInt32 :=
  ((transitions.filter fun t => t.scene = p.id).getLast?.map Transition.state).getD
    p.request.state

/-- How many frames a scene has shown after some transitions. -/
def framesAfter (transitions : List Transition) (p : Placed) : Nat :=
  1 + transitions.countP fun t => t.scene = p.id

/-- The summary of a scene after some transitions. -/
def summary (transitions : List Transition) (p : Placed) : Summary :=
  let state := p.stateAfter transitions
  let boxes := (p.request.kind.content state).getD []
  { id := p.id
    kind := p.request.kind
    state := state
    boxes := boxes.length
    movingBoxes := boxes.countP BoxRecord.isMoving
    bounds := Bounds.enclosing (boxes.map BoxRecord.bounds)
    camera := p.request.camera
    forward := p.request.viewpoint.forward
    flushes := p.framesAfter transitions }

end Placed

/-- What a summary says of boxes: how many there are, how many of them travel, and their bounds. -/
structure Summary.Tells (s : Summary) (shown : List BoxRecord) : Prop where
  boxes : s.boxes = shown.length
  movingBoxes : s.movingBoxes = shown.countP BoxRecord.isMoving
  bounds : s.bounds = Bounds.enclosing (shown.map BoxRecord.bounds)

theorem Placed.tells_summary {transitions : List Transition} {p : Placed} {boxes : List BoxRecord}
    (shows : p.request.kind.Shows (p.stateAfter transitions) boxes) :
    (p.summary transitions).Tells boxes := by
  have known := Kind.content_eq_some_iff.mpr shows
  constructor <;> simp only [summary, known, Option.getD_some]

/-- Making a transition once all scenes exist. -/
def Transition.step (storage : StorageSettings) (placed : List Placed) (t : Transition) :
    PlanStep :=
  let notMoved (e : SceneError) : PlanStep := ⟨some (.notMoved t.scene t.state e), []⟩
  match placed.find? fun p => p.id = t.scene with
  | none => notMoved (.unknownScene t.scene)
  | some p =>
    if p.request.kind ≠ t.kind then notMoved (.kindMismatch t.scene t.kind p.request.kind)
    else if t.kind.states ≤ t.state.toNat then notMoved (.unknownState t.kind t.state)
    else ⟨none, (p.routine storage).enterJobs t.state⟩

namespace Plan

variable (plan : Plan) (placed : List Placed)

/-- The steps of a plan in order. -/
def steps : List PlanStep :=
  Placed.creations plan.storage [] placed ++ plan.transitions.map (·.step plan.storage placed)

/-- The first fault of a plan. -/
def fault? : Option RunFailure := (plan.steps placed).findSome? PlanStep.fault?

/-- What a plan asks of the operating system for its content files. -/
def jobs : List StorageJob := PlanStep.asked (plan.steps placed)

/-- A plan in which nothing is wrong. -/
structure Acceptable : Prop where
  /-- Every scene has a first state that its kind knows. -/
  states : ∀ request ∈ plan.scenes, request.state.toNat < request.kind.states
  /-- Scenes whose content goes through a file name their identity. -/
  identities : ∀ request ∈ plan.scenes, request.kind = .fileLoading → ∃ id, request.id = some id
  /-- No scene names the identity of a scene before it. -/
  distinct : ∀ earlier p later, placed = earlier ++ p :: later →
    ∀ id, p.request.id = some id → ∀ q ∈ earlier, q.id ≠ id
  /-- Every transition names a scene, its kind, and a state that the kind knows. -/
  transitions : ∀ t ∈ plan.transitions,
    (∃ p ∈ placed, p.id = t.scene ∧ p.request.kind = t.kind) ∧ t.state.toNat < t.kind.states

end Plan

/-! ## A plan without a fault is acceptable -/

namespace Placed

variable {storage : StorageSettings} {earlier rest placed : List Placed} {p : Placed}

theorem mem_creations {step : PlanStep} :
    step ∈ creations storage earlier rest ↔
      ∃ before p later, rest = before ++ p :: later ∧
        step = p.creation storage (earlier ++ before) := by
  induction rest generalizing earlier with
  | nil => simp [creations]
  | cons q rest ih =>
      rw [creations, List.mem_cons, ih]
      constructor
      · rintro (rfl | ⟨before, p, later, rfl, rfl⟩)
        · exact ⟨[], q, rest, rfl, by rw [List.append_nil]⟩
        · exact ⟨q :: before, p, later, rfl, by rw [List.append_assoc]; rfl⟩
      · rintro ⟨before, p, later, here, rfl⟩
        cases before with
        | nil =>
            obtain ⟨rfl, rfl⟩ := List.cons.inj here
            exact .inl (by rw [List.append_nil])
        | cons first before =>
            obtain ⟨rfl, rfl⟩ := List.cons.inj here
            exact .inr ⟨before, p, later, rfl, by rw [List.append_assoc]; rfl⟩

theorem fault?_creation_eq_none_iff :
    (p.creation storage earlier).fault? = none ↔
      ¬ (p.request.kind = .fileLoading ∧ p.request.id = none) ∧
        p.id ∉ earlier.map Placed.id ∧ p.request.state.toNat < p.request.kind.states := by
  unfold creation
  split_ifs <;> simp_all

theorem nodup_ids_of_new (new : ∀ earlier p later, placed = earlier ++ p :: later →
    p.id ∉ earlier.map Placed.id) : (placed.map Placed.id).Nodup := by
  induction placed using List.reverseRecOn with
  | nil => exact List.nodup_nil
  | append_singleton before p ih =>
      rw [List.map_append, List.map_singleton, ← List.concat_eq_append]
      refine List.Nodup.concat (new before p [] rfl) (ih ?_)
      rintro earlier q later rfl
      exact new earlier q (later ++ [p]) (by simp)

end Placed

theorem Transition.fault?_step_eq_none_iff {storage : StorageSettings} {placed : List Placed}
    (ids : (placed.map Placed.id).Nodup) {t : Transition} :
    (t.step storage placed).fault? = none ↔
      (∃ p ∈ placed, p.id = t.scene ∧ p.request.kind = t.kind) ∧
        t.state.toNat < t.kind.states := by
  unfold step
  cases found : placed.find? fun p => p.id = t.scene with
  | none =>
      have missing := List.find?_eq_none.mp found
      simp only [reduceCtorEq, false_iff]
      rintro ⟨⟨p, held, same, -⟩, -⟩
      simpa [same] using missing p held
  | some p =>
      have held := List.mem_of_find?_eq_some found
      have same : p.id = t.scene := by simpa using List.find?_some found
      have only : (∃ q ∈ placed, q.id = t.scene ∧ q.request.kind = t.kind) ↔
          p.request.kind = t.kind := by
        constructor
        · rintro ⟨q, held', same', kind⟩
          rwa [List.inj_on_of_nodup_map ids held held' (same.trans same'.symm)]
        · exact fun kind => ⟨p, held, same, kind⟩
      rw [only]
      dsimp only
      split_ifs <;> simp_all

namespace Plan

variable {plan : Plan} {placed : List Placed}

theorem fault?_eq_none_iff_forall :
    plan.fault? placed = none ↔
      (∀ earlier p later, placed = earlier ++ p :: later →
        (p.creation plan.storage earlier).fault? = none) ∧
      ∀ t ∈ plan.transitions, (t.step plan.storage placed).fault? = none := by
  rw [fault?, steps, List.findSome?_eq_none_iff, List.forall_mem_append, List.forall_mem_map]
  refine and_congr_left' ⟨fun all earlier p later here => ?_, fun all step member => ?_⟩
  · exact all _ (Placed.mem_creations.mpr ⟨earlier, p, later, here, rfl⟩)
  · obtain ⟨earlier, p, later, here, rfl⟩ := Placed.mem_creations.mp member
    exact all earlier p later here

/-- In an acceptable plan every scene has an identity of its own. -/
theorem Acceptable.id_notMem (acceptable : plan.Acceptable placed)
    (assigned : Placed.Assigned placed) {earlier later : List Placed} {p : Placed}
    (here : placed = earlier ++ p :: later) : p.id ∉ earlier.map Placed.id := by
  obtain ⟨before, fits⟩ := assigned.split here
  cases chosen : p.request.id with
  | none => exact before.id_notMem fits chosen
  | some id =>
      intro used
      obtain ⟨q, held, same⟩ := List.mem_map.mp used
      exact acceptable.distinct earlier p later here id chosen q held
        (same.trans (fits.id_eq chosen))

/-- The plans without a fault are those in which nothing is wrong. -/
theorem fault?_eq_none_iff (assigned : Placed.Assigned placed)
    (requests : placed.map Placed.request = plan.scenes) :
    plan.fault? placed = none ↔ plan.Acceptable placed := by
  rw [fault?_eq_none_iff_forall]
  constructor
  · rintro ⟨creations, transitions⟩
    have creation : ∀ earlier p later, placed = earlier ++ p :: later → _ :=
      fun earlier p later here =>
        Placed.fault?_creation_eq_none_iff.mp (creations earlier p later here)
    have ids : (placed.map Placed.id).Nodup :=
      Placed.nodup_ids_of_new fun earlier p later here => (creation earlier p later here).2.1
    have ofRequest : ∀ request ∈ plan.scenes, ∃ earlier p later,
        placed = earlier ++ p :: later ∧ p.request = request := by
      intro request member
      rw [← requests] at member
      obtain ⟨p, held, same⟩ := List.mem_map.mp member
      obtain ⟨earlier, later, here⟩ := List.append_of_mem held
      exact ⟨earlier, p, later, here, same⟩
    constructor
    case states =>
      intro request member
      obtain ⟨earlier, p, later, here, rfl⟩ := ofRequest request member
      exact (creation earlier p later here).2.2
    case identities =>
      intro request member file
      obtain ⟨earlier, p, later, here, rfl⟩ := ofRequest request member
      refine Option.ne_none_iff_exists'.mp fun counted => ?_
      exact (creation earlier p later here).1 ⟨file, counted⟩
    case distinct =>
      intro earlier p later here id chosen q held same
      refine (creation earlier p later here).2.1 ?_
      rw [(assigned.split here).2.id_eq chosen, ← same]
      exact List.mem_map_of_mem held
    case transitions =>
      intro t member
      exact (Transition.fault?_step_eq_none_iff ids).mp (transitions t member)
  · intro acceptable
    have new : ∀ earlier p later, placed = earlier ++ p :: later →
        p.id ∉ earlier.map Placed.id :=
      fun earlier p later here => acceptable.id_notMem assigned here
    refine ⟨fun earlier p later here => ?_, fun t member => ?_⟩
    · have member : p.request ∈ plan.scenes := by
        rw [← requests, here]
        simp
      rw [Placed.fault?_creation_eq_none_iff]
      refine ⟨?_, new earlier p later here, ?_⟩
      · rintro ⟨file, counted⟩
        obtain ⟨id, chosen⟩ := acceptable.identities _ member file
        rw [chosen] at counted
        cases counted
      · exact acceptable.states _ member
    · rw [Transition.fault?_step_eq_none_iff (Placed.nodup_ids_of_new new)]
      exact acceptable.transitions t member

/-- In an acceptable plan a scene ends in a state that its kind has. -/
theorem Acceptable.stateAfter_lt (acceptable : plan.Acceptable placed)
    (ids : (placed.map Placed.id).Nodup) (requests : placed.map Placed.request = plan.scenes)
    {p : Placed} (held : p ∈ placed) :
    (p.stateAfter plan.transitions).toNat < p.request.kind.states := by
  rw [Placed.stateAfter]
  cases last : (plan.transitions.filter fun t => t.scene = p.id).getLast? with
  | none =>
      rw [Option.map_none, Option.getD_none]
      exact acceptable.states _ (requests ▸ List.mem_map_of_mem held)
  | some t =>
      obtain ⟨member, scene⟩ := List.mem_filter.mp (List.mem_of_getLast? last)
      obtain ⟨⟨q, held', same, kind⟩, known⟩ := acceptable.transitions t member
      obtain rfl : q = p :=
        List.inj_on_of_nodup_map ids held' held (same.trans (by simpa using scene))
      rw [Option.map_some, Option.getD_some, kind]
      exact known

end Plan

end SceneBench
