import SceneBench.Proofs.Plan.Making
import SceneBench.Proofs.Registry.Requests

/-!
# Nothing is left behind

However a plan ends, its scenes are destroyed. By then the producer knows the scenes of all pairs
and no others, so it is never asked to release one that it has forgotten, and the log tells of each
scene that was created that it was destroyed, after the last creation and once.
-/

namespace SceneBench

variable {σ : Type}

namespace Notice

/-- The identity of a scene that is said to be created. -/
def created? : Notice → Option SceneId
  | sceneCreated id .. => some id
  | _ => none

/-- The identity of a scene that is said to be destroyed. -/
def destroyed? : Notice → Option SceneId
  | sceneDestroyed id => some id
  | _ => none

/-- A notice that is shown as information or as a warning. -/
def isHeard (n : Notice) : Bool := n.level ≠ .debug

/-- What is said of creations is heard, and is about the life of scenes. -/
theorem filterMap_created?_heard (log : List Notice) :
    (log.filter isHeard).filterMap created? = (log.filter isOfLife).filterMap created? := by
  rw [List.filterMap_filter, List.filterMap_filter]
  exact congrArg (log.filterMap ·) (funext fun n => by cases n <;> rfl)

theorem filterMap_destroyed?_heard (log : List Notice) :
    (log.filter isHeard).filterMap destroyed? = (log.filter isOfLife).filterMap destroyed? := by
  rw [List.filterMap_filter, List.filterMap_filter]
  exact congrArg (log.filterMap ·) (funext fun n => by cases n <;> rfl)

end Notice

namespace Made

variable (made : List Made)

theorem created?_created : (made.map created).filterMap Notice.created? = made.map Prod.snd := by
  rw [List.filterMap_map, ← List.filterMap_eq_map]
  rfl

theorem destroyed?_destroyed :
    (made.map destroyed).filterMap Notice.destroyed? = made.map Prod.snd := by
  rw [List.filterMap_map, ← List.filterMap_eq_map]
  rfl

theorem heard_destroyed : (made.map destroyed).filter Notice.isHeard = made.map destroyed := by
  refine List.filter_eq_self.mpr fun notice noted => ?_
  obtain ⟨m, -, rfl⟩ := List.mem_map.mp noted
  rfl

end Made

/-! ## Destroying all scenes of a sound registry -/

/-- A producer that is to release the scenes that it has releases them all, and knows each of
them. -/
theorem LocalProducer.releaseEach_links (p : LocalProducer)
    (handles : (p.scenes.map Prod.fst).Nodup) :
    Registry.releaseEach p p.links =
      ({ p with scenes := [] }, p.links.map fun link => .sceneDestroyed link.1) := by
  obtain ⟨scenes, issued⟩ := p
  induction scenes with
  | nil => rfl
  | cons entry rest ih =>
      obtain ⟨h, s⟩ := entry
      rw [List.map_cons, List.nodup_cons] at handles
      have released : Producer.release (⟨(h, s) :: rest, issued⟩ : LocalProducer) h =
          (true, ⟨rest, issued⟩) := by
        have left : Table.erase ((h, s) :: rest) h = rest :=
          Table.erase_cons_self handles.1
        have known : ((h, s) :: rest).lookup h = some s := List.lookup_cons_self
        show ((((h, s) :: rest).lookup h).isSome, LocalProducer.mk (Table.erase _ h) issued) = _
        rw [left, known]
        rfl
      have others := ih handles.2
      simp only [links, List.map_cons, Registry.releaseEach, released] at others ⊢
      rw [others]
      rfl

/-- A sound registry is cleared without a scene being forgotten. -/
theorem Registry.Sound.run_destroyAll {ρ : Type} {r : Registry LocalProducer ρ} (sound : r.Sound)
    (host : Host σ) (w : World σ) :
    r.destroyAll.run host w =
      ({ r with producer := { r.producer with scenes := [] }, pairs := [] },
        { w with log := w.log ++ r.pairs.map fun entry => .sceneDestroyed entry.1 }) := by
  have released := r.producer.releaseEach_links sound.handles
  rw [← sound.links] at released
  rw [run_destroyAll_eq sound.ids, released, Registry.links, List.map_map]
  rfl

/-! ## Driving a plan and destroying its scenes -/

namespace Plan

/-- Wherever a plan ends, just the scenes that were made are held. -/
theorem holds_drive (plan : Plan) (host : Host σ) (w : World σ) :
    let out := (plan.drive .empty).run host w
    Holds w.life (scenesMade plan.storage host plan.scenes .empty w) out.1.2 out.2 := by
  have holds := (plan.holds_createScenes host w).1
  rw [run_drive_eq]
  dsimp only at holds ⊢
  generalize (createScenes plan.storage plan.scenes .empty).run host w = created at holds ⊢
  obtain ⟨⟨result, r⟩, w'⟩ := created
  cases result with
  | error e => exact holds
  | ok ids =>
      have moved := holds.makeTransitions host plan.transitions
      dsimp only at moved ⊢
      generalize (makeTransitions plan.transitions r).run host w' = out at moved ⊢
      obtain ⟨⟨result, r'⟩, w''⟩ := out
      cases result with
      | error e => exact moved
      | ok done => exact moved

/-- What there is to see once the scenes with some identities were created and all scenes were
destroyed. -/
structure CleanEnd (ids : List SceneId) (host : Host σ) (r : SceneRegistry LocalProducer)
    (w : World σ) : Prop where
  pairs : r.pairs = []
  scenes : r.producer.scenes = []
  /-- There is nothing left to destroy. -/
  again : r.destroyAll.run host w = (r, w)
  distinct : ids.Nodup
  /-- Each of the scenes was said to be created and, after all of them were, to be destroyed. Both
  was said once, and of no other scenes. -/
  told : ∃ before after, w.log.filter Notice.isHeard = before ++ after ∧
    before.filterMap Notice.created? = ids ∧ before.filterMap Notice.destroyed? = [] ∧
    after.filterMap Notice.created? = [] ∧ (after.filterMap Notice.destroyed?).Perm ids
  known : ∀ id, .producerForgot id ∉ w.log

/-- Whoever holds just the scenes that were made is left with nothing by destroying them. -/
theorem Holds.cleanEnd {made : List Made} {r : SceneRegistry LocalProducer} {w : World σ}
    (holds : Holds [] made r w) (host : Host σ) :
    let cleared := r.destroyAll.run host w
    CleanEnd (made.map Prod.snd) host cleared.1 cleared.2 := by
  have ids := holds.ids
  have life : w.log.filter Notice.isOfLife = made.map Made.created := holds.told
  have gone : r.pairs.map (fun entry => Notice.sceneDestroyed entry.1) =
      made.map Made.destroyed := by
    have same := congrArg (List.map Notice.sceneDestroyed) ids
    rwa [List.map_map, List.map_map] at same
  rw [holds.sound.run_destroyAll]
  constructor
  case pairs => rfl
  case scenes => rfl
  case again => rfl
  case distinct => exact ids ▸ holds.sound.ids
  case told =>
    refine ⟨w.log.filter Notice.isHeard, made.map Made.destroyed, ?_, ?_, ?_, ?_, ?_⟩
    · rw [List.filter_append, gone, Made.heard_destroyed]
    · rw [Notice.filterMap_created?_heard, life, Made.created?_created]
    · rw [Notice.filterMap_destroyed?_heard, life]
      simp [Made.created, Notice.destroyed?]
    · simp [Made.destroyed, Notice.created?]
    · rw [Made.destroyed?_destroyed]
  case known =>
    intro id forgot
    rcases List.mem_append.mp forgot with before | after
    · have told : Notice.producerForgot id ∈ w.log.filter Notice.isOfLife :=
        List.mem_filter.mpr ⟨before, rfl⟩
      rw [life] at told
      simp [Made.created] at told
    · simp at after

/-- Whatever a plan comes to and whatever the operating system does, a run ends with all scenes
destroyed that were created. -/
theorem run_cleans_up (plan : Plan) (host : Host σ) (state : σ) :
    let driven := (plan.drive .empty).run host ⟨state, []⟩
    let cleared := driven.1.2.destroyAll.run host driven.2
    let made := scenesMade plan.storage host plan.scenes .empty ⟨state, []⟩
    plan.run.run host ⟨state, []⟩ = (driven.1.1, cleared.2) ∧
      CleanEnd (made.map Prod.snd) host cleared.1 cleared.2 := by
  intro driven cleared made
  have holds : Holds [] made driven.1.2 driven.2 := plan.holds_drive host ⟨state, []⟩
  constructor
  · simp only [run, Action.run_bind, Action.run_pure]
    rfl
  · exact holds.cleanEnd host

/-- The second scene cannot be set up, and the third one is not tried. -/
example :
    let plan : Plan :=
      { scenes := [{ kind := .boxGrid }, { kind := .walls, state := 99 }, { kind := .boxGrid }] }
    (plan.run.run Disk.host ⟨.fresh, []⟩).2.log.filter Notice.isHeard =
      [.sceneCreated ⟨1⟩ .boxGrid 0, .sceneDestroyed ⟨1⟩] := by
  rfl

end Plan

end SceneBench
