import SceneBench.Proofs.Plan.Making
import SceneBench.Proofs.Plan.Outcome

/-!
# What is told about a scene

A request has settings for the producer and a place for the camera. Both are handed on once, when
the scene is created, and nothing that a plan does later changes them. The camera always stands
where the request puts it. The settings reach the producer as they are, except for scenes whose
content goes through a file: these are created with the default settings, whatever was asked for.
-/

namespace SceneBench.Plan

variable {σ : Type} {host : Host σ} {w : World σ} {plan : Plan} {summaries : List Summary}
  {r : SceneRegistry LocalProducer}

/-- What is held can be looked at. -/
theorem Holds.scene {earlier : List Notice} {made : List Made} (holds : Holds earlier made r w)
    {m : Made} (held : m ∈ made) :
    ∃ s, r.scene m.2 = .ok s ∧ s.settings = m.1.handed ∧ s.camera.position = m.1.camera := by
  obtain ⟨routine, s, ⟨h, found, shown⟩, settings, camera⟩ := holds.shown m held
  refine ⟨s, Registry.scene_of_view found shown, settings, ?_⟩
  rw [camera]
  exact Placed.position_viewpoint ⟨m.1, m.2⟩

/-- A plan that is carried out has made a scene for each request, and has made its transitions on
them. -/
theorem created_of_drive (ok : ((plan.drive .empty).run host w).1.1 = .ok summaries) :
    let created := (createScenes plan.storage plan.scenes .empty).run host w
    let made := scenesMade plan.storage host plan.scenes .empty w
    Holds w.life made created.1.2 created.2 ∧ made.map Prod.fst = plan.scenes ∧
      created.1.1 = .ok (made.map Prod.snd) ∧
      ((plan.drive .empty).run host w).1.2 =
        ((makeTransitions plan.transitions created.1.2).run host created.2).1.2 := by
  obtain ⟨holds, named⟩ := plan.holds_createScenes host w
  rw [run_drive_eq] at ok ⊢
  dsimp only at ok holds named ⊢
  generalize (createScenes plan.storage plan.scenes .empty).run host w = created
    at ok holds named ⊢
  obtain ⟨⟨result, r⟩, w'⟩ := created
  cases result with
  | error e => cases ok
  | ok ids =>
      obtain ⟨requests, same⟩ := named ids rfl
      dsimp only at ok ⊢
      generalize (makeTransitions plan.transitions r).run host w' = moved at ok ⊢
      obtain ⟨⟨result, r'⟩, w''⟩ := moved
      cases result with
      | error e => cases ok
      | ok done => exact ⟨holds, requests, congrArg _ same.symm, rfl⟩

/-- Of a plan that is carried out, each request has a scene. From the time when all scenes are
there, and after any transitions, this scene has the settings that were handed on for the request
and a camera where the request puts it. The settings handed on are those of the request, but the
default ones for content in a file. -/
theorem handed_on (ok : ((plan.drive .empty).run host w).1.1 = .ok summaries) :
    let created := (createScenes plan.storage plan.scenes .empty).run host w
    let made := scenesMade plan.storage host plan.scenes .empty w
    made.map Prod.fst = plan.scenes ∧ created.1.1 = .ok (made.map Prod.snd) ∧
      ((plan.drive .empty).run host w).1.2 =
        ((makeTransitions plan.transitions created.1.2).run host created.2).1.2 ∧
      ∀ m ∈ made, ∀ transitions,
        let r := ((makeTransitions transitions created.1.2).run host created.2).1.2
        ∃ s, r.scene m.2 = .ok s ∧
          s.settings = (if m.1.kind = .fileLoading then {} else m.1.settings) ∧
          s.camera.position = m.1.camera := by
  intro created made
  obtain ⟨holds, requests, ids, final⟩ := created_of_drive ok
  refine ⟨requests, ids, final, ?_⟩
  intro m held transitions
  obtain ⟨s, seen, settings, camera⟩ := (holds.makeTransitions host transitions).scene held
  refine ⟨s, seen, ?_, camera⟩
  rw [settings, SceneRequest.handed]
  split
  · next file => rw [if_pos file]
  · next other => rw [if_neg other]

/-! ## Content in a file -/

/-- One scene with its content in a file, which is to be published remotely. -/
def published : Plan where
  scenes := [{ kind := .fileLoading, id := some ⟨1⟩, settings := ⟨.localAndRemote⟩ }]

/-- A new disk is all that is needed to carry it out. -/
theorem drive_published :
    ∃ summaries, ((published.drive .empty).run Disk.host ⟨.fresh, []⟩).1.1 = .ok summaries := by
  let row : Placed := ⟨{ kind := .fileLoading, id := some ⟨1⟩, settings := ⟨.localAndRemote⟩ }, ⟨1⟩⟩
  have assigned : Placed.Assigned [row] := Placed.Assigned.nil.next (Placed.fits_of_id_eq rfl rfl)
  have served : Disk.host.DoesAll .fresh (published.jobs [row]) := by
    obtain ⟨cube, first⟩ : ∃ boxes, Content.fileLoading 0 = some boxes := ⟨_, rfl⟩
    have jobs : published.jobs [row] =
        .directory ⟨"scenes"⟩ :: Option.elim (Content.fileLoading 0) [] (row.routine {}).jobs := rfl
    have file : row.routine {} = .fileLoading 0 ⟨"scenes/scene_1.bin"⟩ := by decide
    let made := Disk.fresh.put ["scenes"] (.directory [])
    let kept := made.put ["scenes", "scene_1.bin"] (.leaf (.file (encodeRecords cube)))
    have directory : (StorageJob.directory ⟨"scenes"⟩).after Disk.host .fresh = made := rfl
    have stored : (StorageJob.content ⟨"scenes/scene_1.bin"⟩ cube).DoneBy Disk.host made ∧
        (StorageJob.content ⟨"scenes/scene_1.bin"⟩ cube).after Disk.host made = kept :=
      Disk.does_content rfl rfl
    rw [jobs, first, file]
    refine ⟨rfl, ?_⟩
    rw [directory]
    exact ⟨stored.1, trivial⟩
  have few : published.scenes.length < 2 ^ 32 - 1 := by decide
  have drive := run_drive (w := ⟨Disk.fresh, []⟩) few assigned rfl served
  have faultless : published.fault? [row] = none := rfl
  rw [outcome, faultless] at drive
  exact ⟨_, drive⟩

/-- Its scene is made, and has the default settings. -/
theorem handed_on_published :
    (∃ summaries, ((published.drive .empty).run Disk.host ⟨.fresh, []⟩).1.1 = .ok summaries) ∧
      ∃ id s, ((published.drive .empty).run Disk.host ⟨.fresh, []⟩).1.2.scene id = .ok s ∧
        s.settings = ⟨.localOnly⟩ ∧ s.camera.position = .zero := by
  obtain ⟨summaries, ok⟩ := drive_published
  refine ⟨⟨summaries, ok⟩, ?_⟩
  obtain ⟨requests, -, final, seen⟩ := handed_on ok
  obtain ⟨m, rest, made, request, -⟩ := List.map_eq_cons_iff.mp requests
  obtain ⟨s, shown, settings, camera⟩ :=
    seen m (by rw [made]; exact List.mem_cons_self) published.transitions
  rw [request] at settings camera
  refine ⟨m.2, s, ?_, settings, camera⟩
  rw [final]
  exact shown

/-- These are not the settings of its request. -/
theorem settings_dropped :
    (∃ summaries, ((published.drive .empty).run Disk.host ⟨.fresh, []⟩).1.1 = .ok summaries) ∧
      ∃ request ∈ published.scenes, ∃ id, request.id = some id ∧
        ∃ s, ((published.drive .empty).run Disk.host ⟨.fresh, []⟩).1.2.scene id = .ok s ∧
          s.settings ≠ request.settings := by
  obtain ⟨summaries, ok⟩ := drive_published
  refine ⟨⟨summaries, ok⟩, _, List.mem_cons_self, _, rfl, ?_⟩
  obtain ⟨holds, requests, -, final⟩ := created_of_drive ok
  obtain ⟨m, rest, made, request, -⟩ := List.map_eq_cons_iff.mp requests
  rw [made] at holds
  have named := holds.chosen m List.mem_cons_self ⟨1⟩ (by rw [request])
  obtain ⟨s, shown, settings, -⟩ :=
    (holds.makeTransitions Disk.host published.transitions).scene List.mem_cons_self
  rw [named] at shown
  rw [request] at settings
  refine ⟨s, ?_, ?_⟩
  · rw [final]
    exact shown
  · rw [settings]
    decide

end SceneBench.Plan
