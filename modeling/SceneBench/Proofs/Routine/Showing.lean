import SceneBench.Proofs.Plan.Creating
import SceneBench.Proofs.Routine.ReadBack

/-!
# What standard routines show

A standard routine either refuses to enter a state and leaves everything as it was, or shows some
boxes as one frame. These are the content of the state, except that content behind a file is only as
good as the host that keeps the file. A set-up begins with the camera and then enters the first
state, so the same holds for it.

A registry may drive scenes by other routines too. All that matters is then that the standard
routines are among its routines and behave there as they do alone.
-/

namespace SceneBench

variable {σ : Type}

/-- Content of this kind is shown as it is: either it is built, or the host keeps files. -/
def Kind.Reliable (host : Host σ) (kind : Kind) : Prop :=
  kind = .fileLoading → ∃ holds, host.Keeps holds

theorem Kind.reliable_disk (kind : Kind) : kind.Reliable Disk.host :=
  fun _ => ⟨Disk.Holds, Disk.keeps⟩

/-! ## Turns -/

namespace StandardRoutine

theorem eq_of_prepare {r : StandardRoutine} {id : SceneId} {state : UInt32}
    {boxes shown : List BoxRecord} {host : Host σ} {w : World σ}
    (prepared : ((r.prepare id state boxes).run host w).1 = .ok shown)
    (reliable : r.kind.Reliable host) : shown = boxes := by
  by_cases file : r.kind = .fileLoading
  · obtain ⟨holds, keeps⟩ := reliable file
    match r, file with
    | fileLoading last path, _ =>
        exact (keeps.readBack (run_throughFile_eq_ok_iff.mp ⟨prepared, rfl⟩)).2
  · have built := (r.run_prepare id state boxes host w).1 file
    exact Except.ok.inj (prepared.symm.trans built)

theorem enterJobs_of_built {r : StandardRoutine} (built : r.kind ≠ .fileLoading)
    (state : UInt32) : r.enterJobs state = [] := by
  rw [enterJobs]
  cases r.kind.content state with
  | none => rfl
  | some boxes =>
      cases r with
      | fileLoading => exact absurd rfl built
      | boxGrid | walls | fractal => rfl

/-- A turn leaves everything as it was, or shows some boxes in the new state. -/
theorem enter_cases (r : StandardRoutine) (scene : Scene) (state : UInt32) (host : Host σ)
    (w : World σ) :
    let turn := ((r.enter scene state).run host w).1
    (∃ e, turn = ⟨.error e, r, []⟩) ∨
      ∃ boxes shown, r.kind.content state = some boxes ∧
        turn = ⟨.ok (), r.withState state, Edit.present shown⟩ ∧
        (r.kind.Reliable host → shown = boxes) := by
  cases known : r.kind.content state with
  | none =>
      rw [enter_of_unknown known]
      exact .inl ⟨_, rfl⟩
  | some boxes =>
      rw [run_enter_of_known known]
      dsimp only
      cases prepared : ((r.prepare scene.id state boxes).run host w).1 with
      | error e => exact .inl ⟨e, rfl⟩
      | ok shown =>
          refine .inr ⟨boxes, shown, rfl, rfl, fun reliable => ?_⟩
          exact eq_of_prepare prepared reliable

/-- Content that is built needs nothing of the host, so any known state is entered. -/
theorem enter_of_built {r : StandardRoutine} (built : r.kind ≠ .fileLoading) {state : UInt32}
    {boxes : List BoxRecord} (known : r.kind.content state = some boxes) (scene : Scene)
    (host : Host σ) (w : World σ) : ((r.enter scene state).run host w).1.result = .ok () := by
  rw [run_enter_of_known known]
  dsimp only
  rw [(r.run_prepare scene.id state boxes host w).1 built]

/-- A routine that begins has failed, or shows some boxes in its first state. -/
theorem begin_cases (r : StandardRoutine) (camera : Camera) (scene : Scene) (host : Host σ)
    (w : World σ) :
    let begun := ((r.begin camera scene).run host w).1
    (∃ e, begun.1 = .error e) ∨
      ∃ boxes shown, r.kind.content r.state = some boxes ∧
        begun = (.ok r, .setCamera camera :: Edit.present shown) ∧
        (r.kind.Reliable host → shown = boxes) := by
  simp only [begin, Action.run_bind, Action.run_pure]
  rcases r.enter_cases scene r.state host w with
    ⟨e, failed⟩ | ⟨boxes, shown, known, entered, same⟩
  · rw [failed]
    exact .inl ⟨e, rfl⟩
  · rw [entered]
    exact .inr ⟨boxes, shown, known, by rw [withState_state]; rfl, same⟩

end StandardRoutine

/-! ## Set-ups -/

namespace SceneRequest

/-- A set-up fails for want of a directory, or else begins. -/
theorem run_setup_cases (request : SceneRequest) (storage : StorageSettings) (scene : Scene)
    (host : Host σ) (w : World σ) :
    (∃ e, ((request.setup storage scene).run host w).1.1 = .error e) ∨
      ∃ w', (request.setup storage scene).run host w =
        (((Placed.mk request scene.id).routine storage).begin request.viewpoint scene).run
          host w' := by
  obtain ⟨kind, state, camera, chosen, settings⟩ := request
  cases kind with
  | boxGrid => exact .inr ⟨w, rfl⟩
  | walls => exact .inr ⟨w, rfl⟩
  | fractal => exact .inr ⟨w, rfl⟩
  | fileLoading =>
      simp only [setup, StandardRoutine.setupFileLoading, Action.run_bind]
      generalize (Files.createDirectories storage.sceneDirectory).run host w = made
      obtain ⟨answer, w'⟩ := made
      cases answer with
      | error e => exact .inl ⟨_, rfl⟩
      | ok done => exact .inr ⟨w', rfl⟩

/-- A set-up that does not fail shows some boxes in the state that was asked for. -/
theorem setup_cases (request : SceneRequest) (storage : StorageSettings) (scene : Scene)
    (host : Host σ) (w : World σ) :
    let built := ((request.setup storage scene).run host w).1
    (∃ e, built.1 = .error e) ∨
      ∃ (r : StandardRoutine) (boxes shown : List BoxRecord),
        r.kind = request.kind ∧ r.state = request.state ∧
        request.kind.content request.state = some boxes ∧
        built = (.ok r, .setCamera request.viewpoint :: Edit.present shown) ∧
        (request.kind.Reliable host → shown = boxes) := by
  dsimp only
  rcases request.run_setup_cases storage scene host w with failed | ⟨w', run⟩
  · exact .inl failed
  · let p : Placed := ⟨request, scene.id⟩
    have begun := (p.routine storage).begin_cases request.viewpoint scene host w'
    rw [p.kind_routine, p.state_routine] at begun
    rw [run]
    rcases begun with failed | ⟨boxes, shown, known, began, same⟩
    · exact .inl failed
    · exact .inr ⟨_, boxes, shown, p.kind_routine storage, p.state_routine storage, known, began,
        same⟩

/-- Where content is built, the set-up comes off in any known state. -/
theorem setup_of_built {request : SceneRequest} (built : request.kind ≠ .fileLoading)
    {boxes : List BoxRecord} (known : request.kind.content request.state = some boxes)
    (storage : StorageSettings) (scene : Scene) (host : Host σ) (w : World σ) :
    ∃ r, ((request.setup storage scene).run host w).1.1 = .ok r := by
  let p : Placed := ⟨request, scene.id⟩
  have directory : p.directoryJobs storage = [] := by
    rw [Placed.directoryJobs]
    split
    · next file => exact absurd file built
    all_goals rfl
  have served : host.DoesAll w.state (p.jobs storage) := by
    rw [← p.kind_routine storage] at built
    rw [Placed.jobs, directory, StandardRoutine.enterJobs_of_built built]
    trivial
  exact ⟨_, congrArg Prod.fst (p.run_setup_of_served known rfl served).1⟩

end SceneRequest

/-! ## Other routines beside them -/

/-- Going on with nothing changes nothing. -/
theorem Action.bind_done {α : Type} (a : Action α) : a >>= pure = a := by
  show a.andThen done = a
  induction a with
  | done value => rfl
  | note notice next ih => exact congrArg _ ih
  | inspect path next ih => exact congrArg _ (funext ih)
  | makeDirectory path next ih => exact congrArg _ (funext ih)
  | removeTree path next ih => exact congrArg _ (funext ih)
  | replaceFile path content next ih => exact congrArg _ (funext ih)
  | openFile path next ih => exact congrArg _ (funext ih)
  | currentDirectory next ih => exact congrArg _ (funext ih)
  | changeDirectory path next ih => exact congrArg _ (funext ih)

/-- The standard routines are among the routines `ρ`, and behave there as they do alone. -/
structure StandardAmong (ρ : Type) [Routine ρ] where
  embed : StandardRoutine → ρ
  kind_embed : ∀ r, Routine.kind (embed r) = r.kind
  state_embed : ∀ r, Routine.state (embed r) = r.state
  enter_embed : ∀ r scene state, Routine.enter (embed r) scene state = do
    let turn ← r.enter scene state
    return ⟨turn.result, embed turn.routine, turn.edits⟩

namespace StandardAmong

variable {ρ : Type} [Routine ρ]

/-- There may be no other routines. -/
def alone : StandardAmong StandardRoutine where
  embed := id
  kind_embed _ := rfl
  state_embed _ := rfl
  enter_embed r scene state := (r.enter scene state).bind_done.symm

/-- The set-up of a request among other routines. -/
def setup (among : StandardAmong ρ) (storage : StorageSettings) (request : SceneRequest) :
    Setup ρ := fun scene => do
  let (result, edits) ← request.setup storage scene
  return (result.map among.embed, edits)

theorem setup_alone (storage : StorageSettings) (request : SceneRequest) :
    alone.setup storage request = request.setup storage := by
  have same (built : Except SceneError StandardRoutine × List Edit) :
      (built.1.map alone.embed, built.2) = built := by
    obtain ⟨result, edits⟩ := built
    cases result <;> rfl
  funext scene
  show (request.setup storage scene >>= fun built => pure (built.1.map alone.embed, built.2)) = _
  simp only [same]
  exact Action.bind_done _

end StandardAmong

end SceneBench
