import SceneBench.Proofs.Record.RoundTrip
import SceneBench.Proofs.Routine.Entering
import SceneBench.Proofs.Storage.Jobs

/-!
# Routines that are served

Where the host does the jobs of a routine, entering a state comes to nothing but the state: a state
that the kind has is entered with the content of that state, through a file or not, and any other
is refused. The same goes for setting a routine up, which enters its first state.
-/

namespace SceneBench

variable {σ : Type} {host : Host σ} {w : World σ}

namespace ContentFile

variable {file : Path} {boxes : List BoxRecord}

theorem run_save_of_ok
    (stored : ((Files.writeBytes file (encodeRecords boxes)).run host w).1 = .ok ()) :
    (save file boxes).run host w =
      (.ok (), ((Files.writeBytes file (encodeRecords boxes)).run host w).2) := by
  simp only [save, Action.run_bind, Action.run_pure, stored]
  rfl

/-- A complete reading of what was saved stands for it. -/
theorem run_load_of_complete
    (read : ((Files.readBytes file).run host w).1 = .ok ⟨encodeRecords boxes, .complete⟩) :
    (load file).run host w = (.ok boxes, ((Files.readBytes file).run host w).2) := by
  have content : decode file ⟨encodeRecords boxes, .complete⟩ = pure (.ok boxes) := by
    rw [decode, if_pos (by rfl), decodeRecords?_encodeRecords]
  simp only [load, Action.run_bind, read, content, Action.run_pure]

end ContentFile

namespace StandardRoutine

variable {r : StandardRoutine} {boxes : List BoxRecord} {state : UInt32}

/-- Content that comes back from its file is what was saved there. -/
theorem run_throughFile {file : Path} (id : SceneId)
    (done : (StorageJob.content file boxes).DoneBy host w.state) :
    let shown := (throughFile id file boxes).run host w
    shown.1 = .ok boxes ∧
      shown.2.state = (StorageJob.content file boxes).after host w.state := by
  obtain ⟨stored, back, state⟩ := StorageJob.run_content done
  simp only [throughFile, Action.run_bind, ContentFile.run_save_of_ok stored,
    ContentFile.run_load_of_complete back]
  exact ⟨rfl, state⟩

/-- What a routine needs to show content. -/
def jobs (r : StandardRoutine) (boxes : List BoxRecord) : List StorageJob :=
  match r with
  | fileLoading _ file => [.content file boxes]
  | boxGrid _ | walls _ | fractal _ => []

/-- What a routine needs to enter a state. -/
def enterJobs (r : StandardRoutine) (state : UInt32) : List StorageJob :=
  (r.kind.content state).elim [] r.jobs

/-- A routine keeps its file whatever state it is in. -/
@[simp] theorem jobs_withState (r : StandardRoutine) (state : UInt32) :
    (r.withState state).jobs = r.jobs := by
  cases r <;> rfl

theorem run_prepare_of_served (id : SceneId) (state : UInt32)
    (served : host.DoesAll w.state (r.jobs boxes)) :
    let prepared := (r.prepare id state boxes).run host w
    prepared.1 = .ok boxes ∧ prepared.2.state = host.afterAll w.state (r.jobs boxes) := by
  cases r with
  | fileLoading last file => exact run_throughFile id served.1
  | boxGrid last => exact ⟨rfl, rfl⟩
  | walls last => exact ⟨rfl, rfl⟩
  | fractal last => exact ⟨rfl, rfl⟩

/-- A state that the kind has is entered with its content. -/
theorem run_enter_of_served (known : r.kind.content state = some boxes) (scene : Scene)
    (served : host.DoesAll w.state (r.enterJobs state)) :
    let entered := (r.enter scene state).run host w
    entered.1 = ⟨.ok (), r.withState state, Edit.present boxes⟩ ∧
      entered.2.state = host.afterAll w.state (r.enterJobs state) := by
  rw [enterJobs, known] at served ⊢
  obtain ⟨shown, after⟩ := run_prepare_of_served scene.id state served
  rw [run_enter_of_known known]
  simp only [shown, true_and]
  exact after

/-- The camera is placed whatever comes of the first state. -/
theorem run_begin_of_served (known : r.kind.content r.state = some boxes) (camera : Camera)
    (scene : Scene) (served : host.DoesAll w.state (r.enterJobs r.state)) :
    let begun := (r.begin camera scene).run host w
    begun.1 = (.ok r, .setCamera camera :: Edit.present boxes) ∧
      begun.2.state = host.afterAll w.state (r.enterJobs r.state) := by
  obtain ⟨entered, after⟩ := run_enter_of_served known scene served
  simp only [begin, Action.run_bind, Action.run_pure, entered, withState_state]
  exact ⟨rfl, after⟩

theorem begin_of_unknown (unknown : r.kind.content r.state = none) (camera : Camera)
    (scene : Scene) :
    r.begin camera scene =
      pure (.error (.unknownState r.kind r.state), [.setCamera camera]) := by
  rw [begin, enter_of_unknown unknown]
  rfl

end StandardRoutine

end SceneBench
