import SceneBench.Routine.Standard

/-!
# Entering a state

Entering a state comes down to one of three turns. An unknown state is refused before anything else.
Otherwise the content is prepared, which can only fail for content that goes through a file, and
only then is the scene touched: it is given its new content and one flush, and the routine the new
state. A turn that failed leaves both as they were.
-/

namespace SceneBench

variable {σ : Type}

namespace SceneError

/-- The failures of content that goes through a file. -/
def OfContent (e : SceneError) : Prop :=
  (∃ cause, e = .file cause) ∨ ∃ file length, e = .corruptContent file length

end SceneError

namespace ContentFile

theorem save_error {file : Path} {boxes : List BoxRecord} {host : Host σ} {w : World σ}
    {e : SceneError} (failed : ((save file boxes).run host w).1 = .error e) : e.OfContent := by
  simp only [save, Action.run_bind, Action.run_pure] at failed
  cases written : ((Files.writeBytes file (encodeRecords boxes)).run host w).1 with
  | error cause =>
      rw [written] at failed
      exact .inl ⟨cause, (Except.error.inj failed).symm⟩
  | ok done =>
      rw [written] at failed
      cases failed

theorem decode_error {file : Path} {reading : Reading} {host : Host σ} {w : World σ}
    {e : SceneError} (failed : ((decode file reading).run host w).1 = .error e) :
    e.OfContent := by
  unfold decode at failed
  split at failed
  · cases failed
  · exact .inr ⟨file, reading.bytes.length, (Except.error.inj failed).symm⟩

theorem load_error {file : Path} {host : Host σ} {w : World σ} {e : SceneError}
    (failed : ((load file).run host w).1 = .error e) : e.OfContent := by
  simp only [load, Action.run_bind] at failed
  cases read : ((Files.readBytes file).run host w).1 with
  | error cause =>
      rw [read] at failed
      exact .inl ⟨cause, (Except.error.inj failed).symm⟩
  | ok reading =>
      rw [read] at failed
      exact decode_error failed

end ContentFile

namespace StandardRoutine

@[simp] theorem kind_withState (r : StandardRoutine) (state : UInt32) :
    (r.withState state).kind = r.kind := by cases r <;> rfl

@[simp] theorem state_withState (r : StandardRoutine) (state : UInt32) :
    (r.withState state).state = state := by cases r <;> rfl

@[simp] theorem withState_state (r : StandardRoutine) : r.withState r.state = r := by
  cases r <;> rfl

@[simp] theorem withState_withState (r : StandardRoutine) (state state' : UInt32) :
    (r.withState state).withState state' = r.withState state' := by cases r <;> rfl

theorem throughFile_error {id : SceneId} {file : Path} {boxes : List BoxRecord} {host : Host σ}
    {w : World σ} {e : SceneError}
    (failed : ((throughFile id file boxes).run host w).1 = .error e) : e.OfContent := by
  simp only [throughFile, Action.run_bind] at failed
  cases saved : ((ContentFile.save file boxes).run host w).1 with
  | error e' =>
      rw [saved] at failed
      obtain rfl := Except.error.inj failed
      exact ContentFile.save_error saved
  | ok done =>
      rw [saved] at failed
      simp only [Action.run_bind] at failed
      generalize ((ContentFile.save file boxes).run host w).2 = w' at failed
      cases loaded : ((ContentFile.load file).run host w').1 with
      | error e' =>
          rw [loaded] at failed
          obtain rfl := Except.error.inj failed
          exact ContentFile.load_error loaded
      | ok shown =>
          rw [loaded] at failed
          cases failed

/-- Built content is shown as it is, and content behind a file may fail to come back. -/
theorem run_prepare (r : StandardRoutine) (id : SceneId) (state : UInt32)
    (boxes : List BoxRecord) (host : Host σ) (w : World σ) :
    let prepared := ((r.prepare id state boxes).run host w).1
    (r.kind ≠ .fileLoading → prepared = .ok boxes) ∧
      ∀ e, prepared = .error e → e.OfContent := by
  cases r with
  | fileLoading last file =>
      exact ⟨fun other => absurd rfl other, fun e failed => throughFile_error failed⟩
  | boxGrid last => exact ⟨fun _ => rfl, fun e failed => nomatch failed⟩
  | walls last => exact ⟨fun _ => rfl, fun e failed => nomatch failed⟩
  | fractal last => exact ⟨fun _ => rfl, fun e failed => nomatch failed⟩

/-- A state that the kind does not have is refused without asking anything. -/
theorem enter_of_unknown {r : StandardRoutine} {state : UInt32}
    (unknown : r.kind.content state = none) (scene : Scene) :
    r.enter scene state = pure ⟨.error (.unknownState r.kind state), r, []⟩ := by
  rw [enter, unknown]

/-- In a state that the kind has, the turn depends on whether its content could be prepared. -/
theorem run_enter_of_known {r : StandardRoutine} {state : UInt32} {boxes : List BoxRecord}
    (known : r.kind.content state = some boxes) (scene : Scene) (host : Host σ) (w : World σ) :
    (r.enter scene state).run host w =
      let prepared := (r.prepare scene.id state boxes).run host w
      (match prepared.1 with
        | .error e => ⟨.error e, r, []⟩
        | .ok shown => ⟨.ok (), r.withState state, Edit.present shown⟩, prepared.2) := by
  rw [enter, known]
  simp only [Action.run_bind]
  generalize (r.prepare scene.id state boxes).run host w = prepared
  obtain ⟨result, after⟩ := prepared
  cases result with
  | error e => rfl
  | ok shown => rfl

end StandardRoutine

end SceneBench
