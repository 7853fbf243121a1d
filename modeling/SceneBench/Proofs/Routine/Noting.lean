import SceneBench.Proofs.Plan.Creating

/-!
# What is noted on the way

An action may note things wherever it is asked to go. What it never notes can be read off its tree,
whatever the answers are. Files and routines have their own things to tell; that a scene was
created, destroyed or not known any more is told by the registry alone.
-/

namespace SceneBench

variable {σ α β : Type} {P : Notice → Prop}

/-- All that an action may note is of some sort. -/
def Action.Notes (P : Notice → Prop) : Action α → Prop
  | done _ => True
  | note notice next => P notice ∧ next.Notes P
  | inspect _ next => ∀ answer, (next answer).Notes P
  | makeDirectory _ next => ∀ answer, (next answer).Notes P
  | removeTree _ next => ∀ answer, (next answer).Notes P
  | replaceFile _ _ next => ∀ answer, (next answer).Notes P
  | openFile _ next => ∀ answer, (next answer).Notes P
  | currentDirectory next => ∀ answer, (next answer).Notes P
  | changeDirectory _ next => ∀ answer, (next answer).Notes P

namespace Action

@[simp] theorem notes_pure (value : α) : (pure value : Action α).Notes P := trivial

theorem notes_sayAll {notices : List Notice} (allowed : ∀ notice ∈ notices, P notice) :
    (sayAll notices).Notes P := by
  induction notices with
  | nil => trivial
  | cons notice rest ih =>
      rw [List.forall_mem_cons] at allowed
      exact ⟨allowed.1, ih allowed.2⟩

theorem Notes.bind {a : Action α} {f : α → Action β} (first : a.Notes P)
    (second : ∀ value, (f value).Notes P) : (a >>= f).Notes P := by
  show (a.andThen f).Notes P
  induction a with
  | done value => exact second value
  | note notice next ih => exact ⟨first.1, ih first.2⟩
  | inspect path next ih => exact fun answer => ih answer (first answer)
  | makeDirectory path next ih => exact fun answer => ih answer (first answer)
  | removeTree path next ih => exact fun answer => ih answer (first answer)
  | replaceFile path content next ih => exact fun answer => ih answer (first answer)
  | openFile path next ih => exact fun answer => ih answer (first answer)
  | currentDirectory next ih => exact fun answer => ih answer (first answer)
  | changeDirectory path next ih => exact fun answer => ih answer (first answer)

/-- The log grows by what an action may note. -/
theorem Notes.run {a : Action α} (notes : a.Notes P) (host : Host σ) (w : World σ) :
    ∃ notices, (a.run host w).2.log = w.log ++ notices ∧ ∀ notice ∈ notices, P notice := by
  induction a generalizing w with
  | done value => exact ⟨[], (List.append_nil _).symm, by simp⟩
  | note notice next ih =>
      obtain ⟨notices, log, all⟩ := ih notes.2 { w with log := w.log ++ [notice] }
      refine ⟨notice :: notices, ?_, List.forall_mem_cons.mpr ⟨notes.1, all⟩⟩
      rw [List.append_cons]
      exact log
  | inspect path next ih => exact ih _ (notes _) _
  | makeDirectory path next ih => exact ih _ (notes _) _
  | removeTree path next ih => exact ih _ (notes _) _
  | replaceFile path content next ih => exact ih _ (notes _) _
  | openFile path next ih => exact ih _ (notes _) _
  | currentDirectory next ih => exact ih _ (notes _) _
  | changeDirectory path next ih => exact ih _ (notes _) _

end Action

/-! ## What files and routines note -/

/-- A notice about a scene as such: that it was created or destroyed, or not known any more. -/
def Notice.isOfLife : Notice → Bool
  | .sceneCreated .. | .sceneDestroyed .. | .producerForgot .. => true
  | _ => false

/-- What was noted about scenes as such. -/
def World.life (w : World σ) : List Notice := w.log.filter Notice.isOfLife

@[simp] theorem World.life_note (w : World σ) (notice : Notice) :
    (w.note notice).life = w.life ++ if notice.isOfLife then [notice] else [] := by
  rw [life, note, List.filter_append, List.filter_singleton, life, Bool.cond_eq_ite]

/-- An action that has nothing to tell of the life of scenes. -/
abbrev Action.Quiet (a : Action α) : Prop := a.Notes fun notice => notice.isOfLife = false

theorem Action.Notes.life_run {a : Action α} (quiet : a.Quiet) (host : Host σ) (w : World σ) :
    (a.run host w).2.life = w.life := by
  obtain ⟨notices, log, others⟩ := quiet.run host w
  have none : notices.filter Notice.isOfLife = [] := by simpa using others
  rw [World.life, log, List.filter_append, none, List.append_nil]
  rfl

theorem Action.quiet_say {notice : Notice} (other : notice.isOfLife = false) : (say notice).Quiet :=
  ⟨other, trivial⟩

namespace Files

theorem quiet_isDirectory (p : Path) : (isDirectory p).Quiet
  | .ok _ => trivial
  | .error _ => trivial

theorem quiet_unlessDirectory (p : Path) (e : OsError) : (unlessDirectory p e).Quiet :=
  (quiet_isDirectory p).bind fun _ => trivial

theorem quiet_ensureDirectory (p : Path) : (ensureDirectory p).Quiet
  | .ok () => trivial
  | .error e => quiet_unlessDirectory p e

theorem quiet_tryDirectory (p : Path) {otherwise : Unit → Action (Except OsError Unit)}
    (quiet : (otherwise ()).Quiet) : (tryDirectory p otherwise).Quiet := by
  unfold tryDirectory
  split
  · exact Action.notes_pure _
  · rintro (e | done)
    · dsimp only
      split
      · exact quiet
      · exact quiet_unlessDirectory p e
    · exact Action.notes_pure _

theorem quiet_makeWithParents (p : Path) (parents : List Path) :
    (makeWithParents p parents).Quiet := by
  induction parents generalizing p with
  | nil => trivial
  | cons parent further ih =>
      apply (quiet_tryDirectory parent (ih parent)).bind
      intro made
      cases made with
      | error e => trivial
      | ok done => exact quiet_ensureDirectory p

theorem quiet_createDirectories (p : Path) : (createDirectories p).Quiet := by
  apply (quiet_tryDirectory p (quiet_makeWithParents p p.parents)).bind
  intro made
  cases made with
  | error e => trivial
  | ok done => exact (quiet_isDirectory p).bind fun _ => trivial

theorem quiet_writeBytes (p : Path) (content : List UInt8) : (writeBytes p content).Quiet
  | .ok () => trivial
  | .error (.opening _) => trivial
  | .error (.writing _) => trivial

theorem quiet_size (p : Path) : (size p).Quiet
  | .ok _ => trivial
  | .error _ => trivial

theorem quiet_readStream (s : Stream) (expected : Nat) : (readStream s expected).Quiet := by
  refine (Action.notes_sayAll fun notice noted => ?_).bind fun _ => trivial
  unfold endNotices at noted
  split at noted <;> simp at noted <;> rw [noted] <;> rfl

theorem quiet_readBytes (p : Path) : (readBytes p).Quiet := by
  apply (quiet_size p).bind
  intro size
  cases size with
  | error e => trivial
  | ok expected =>
      rintro (e | stream)
      · trivial
      · apply (quiet_readStream stream expected).bind
        intro reading
        split
        · exact (Action.quiet_say (by rfl)).bind fun _ => trivial
        · trivial

end Files

namespace ContentFile

theorem quiet_save (file : Path) (boxes : List BoxRecord) : (save file boxes).Quiet :=
  (Files.quiet_writeBytes file _).bind fun _ => trivial

theorem quiet_decode (file : Path) (reading : Reading) : (decode file reading).Quiet := by
  unfold decode
  split
  · trivial
  · exact (Action.quiet_say (by rfl)).bind fun _ => trivial

theorem quiet_load (file : Path) : (load file).Quiet := by
  apply (Files.quiet_readBytes file).bind
  intro read
  cases read with
  | error e => trivial
  | ok reading => exact quiet_decode file reading

end ContentFile

namespace StandardRoutine

theorem quiet_throughFile (id : SceneId) (file : Path) (boxes : List BoxRecord) :
    (throughFile id file boxes).Quiet := by
  apply (ContentFile.quiet_save file boxes).bind
  intro saved
  cases saved with
  | error e => trivial
  | ok done =>
      apply (ContentFile.quiet_load file).bind
      intro loaded
      cases loaded with
      | error e => trivial
      | ok boxes => exact (Action.quiet_say (by rfl)).bind fun _ => trivial

theorem quiet_prepare (r : StandardRoutine) (id : SceneId) (state : UInt32)
    (boxes : List BoxRecord) : (r.prepare id state boxes).Quiet := by
  cases r with
  | fileLoading last file => exact quiet_throughFile id file boxes
  | boxGrid last => exact (Action.quiet_say (by rfl)).bind fun _ => trivial
  | walls last => exact (Action.quiet_say (by rfl)).bind fun _ => trivial
  | fractal last => exact (Action.quiet_say (by rfl)).bind fun _ => trivial

theorem quiet_enter (r : StandardRoutine) (scene : Scene) (state : UInt32) :
    (r.enter scene state).Quiet := by
  unfold enter
  split
  · trivial
  · apply (r.quiet_prepare scene.id state _).bind
    intro prepared
    cases prepared with
    | error e => trivial
    | ok shown => trivial

theorem quiet_begin (r : StandardRoutine) (camera : Camera) (scene : Scene) :
    (r.begin camera scene).Quiet :=
  (r.quiet_enter scene r.state).bind fun _ => trivial

end StandardRoutine

/-- Setting up a routine tells nothing of the life of scenes. -/
theorem SceneRequest.quiet_setup (request : SceneRequest) (storage : StorageSettings)
    (scene : Scene) : (request.setup storage scene).Quiet := by
  obtain ⟨kind, state, camera, chosen, settings⟩ := request
  cases kind with
  | boxGrid => exact StandardRoutine.quiet_begin _ _ scene
  | walls => exact StandardRoutine.quiet_begin _ _ scene
  | fractal => exact StandardRoutine.quiet_begin _ _ scene
  | fileLoading =>
      apply (Files.quiet_createDirectories _).bind
      intro made
      cases made with
      | error e => trivial
      | ok done => exact StandardRoutine.quiet_begin _ _ scene

end SceneBench
