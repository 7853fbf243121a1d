import SceneBench.Proofs.Plan.Creating
import SceneBench.Proofs.Storage.Carrying
import SceneBench.Proofs.Storage.Joining

/-!
# What a plan writes

To carry out a plan is to look, to make sure of the directory of its scenes, and to write the
content files of scenes there. Routines keep their files, so this holds of transitions as it does of
creations, and nothing else is ever asked of the operating system. The file of a summary is none of
those files, by its name.
-/

namespace SceneBench

variable {π : Type} [Producer π] {storage : StorageSettings} {r : SceneRegistry π}

/-- To look, to make the directory of content files or one on the way to it, or to write a content
file. -/
def Question.OfContent (storage : StorageSettings) : Question → Prop
  | .inspect _ | .openFile _ => True
  | .makeDirectory p => p ∈ storage.sceneDirectory :: storage.sceneDirectory.parents
  | .replaceFile file _ => ∃ id, file = StandardRoutine.contentFile storage id
  | _ => False

theorem Question.IsLook.ofContent {q : Question} (look : q.IsLook) : q.OfContent storage := by
  cases q <;> trivial

/-! ## Routines -/

namespace StandardRoutine

/-- If the routine has a file, it is a content file. -/
def Stores (storage : StorageSettings) : StandardRoutine → Prop
  | fileLoading _ file => ∃ id, file = contentFile storage id
  | _ => True

theorem Stores.withState {routine : StandardRoutine} (stores : routine.Stores storage)
    (state : UInt32) : (routine.withState state).Stores storage := by
  cases routine <;> exact stores

theorem asks_throughFile (id : SceneId) {file : Path} (stores : ∃ id, file = contentFile storage id)
    (boxes : List BoxRecord) :
    (throughFile id file boxes).OnlyAsks (Question.OfContent storage) := by
  have written : (Files.writeBytes file (encodeRecords boxes)).OnlyAsks
      (Question.OfContent storage) := by
    refine ⟨stores, fun answer => ?_⟩
    rcases answer with (e | e) | done <;> trivial
  have read : (Files.readBytes file).OnlyAsks (Question.OfContent storage) :=
    (Files.asks_readBytes file).mono (fun _ look => look.ofContent) fun _ _ => trivial
  have loaded : (ContentFile.load file).OnlyAsks (Question.OfContent storage) := by
    apply read.bind
    intro reading _
    cases reading with
    | error e => trivial
    | ok reading =>
        show (ContentFile.decode file reading).OnlyAsks _
        rw [ContentFile.decode]
        split
        · exact Action.onlyAsks_pure _
        · exact (Action.onlyAsks_say _).bind fun _ _ => Action.onlyAsks_pure _
  have saved : (ContentFile.save file boxes).OnlyAsks (Question.OfContent storage) :=
    written.bind fun _ _ => Action.onlyAsks_pure _
  apply saved.bind
  intro saved _
  cases saved with
  | error e => trivial
  | ok done =>
      apply loaded.bind
      intro loaded _
      cases loaded <;> trivial

theorem asks_prepare {routine : StandardRoutine} (stores : routine.Stores storage) (id : SceneId)
    (state : UInt32) (boxes : List BoxRecord) :
    (routine.prepare id state boxes).OnlyAsks (Question.OfContent storage) := by
  cases routine with
  | fileLoading last file => exact asks_throughFile id stores boxes
  | boxGrid | walls | fractal =>
      exact (Action.onlyAsks_say _).bind fun _ _ => Action.onlyAsks_pure _

/-- A routine that enters a state keeps its file. -/
theorem asks_enter {routine : StandardRoutine} (stores : routine.Stores storage) (scene : Scene)
    (state : UInt32) :
    (routine.enter scene state).Asks (Question.OfContent storage)
      fun turn => turn.routine.Stores storage := by
  rw [enter]
  split
  · exact stores
  · next boxes known =>
    apply (asks_prepare stores scene.id state boxes).bind
    intro prepared _
    cases prepared with
    | error e => exact stores
    | ok shown => exact stores.withState state

theorem asks_begin {routine : StandardRoutine} (stores : routine.Stores storage) (camera : Camera)
    (scene : Scene) :
    (routine.begin camera scene).Asks (Question.OfContent storage)
      fun out => ∀ routine, out.1 = .ok routine → routine.Stores storage := by
  apply (asks_enter stores scene routine.state).bind
  intro turn kept
  refine Action.asks_pure fun begun ok => ?_
  cases result : turn.result with
  | error e =>
      rw [result] at ok
      cases ok
  | ok done =>
      rw [result] at ok
      cases ok
      exact kept

end StandardRoutine

theorem SceneRequest.asks_setup (request : SceneRequest) (scene : Scene) :
    (request.setup storage scene).Asks (Question.OfContent storage)
      fun out => ∀ routine, out.1 = .ok routine → routine.Stores storage := by
  obtain ⟨kind, state, camera, chosen, settings⟩ := request
  cases kind with
  | boxGrid =>
      have stores : (StandardRoutine.boxGrid state).Stores storage := trivial
      exact StandardRoutine.asks_begin stores _ scene
  | walls =>
      have stores : (StandardRoutine.walls state).Stores storage := trivial
      exact StandardRoutine.asks_begin stores _ scene
  | fractal =>
      have stores : (StandardRoutine.fractal state).Stores storage := trivial
      exact StandardRoutine.asks_begin stores _ scene
  | fileLoading =>
      have made : (Files.createDirectories storage.sceneDirectory).OnlyAsks
          (Question.OfContent storage) := by
        apply (Files.asks_createDirectories storage.sceneDirectory).mono _ fun _ _ => trivial
        intro q making
        cases q with
        | inspect => trivial
        | makeDirectory p => exact making
        | removeTree | replaceFile | openFile | currentDirectory | changeDirectory =>
            exact False.elim making
      apply made.bind
      intro answer _
      cases answer with
      | error e => exact fun routine ok => nomatch ok
      | ok done =>
          have stores : (StandardRoutine.fileLoading state
              (StandardRoutine.contentFile storage scene.id)).Stores storage := ⟨scene.id, rfl⟩
          exact StandardRoutine.asks_begin stores _ scene

/-! ## Registries -/

namespace Registry

/-- All routines of a registry keep their content in content files. -/
def Stores (storage : StorageSettings) (r : SceneRegistry π) : Prop :=
  ∀ entry ∈ r.pairs, entry.2.routine.Stores storage

omit [Producer π] in
theorem Stores.congr (stores : Stores storage r) {r' : SceneRegistry π}
    (same : r'.pairs = r.pairs) :
    Stores storage r' := by
  rw [Stores, same]
  exact stores

omit [Producer π] in
theorem Stores.put (stores : Stores storage r) {pair : Pair StandardRoutine}
    (kept : pair.routine.Stores storage) (id : SceneId) : Stores storage (r.put id pair) := by
  rw [Registry.put]
  split
  · intro entry held
    obtain ⟨before, held', rfl⟩ := List.mem_map.mp held
    split
    · exact kept
    · exact stores before held'
  · intro entry held
    rcases List.mem_append.mp held with before | here
    · exact stores entry before
    · rw [List.mem_singleton.mp here]
      exact kept

/-- What is asked with a scene on loan is what its use asks. -/
theorem asks_lend {α : Type} {P : Question → Prop} (Q : α → Prop) (r : SceneRegistry π)
    (h : Handle) {missing : α} (absent : Q missing) {use : Scene → Action (α × List Edit)}
    (asks : ∀ scene, (use scene).Asks P fun out => Q out.1) :
    (r.lend h missing use).Asks P fun out => Q out.1 ∧ out.2.pairs = r.pairs := by
  rw [lend]
  split
  · exact ⟨absent, rfl⟩
  · next scene producer borrowed =>
    apply (asks scene).bind
    intro out comes
    exact ⟨comes, rfl⟩

theorem asks_create (stores : Stores storage r) (chosen : Option SceneId)
    (settings : SceneSettings) {setup : Setup StandardRoutine}
    (asks : ∀ scene, (setup scene).Asks (Question.OfContent storage)
      fun out => ∀ routine, out.1 = .ok routine → routine.Stores storage) :
    (r.create chosen settings setup).Asks (Question.OfContent storage)
      fun out => Stores storage out.2 := by
  have after : (r.chooseId chosen).2.pairs = r.pairs := r.pairs_chooseId chosen
  rw [create]
  generalize r.chooseId chosen = choice at after ⊢
  obtain ⟨id, r'⟩ := choice
  dsimp only at after ⊢
  split
  · exact Action.asks_pure (stores.congr after)
  · split
    · exact Action.asks_pure (stores.congr after)
    · next handle producer asked =>
      apply (asks_lend (fun result : Except SceneError StandardRoutine =>
        ∀ routine, result = .ok routine → routine.Stores storage) { r' with producer } handle
        (by intro routine ok; cases ok) asks).bind
      rintro ⟨result, r''⟩ ⟨kept, same⟩
      have stores' : Stores storage r'' := stores.congr (same.trans after)
      cases result with
      | error e => exact Action.asks_pure (stores'.congr rfl)
      | ok routine =>
          exact (Action.onlyAsks_say _).bind fun _ _ =>
            Action.asks_pure (stores'.put (kept routine rfl) id)

theorem asks_setState (stores : Stores storage r) (id : SceneId) (kind : Kind) (state : UInt32) :
    (r.setState id kind state).Asks (Question.OfContent storage)
      fun out => Stores storage out.2 := by
  rw [setState]
  split
  · exact stores
  · next pair found =>
    have kept := stores _ (Table.mem_of_lookup found)
    dsimp only
    split
    · exact stores
    · apply (asks_lend (fun turn : Turn StandardRoutine => turn.routine.Stores storage) r
        pair.handle kept fun scene => (StandardRoutine.asks_enter kept scene state).bind
          fun turn kept => Action.asks_pure kept).bind
      rintro ⟨turn, r'⟩ ⟨kept', same⟩
      have final : Stores storage (r'.put id { pair with routine := turn.routine }) :=
        (stores.congr same).put kept' id
      dsimp only
      split
      · exact (Action.onlyAsks_say _).bind fun _ _ => Action.asks_pure final
      · exact Action.asks_pure final

/-- To destroy scenes is to ask nothing. -/
theorem asks_destroyEach {P : Question → Prop} (r : SceneRegistry π) (ids : List SceneId) :
    (r.destroyEach ids).OnlyAsks P := by
  induction ids generalizing r with
  | nil => trivial
  | cons id rest ih =>
      have one : (r.destroy id).OnlyAsks P := by
        rw [destroy]
        split
        · trivial
        · dsimp only
          split <;> trivial
      exact one.bind fun out _ => ih out.2

end Registry

/-! ## Plans -/

namespace Plan

variable {r : SceneRegistry LocalProducer}

theorem asks_createScene (stores : Registry.Stores storage r) (request : SceneRequest) :
    (createScene storage request r).Asks (Question.OfContent storage)
      fun out => Registry.Stores storage out.2 := by
  by_cases missing : request.kind = .fileLoading ∧ request.id = none
  · obtain ⟨kind, state, camera, chosen, settings⟩ := request
    obtain ⟨rfl, rfl⟩ := missing
    exact stores
  · rw [createScene_eq storage missing]
    apply (Registry.asks_create stores request.id request.handed request.asks_setup).bind
    intro out kept
    exact Action.asks_pure kept

theorem asks_createScenes (stores : Registry.Stores storage r) (requests : List SceneRequest) :
    (createScenes storage requests r).Asks (Question.OfContent storage)
      fun out => Registry.Stores storage out.2 := by
  induction requests generalizing r with
  | nil => exact stores
  | cons request rest ih =>
      apply (asks_createScene stores request).bind
      rintro ⟨result, r'⟩ kept
      cases result with
      | error e => exact kept
      | ok id => exact (ih kept).bind fun out kept' => Action.asks_pure kept'

theorem asks_makeTransitions (stores : Registry.Stores storage r) (transitions : List Transition) :
    (makeTransitions transitions r).Asks (Question.OfContent storage)
      fun out => Registry.Stores storage out.2 := by
  induction transitions generalizing r with
  | nil => exact stores
  | cons t rest ih =>
      apply (Registry.asks_setState stores t.scene t.kind t.state).bind
      rintro ⟨result, r'⟩ kept
      cases result with
      | error e => exact kept
      | ok done => exact ih kept

/-- To carry out a plan is to write its content files and nothing else. -/
theorem asks_run (plan : Plan) : plan.run.OnlyAsks (Question.OfContent plan.storage) := by
  have none' : Registry.Stores plan.storage ({ producer := {} } : SceneRegistry LocalProducer) :=
    fun entry held => nomatch held
  have driven : (plan.drive ({ producer := {} } : SceneRegistry LocalProducer)).OnlyAsks
      (Question.OfContent plan.storage) := by
    apply (asks_createScenes none' plan.scenes).bind
    rintro ⟨result, r⟩ kept
    cases result with
    | error e => trivial
    | ok ids =>
        apply (asks_makeTransitions kept plan.transitions).bind
        rintro ⟨result, r'⟩ -
        cases result <;> trivial
  apply driven.bind
  rintro ⟨outcome, r⟩ -
  exact (Registry.asks_destroyEach r _).bind fun _ _ => Action.onlyAsks_pure _

end Plan

/-! ## Names of files -/

/-- No content file has the path of the file of a summary. -/
theorem Summary.file_ne_contentFile (s : Summary) (directory : Path) (storage : StorageSettings)
    (id : SceneId) : s.file directory ≠ StandardRoutine.contentFile storage id := by
  intro same
  obtain ⟨before, summary⟩ := Path.exists_toList_join directory ⟨s!"scene_{s.id}.json"⟩
  obtain ⟨before', content⟩ := Path.exists_toList_join storage.sceneDirectory ⟨s!"scene_{id}.bin"⟩
  have ends : before ++ (toString "scene_" ++ toString s.id).toList ++ ".js".toList ++ ['o', 'n'] =
      before' ++ (toString "scene_" ++ toString id).toList ++ ".b".toList ++ ['i', 'n'] := by
    have json : (s!"scene_{s.id}.json").toList =
        (toString "scene_" ++ toString s.id).toList ++ (".js".toList ++ ['o', 'n']) :=
      String.toList_append
    have bin : (s!"scene_{id}.bin").toList =
        (toString "scene_" ++ toString id).toList ++ (".b".toList ++ ['i', 'n']) :=
      String.toList_append
    have texts := congrArg (fun p : Path => p.text.toList) same
    dsimp only [Summary.file, StandardRoutine.contentFile] at texts
    rw [summary, content, json, bin] at texts
    simpa only [List.append_assoc] using texts
  have last := (List.append_inj' ends rfl).2
  cases last

end SceneBench
