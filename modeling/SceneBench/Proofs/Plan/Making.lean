import SceneBench.Proofs.Routine.Noting
import SceneBench.Proofs.Routine.Showing
import SceneBench.Proofs.Registry.Identities

/-!
# The scenes of a plan, wherever it ends

A plan may end at any creation, at any transition or at a summary, and whatever the operating system
answers. At every step of it the registry holds the scenes that were created so far and no others,
each with the settings and the camera that it began with, and the log has one notice about the life
of each of them.
-/

namespace SceneBench

variable {σ : Type} {r r' : SceneRegistry LocalProducer}

/-! ## One change of state -/

/-- A change of state leaves the registry as it was or moves one scene, and tells nothing of the
life of scenes. -/
theorem Registry.Sound.setState_cases (sound : r.Sound) (id : SceneId) (kind : Kind)
    (state : UInt32) (host : Host σ) (w : World σ) :
    let out := (r.setState id kind state).run host w
    (out.1.2 = r ∨ ∃ boxes, r.Moved out.1.2 id state boxes) ∧ out.2.life = w.life := by
  cases found : r.find? id with
  | none =>
      rw [setState_of_missing found]
      exact ⟨.inl rfl, rfl⟩
  | some pair =>
      by_cases right : Routine.kind pair.routine = kind
      case neg =>
        rw [setState_of_mismatch found right]
        exact ⟨.inl rfl, rfl⟩
      obtain rfl : pair.routine.kind = kind := right
      cases known : pair.routine.kind.content state with
      | none =>
          rw [sound.run_setState_of_unknown found known]
          exact ⟨.inl rfl, rfl⟩
      | some boxes =>
          obtain ⟨s, shown, -, -⟩ := sound.exists_scene found
          have quiet := (pair.routine.quiet_prepare s.id state boxes).life_run host w
          rw [sound.run_setState_of_known found shown known]
          dsimp only
          generalize (pair.routine.prepare s.id state boxes).run host w = prepared at quiet ⊢
          obtain ⟨result, after⟩ := prepared
          cases result with
          | error e => exact ⟨.inl rfl, quiet⟩
          | ok content =>
              refine ⟨.inr ⟨content, moved_moved found shown state content⟩, ?_⟩
              simp [World.life_note, Notice.isOfLife, quiet]

/-! ## Scenes as they were made -/

/-- A request that got its scene, and the identity of the scene. -/
abbrev Made := SceneRequest × SceneId

namespace Made

/-- The notice that a scene was created. -/
def created (m : Made) : Notice := .sceneCreated m.2 m.1.kind m.1.state

/-- The notice that a scene was destroyed. -/
def destroyed (m : Made) : Notice := .sceneDestroyed m.2

end Made

namespace Plan

/-- The registry holds the scenes that were made, and no others, under the identities that were
chosen for them, if any. Their settings and cameras are the ones that they began with, and the log
tells of their creation and of no other event in the life of scenes since some earlier time. -/
structure Holds (earlier : List Notice) (made : List Made) (r : SceneRegistry LocalProducer)
    (w : World σ) : Prop where
  sound : r.Sound
  ids : r.pairs.map Prod.fst = made.map Prod.snd
  chosen : ∀ m ∈ made, ∀ id, m.1.id = some id → m.2 = id
  shown : ∀ m ∈ made, ∃ routine s, r.Shows m.2 routine s ∧ s.settings = m.1.handed ∧
    s.camera = m.1.viewpoint
  told : w.life = earlier ++ made.map Made.created

variable {earlier : List Notice} {made : List Made} {w w' : World σ}

namespace Holds

theorem empty (w : World σ) : Holds w.life [] .empty w where
  sound := Registry.sound_empty
  ids := rfl
  chosen := by simp
  shown := by simp
  told := (List.append_nil _).symm

/-- The counters do not matter. -/
theorem congr (holds : Holds earlier made r w) (sound : r'.Sound) (pairs : r'.pairs = r.pairs)
    (scenes : r'.producer.scenes = r.producer.scenes) (life : w'.life = w.life) :
    Holds earlier made r' w' where
  sound := sound
  ids := by rw [pairs, holds.ids]
  chosen := holds.chosen
  shown m held := by
    obtain ⟨routine, s, ⟨h, found, shown⟩, seen⟩ := holds.shown m held
    refine ⟨routine, s, ⟨h, ?_, ?_⟩, seen⟩
    · rwa [Registry.find?, pairs]
    · rwa [LocalProducer.view, scenes]
  told := life.trans holds.told

theorem size_eq (holds : Holds earlier made r w) : r.size = made.length := by
  have := congrArg List.length holds.ids
  rwa [List.length_map, List.length_map] at this

/-- A change of state keeps all of it, however it ends. -/
theorem setState (holds : Holds earlier made r w) (host : Host σ) (id : SceneId) (kind : Kind)
    (state : UInt32) :
    let out := (r.setState id kind state).run host w
    Holds earlier made out.1.2 out.2 := by
  have kept := (holds.sound.setState host w id kind state).1
  obtain ⟨change, life⟩ := holds.sound.setState_cases id kind state host w
  dsimp only at kept change life ⊢
  generalize (r.setState id kind state).run host w = out at kept change life ⊢
  obtain ⟨⟨result, r'⟩, w'⟩ := out
  rcases change with rfl | ⟨boxes, moved⟩
  · exact holds.congr kept rfl rfl life
  constructor
  case sound => exact kept
  case ids => exact moved.ids.trans holds.ids
  case chosen => exact holds.chosen
  case told => exact life.trans holds.told
  case shown =>
    intro m held
    obtain ⟨routine, s, shows', settings, camera⟩ := holds.shown m held
    by_cases named : m.2 = id
    · rw [named] at shows' ⊢
      exact ⟨_, _, moved.shows shows', settings, camera⟩
    · exact ⟨routine, s, moved.shows_other holds.sound shows' named, settings, camera⟩

/-- However far the transitions get, all of it is kept; by induction on them. -/
theorem makeTransitions (holds : Holds earlier made r w) (host : Host σ)
    (transitions : List Transition) :
    let out := (makeTransitions transitions r).run host w
    Holds earlier made out.1.2 out.2 := by
  induction transitions generalizing r w with
  | nil => exact holds
  | cons t rest ih =>
      have one := holds.setState host t.scene t.kind t.state
      simp only [Plan.makeTransitions, Action.run_bind]
      generalize (r.setState t.scene t.kind t.state).run host w = out at one ⊢
      obtain ⟨⟨result, r'⟩, w'⟩ := out
      cases result with
      | error e => exact one
      | ok done => exact ih one

/-! ## Creating scenes -/

/-- As long as an identity is free there is a handle left. -/
theorem handle_left (holds : Holds earlier made r w)
    (issued : r.producer.issued.toNat ≤ made.length) {id : SceneId}
    (free : r.contains id = false) : r.producer.issued.toNat + 1 < 2 ^ 64 := by
  have few := Registry.size_lt_of_free holds.sound.ids free
  rw [holds.size_eq] at few
  omega

/-- A scene that was made is held with those that were made before. -/
theorem afterCreation (holds : Holds earlier made r w)
    (left : r.producer.issued.toNat + 1 < 2 ^ 64) {request : SceneRequest}
    (free : r.contains (r.chooseId request.id).1 = false) {routine : StandardRoutine}
    (kind : routine.kind = request.kind) (state : routine.state = request.state) {s : Scene}
    (id : s.id = (r.chooseId request.id).1) (handle : s.handle = r.producer.nextHandle)
    (settings : s.settings = request.handed) (camera : s.camera = request.viewpoint)
    (life : w'.life = w.life) :
    Holds earlier (made ++ [(request, (r.chooseId request.id).1)])
      (r.afterCreation request.id routine s)
      (w'.note (.sceneCreated (r.chooseId request.id).1 routine.kind routine.state)) where
  sound := holds.sound.afterCreation left free routine id handle
  ids := by
    rw [Registry.afterCreation, List.map_append, List.map_append, holds.ids]
    rfl
  chosen m held id' named := by
    rcases List.mem_append.mp held with before | here
    · exact holds.chosen m before id' named
    · obtain rfl := List.mem_singleton.mp here
      dsimp only at named ⊢
      rw [named]
      rfl
  shown m held := by
    rcases List.mem_append.mp held with before | here
    · obtain ⟨routine', s', shows', seen⟩ := holds.shown m before
      exact ⟨routine', s', shows'.afterCreation _ _ _, seen⟩
    · obtain rfl := List.mem_singleton.mp here
      exact ⟨routine, s, holds.sound.shows_afterCreation left free routine s, settings, camera⟩
  told := by
    rw [World.life_note, life, holds.told, kind, state, List.map_append, List.append_assoc]
    rfl

/-- A request gets its scene, or everything is held as before. -/
theorem createScene (holds : Holds earlier made r w)
    (issued : r.producer.issued.toNat ≤ made.length) (storage : StorageSettings)
    (host : Host σ) (request : SceneRequest) :
    let out := (createScene storage request r).run host w
    match out.1.1 with
    | .error _ => Holds earlier made out.1.2 out.2
    | .ok id => Holds earlier (made ++ [(request, id)]) out.1.2 out.2 ∧
        out.1.2.producer.issued.toNat ≤ (made ++ [(request, id)]).length := by
  by_cases missing : request.kind = .fileLoading ∧ request.id = none
  · rw [createScene_of_missing missing]
    exact holds
  rw [createScene_eq storage missing]
  simp only [Action.run_bind, Action.run_pure]
  cases free : r.contains (r.chooseId request.id).1 with
  | true =>
      rw [Registry.create_of_contains free]
      exact holds.congr (holds.sound.chooseId _) (r.pairs_chooseId _)
        (congrArg LocalProducer.scenes (r.producer_chooseId _)) rfl
  | false =>
      have left := holds.handle_left issued free
      let new := r.producer.newScene (r.chooseId request.id).1 request.handed
      have built := request.setup_cases storage new host w
      have quiet := (request.quiet_setup storage new).life_run host w
      have count := LocalProducer.toNat_issued_add_one left
      rw [holds.sound.run_create left free]
      dsimp only [new] at built quiet ⊢
      generalize (request.setup storage _).run host w = out at built quiet ⊢
      obtain ⟨answer, w'⟩ := out
      rcases built with ⟨e, failed⟩ | ⟨routine, boxes, shown, kind, state, -, came, -⟩
      · obtain ⟨result, edits⟩ := answer
        obtain rfl : result = .error e := failed
        exact holds.congr (holds.sound.afterFailure left _) rfl rfl quiet
      · obtain rfl : answer = _ := came
        refine ⟨?_, ?_⟩
        · refine holds.afterCreation left free kind state ?_ ?_ ?_ rfl quiet
          · rw [Scene.id_applyAll, LocalProducer.newScene]
          · rw [Scene.handle_applyAll, LocalProducer.newScene]
          · rfl
        · show (r.producer.issued + 1).toNat ≤ _
          rw [List.length_append, List.length_singleton]
          omega

end Holds

/-- The scenes that are made when scenes are created in order, up to the first failure. -/
def scenesMade (storage : StorageSettings) (host : Host σ) :
    List SceneRequest → SceneRegistry LocalProducer → World σ → List Made
  | [], _, _ => []
  | request :: rest, r, w =>
    match (createScene storage request r).run host w with
    | ((.error _, _), _) => []
    | ((.ok id, r), w) => (request, id) :: scenesMade storage host rest r w

/-- Just the scenes that were made are held after any number of creations; by induction on the
requests to come. If none failed there is a scene for each request. -/
theorem Holds.createScenes (holds : Holds earlier made r w)
    (issued : r.producer.issued.toNat ≤ made.length) (storage : StorageSettings)
    (host : Host σ) (requests : List SceneRequest) :
    let out := (Plan.createScenes storage requests r).run host w
    let further := scenesMade storage host requests r w
    Holds earlier (made ++ further) out.1.2 out.2 ∧
      ∀ ids, out.1.1 = .ok ids → further.map Prod.fst = requests ∧ further.map Prod.snd = ids := by
  induction requests generalizing made r w with
  | nil =>
      constructor
      · rw [scenesMade, List.append_nil]
        exact holds
      · rintro ids ⟨⟩
        exact ⟨rfl, rfl⟩
  | cons request rest ih =>
      have one := holds.createScene issued storage host request
      simp only [Plan.createScenes, scenesMade, Action.run_bind]
      generalize (Plan.createScene storage request r).run host w = out at one ⊢
      obtain ⟨⟨result, r'⟩, w'⟩ := out
      cases result with
      | error e =>
          refine ⟨?_, fun ids ok => by cases ok⟩
          rw [List.append_nil]
          exact one
      | ok id =>
          obtain ⟨all, named⟩ := ih one.1 one.2
          dsimp only at all named ⊢
          rw [List.append_assoc] at all
          simp only [Action.run_bind, Action.run_pure]
          generalize (Plan.createScenes storage rest r').run host w' = out at all named ⊢
          obtain ⟨⟨result, r''⟩, w''⟩ := out
          refine ⟨all, ?_⟩
          intro ids ok
          cases result with
          | error e => cases ok
          | ok others =>
              obtain ⟨requests, others'⟩ := named others rfl
              obtain rfl : id :: others = ids := Except.ok.inj ok
              simp [requests, others']

/-- Starting without scenes, just the scenes that were made are held. -/
theorem holds_createScenes (plan : Plan) (host : Host σ) (w : World σ) :
    let out := (createScenes plan.storage plan.scenes .empty).run host w
    let made := scenesMade plan.storage host plan.scenes .empty w
    Holds w.life made out.1.2 out.2 ∧
      ∀ ids, out.1.1 = .ok ids → made.map Prod.fst = plan.scenes ∧ made.map Prod.snd = ids :=
  (Holds.empty w).createScenes (Nat.le_refl 0) plan.storage host plan.scenes

/-- A plan goes on to its transitions once all scenes are created, and to the summaries once all
transitions are made. -/
theorem run_drive_eq (plan : Plan) (r : SceneRegistry LocalProducer) (host : Host σ)
    (w : World σ) :
    (plan.drive r).run host w =
      let created := (createScenes plan.storage plan.scenes r).run host w
      match created.1.1 with
      | .error e => ((.error e, created.1.2), created.2)
      | .ok ids =>
        let moved := (makeTransitions plan.transitions created.1.2).run host created.2
        match moved.1.1 with
        | .error e => ((.error e, moved.1.2), moved.2)
        | .ok () =>
          (((ids.mapM (Summary.capture moved.1.2)).mapError .notCaptured, moved.1.2), moved.2) := by
  simp only [drive, Action.run_bind]
  generalize (createScenes plan.storage plan.scenes r).run host w = created
  obtain ⟨⟨result, r'⟩, w'⟩ := created
  cases result with
  | error e => rfl
  | ok ids =>
      simp only [Action.run_bind]
      generalize (makeTransitions plan.transitions r').run host w' = moved
      obtain ⟨⟨result, r''⟩, w''⟩ := moved
      cases result with
      | error e => rfl
      | ok done => rfl

end Plan

end SceneBench
