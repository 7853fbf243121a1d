import SceneBench.Proofs.Plan.Expectation
import SceneBench.Proofs.Registry.Identities
import SceneBench.Proofs.Registry.Shown

/-!
# Creating the scenes of a plan

While the scenes of a plan are created the registry holds just those that were created so far, in
their order, each under the identity that was expected. The counter stands above all identities
that were counted, and above no others; this makes the next counted identity the expected one.
-/

namespace SceneBench

variable {σ : Type} {storage : StorageSettings} {p : Placed} {done rest : List Placed}
  {r : SceneRegistry LocalProducer} {host : Host σ} {w : World σ}

namespace Placed

/-- The registry shows the scene as some transitions have left it. -/
def ShownIn (r : SceneRegistry LocalProducer) (storage : StorageSettings)
    (transitions : List Transition) (p : Placed) : Prop :=
  ∃ s, r.Shows p.id ((p.routine storage).withState (p.stateAfter transitions)) s ∧
    s.camera = p.request.viewpoint ∧
    p.request.kind.content (p.stateAfter transitions) = some s.boxes ∧
    s.flushes = p.framesAfter transitions

@[simp] theorem kind_routine (p : Placed) (storage : StorageSettings) :
    (p.routine storage).kind = p.request.kind := by
  unfold routine
  split <;> simp [StandardRoutine.kind, *]

@[simp] theorem state_routine (p : Placed) (storage : StorageSettings) :
    (p.routine storage).state = p.request.state := by
  unfold routine
  split <;> rfl

end Placed

/-! ## One set-up -/

/-- The set-up of the routine of a request. -/
def SceneRequest.setup (storage : StorageSettings) (request : SceneRequest) :
    Setup StandardRoutine :=
  match request.kind with
  | .fileLoading => StandardRoutine.setupFileLoading storage request.state request.camera
  | kind => StandardRoutine.setup kind request.state request.camera

/-- A set-up makes the directory, if it needs one, and then begins. -/
theorem Placed.run_setup_eq_begin {scene : Scene} (own : scene.id = p.id)
    (made : host.DoesAll w.state (p.directoryJobs storage)) :
    ∃ w' : World σ, w'.state = host.afterAll w.state (p.directoryJobs storage) ∧
      (p.request.setup storage scene).run host w =
        ((p.routine storage).begin p.request.viewpoint scene).run host w' := by
  obtain ⟨⟨kind, state, camera, chosen, settings⟩, id⟩ := p
  obtain rfl : scene.id = id := own
  cases kind with
  | boxGrid => exact ⟨w, rfl, rfl⟩
  | walls => exact ⟨w, rfl, rfl⟩
  | fractal => exact ⟨w, rfl, rfl⟩
  | fileLoading =>
      obtain ⟨answer, after⟩ := StorageJob.run_directory made.1
      refine ⟨_, after, ?_⟩
      simp only [SceneRequest.setup, StandardRoutine.setupFileLoading, Action.run_bind, answer]
      rfl

/-- The routine that is set up is the expected one, and shows the content of its first state. -/
theorem Placed.run_setup_of_served {boxes : List BoxRecord}
    (known : p.request.kind.content p.request.state = some boxes) {scene : Scene}
    (own : scene.id = p.id) (served : host.DoesAll w.state (p.jobs storage)) :
    let built := (p.request.setup storage scene).run host w
    built.1 = (.ok (p.routine storage), .setCamera p.request.viewpoint :: Edit.present boxes) ∧
      built.2.state = host.afterAll w.state (p.jobs storage) := by
  rw [jobs, Host.doesAll_append] at served
  obtain ⟨w', same, run⟩ := run_setup_eq_begin own served.1
  rw [run, jobs, Host.afterAll_append, ← same, ← p.state_routine storage]
  rw [← p.kind_routine storage, ← p.state_routine storage] at known
  refine StandardRoutine.run_begin_of_served known p.request.viewpoint scene ?_
  rw [p.state_routine storage, same]
  exact served.2

/-- A first state that the kind does not have is found out in the set-up. -/
theorem Placed.run_setup_of_unknown (unknown : p.request.kind.content p.request.state = none)
    {scene : Scene} (own : scene.id = p.id) (served : host.DoesAll w.state (p.jobs storage)) :
    ((p.request.setup storage scene).run host w).1.1 =
      .error (.unknownState p.request.kind p.request.state) := by
  rw [jobs, Host.doesAll_append] at served
  obtain ⟨w', same, run⟩ := run_setup_eq_begin own served.1
  rw [← p.kind_routine storage, ← p.state_routine storage] at unknown ⊢
  rw [run, StandardRoutine.begin_of_unknown unknown]
  rfl

/-- The settings that a producer is told about a request. A scene whose content goes through a file
is created with default ones, whatever was asked for. -/
def SceneRequest.handed (request : SceneRequest) : SceneSettings :=
  match request.kind with
  | .fileLoading => {}
  | _ => request.settings

/-- Unless an identity is missing, creating the scene of a request is a creation like any other. -/
theorem Plan.createScene_eq (storage : StorageSettings) {request : SceneRequest}
    (named : ¬ (request.kind = .fileLoading ∧ request.id = none))
    (r : SceneRegistry LocalProducer) :
    Plan.createScene storage request r = do
      let (created, r) ← r.create request.id request.handed (request.setup storage)
      return (created.mapError (.notCreated request.kind), r) := by
  obtain ⟨kind, state, camera, chosen, settings⟩ := request
  cases kind with
  | boxGrid => rfl
  | walls => rfl
  | fractal => rfl
  | fileLoading =>
      cases chosen with
      | none => exact absurd ⟨rfl, rfl⟩ named
      | some id => rfl

/-! ## One creation after others -/

namespace Plan

/-- The registry holds the scenes that were created so far, and has counted as expected. -/
structure Created (storage : StorageSettings) (done : List Placed)
    (r : SceneRegistry LocalProducer) : Prop where
  sound : r.Sound
  ids : r.pairs.map Prod.fst = done.map Placed.id
  issued : r.producer.issued.toNat ≤ done.length
  counter : ∀ n, r.nextId.toNat ≤ n ↔
    1 ≤ n ∧ ∀ q ∈ done, q.request.id = none → q.id.value.toNat < n
  shown : ∀ q ∈ done, q.ShownIn r storage []

namespace Created

theorem empty (storage : StorageSettings) : Created storage [] .empty where
  sound := Registry.sound_empty
  ids := rfl
  issued := Nat.le_refl 0
  counter n := by simp [Registry.empty]
  shown := by simp

theorem contains_iff (created : Created storage done r) (id : SceneId) :
    r.contains id = true ↔ id ∈ done.map Placed.id := by
  rw [Registry.contains_iff_mem, created.ids]

theorem contains_eq_false_iff (created : Created storage done r) (id : SceneId) :
    r.contains id = false ↔ id ∉ done.map Placed.id := by
  rw [← Bool.not_eq_true, created.contains_iff]

theorem size_eq (created : Created storage done r) : r.size = done.length := by
  have := congrArg List.length created.ids
  rwa [List.length_map, List.length_map] at this

theorem handle_left (created : Created storage done r) (few : done.length + 1 < 2 ^ 64) :
    r.producer.issued.toNat + 1 < 2 ^ 64 :=
  Nat.lt_of_le_of_lt (Nat.succ_le_succ created.issued) few

section Next

variable (created : Created storage done r) (assigned : Placed.Assigned done) (fits : p.Fits done)
include created assigned fits

/-- The next counted identity is the expected one. -/
theorem allocate_fst (counted : p.request.id = none) : r.allocate.1 = p.id := by
  have least := fits.isLeast counted
  obtain ⟨positive, above, unchosen⟩ := least.1
  have from' : r.nextId.toNat ≤ p.id.value.toNat :=
    (created.counter _).mpr ⟨positive, above⟩
  have reach : p.id.value.toNat ≤ r.nextId.toNat + r.size := by
    have := assigned.le_length least
    have start := ((created.counter _).mp (Nat.le_refl _)).1
    rw [created.size_eq]
    omega
  have unused : r.contains ⟨p.id.value⟩ = false :=
    (created.contains_eq_false_iff _).mpr (assigned.id_notMem fits counted)
  have passed : ∀ n : UInt32, r.nextId.toNat ≤ n.toNat → n.toNat < p.id.value.toNat →
      r.contains ⟨n⟩ = true := by
    intro n counter below
    rw [created.contains_iff]
    have start := ((created.counter _).mp counter).1
    obtain ⟨q, held, same⟩ := List.mem_map.mp (assigned.mem_of_lt least start below)
    refine List.mem_map.mpr ⟨q, held, ?_⟩
    exact congrArg SceneId.mk (UInt32.toNat_inj.mp same)
  exact congrArg SceneId.mk (Registry.firstFree_eq_of_passed from' reach passed unused)

/-- Chosen or counted, the identity of the next scene is the expected one. -/
theorem chooseId_fst : (r.chooseId p.request.id).1 = p.id := by
  cases chosen : p.request.id with
  | none => exact created.allocate_fst assigned fits chosen
  | some id => exact (fits.id_eq chosen).symm

/-- The counter stands above the next scene's identity if that was counted. -/
theorem counter_next (few : done.length + 1 < 2 ^ 32 - 1) (n : Nat) :
    (r.chooseId p.request.id).2.nextId.toNat ≤ n ↔
      1 ≤ n ∧ ∀ q ∈ done ++ [p], q.request.id = none → q.id.value.toNat < n := by
  simp only [List.forall_mem_append, List.forall_mem_singleton]
  cases chosen : p.request.id with
  | some id =>
      show r.nextId.toNat ≤ n ↔ _
      simpa using created.counter n
  | none =>
      have least := fits.isLeast chosen
      have small := assigned.le_length least
      have next : (r.chooseId none).2.nextId.toNat = p.id.value.toNat + 1 := by
        show (r.allocate.1.value + 1).toNat = _
        rw [created.allocate_fst assigned fits chosen, UInt32.toNat_add, UInt32.toNat_one]
        omega
      rw [next]
      constructor
      · intro above
        refine ⟨by omega, fun q held counted => ?_, fun _ => above⟩
        exact Nat.lt_trans (least.1.2.1 q held counted) above
      · rintro ⟨-, -, above⟩
        exact above rfl

/-- The scenes that were created so far together with the one that was created last. -/
theorem next (few : done.length + 1 < 2 ^ 32 - 1) (free : p.id ∉ done.map Placed.id)
    {boxes : List BoxRecord} (known : p.request.kind.content p.request.state = some boxes)
    (settings : SceneSettings) :
    Created storage (done ++ [p]) (r.afterCreation p.request.id (p.routine storage)
      ((r.producer.newScene p.id settings).applyAll
        (.setCamera p.request.viewpoint :: Edit.present boxes))) := by
  have named := created.chooseId_fst assigned fits
  have left := created.handle_left (by omega)
  have unused : r.contains (r.chooseId p.request.id).1 = false := by
    rwa [named, created.contains_eq_false_iff]
  constructor
  case sound =>
    refine created.sound.afterCreation left unused _ ?_ ?_
    · rw [Scene.id_applyAll, named]
      rfl
    · rw [Scene.handle_applyAll]
      rfl
  case ids =>
    rw [Registry.afterCreation, List.map_append, List.map_append, created.ids, named]
    rfl
  case issued =>
    show (r.producer.issued + 1).toNat ≤ (done ++ [p]).length
    have := created.issued
    rw [LocalProducer.toNat_issued_add_one left, List.length_append, List.length_singleton]
    omega
  case counter => exact created.counter_next assigned fits few
  case shown =>
    intro q held
    rcases List.mem_append.mp held with before | here
    · obtain ⟨s, shows', seen⟩ := created.shown q before
      exact ⟨s, shows'.afterCreation _ _ _, seen⟩
    · obtain rfl := List.mem_singleton.mp here
      have first : (q.routine storage).withState (q.stateAfter []) = q.routine storage := by
        rw [show q.stateAfter [] = q.request.state from rfl, ← q.state_routine storage,
          StandardRoutine.withState_state]
      refine ⟨(r.producer.newScene q.id settings).applyAll
        (.setCamera q.request.viewpoint :: Edit.present boxes), ?_, rfl, known, rfl⟩
      rw [first]
      have shows' := created.sound.shows_afterCreation left unused (q.routine storage)
      rw [named] at shows'
      exact shows' _

end Next

end Created

/-! ## Creating one scene, and all of them -/

theorem createScene_of_missing {request : SceneRequest}
    (missing : request.kind = .fileLoading ∧ request.id = none)
    (r : SceneRegistry LocalProducer) :
    createScene storage request r = pure (.error .identityNeeded, r) := by
  rw [createScene, missing.1, missing.2]

/-- A request without a fault gets its scene, and any other fails with its fault. -/
theorem Created.run_createScene (created : Created storage done r)
    (assigned : Placed.Assigned done) (fits : p.Fits done) (few : done.length + 1 < 2 ^ 32 - 1)
    (served : host.DoesAll w.state (p.creation storage done).jobs) :
    let out := (createScene storage p.request r).run host w
    match (p.creation storage done).fault? with
    | some e => out.1.1 = .error e
    | none => out.1.1 = .ok p.id ∧ Created storage (done ++ [p]) out.1.2 ∧
        out.2.state = host.afterAll w.state (p.creation storage done).jobs := by
  have named := created.chooseId_fst assigned fits
  have left := created.handle_left (by omega)
  unfold Placed.creation at served ⊢
  by_cases missing : p.request.kind = .fileLoading ∧ p.request.id = none
  · simp only [if_pos missing, createScene_of_missing missing, Action.run_pure]
  · have eq := createScene_eq storage missing r
    generalize p.request.handed = settings at eq
    simp only [if_neg missing, eq, Action.run_bind, Action.run_pure] at served ⊢
    by_cases used : p.id ∈ done.map Placed.id
    · have contained : r.contains (r.chooseId p.request.id).1 = true := by
        rwa [named, created.contains_iff]
      simp only [if_pos used, Registry.create_of_contains contained, Action.run_pure, named]
      rfl
    · have free : r.contains (r.chooseId p.request.id).1 = false := by
        rwa [named, created.contains_eq_false_iff]
      have run := created.sound.run_create left free settings (p.request.setup storage) host w
      have own : (r.producer.newScene p.id settings).id = p.id := rfl
      simp only [if_neg used, run, named] at served ⊢
      cases known : p.request.kind.content p.request.state with
      | none =>
          simp only [if_pos (Kind.content_eq_none_iff.mp known)] at served ⊢
          have failed := Placed.run_setup_of_unknown known own served
          generalize (p.request.setup storage (r.producer.newScene p.id settings)).run host w =
            built at failed ⊢
          obtain ⟨⟨result, edits⟩, after⟩ := built
          obtain rfl : result = _ := failed
          rfl
      | some boxes =>
          have few' := Kind.exists_content_iff.mp ⟨boxes, known⟩
          simp only [if_neg (Nat.not_le.mpr few')] at served ⊢
          obtain ⟨ok, state⟩ := Placed.run_setup_of_served known own served
          generalize (p.request.setup storage (r.producer.newScene p.id settings)).run host w =
            built at ok state ⊢
          obtain ⟨⟨result, edits⟩, after⟩ := built
          obtain ⟨rfl, rfl⟩ := Prod.mk.inj ok
          exact ⟨rfl, created.next assigned fits few used known settings, state⟩

/-- All scenes are created, or the first fault ends it; by induction on the requests to come. -/
theorem Created.run_createScenes (created : Created storage done r)
    (assigned : Placed.Assigned (done ++ rest)) (few : (done ++ rest).length < 2 ^ 32 - 1)
    (served : host.DoesAll w.state (PlanStep.asked (Placed.creations storage done rest))) :
    let steps := Placed.creations storage done rest
    let out := (createScenes storage (rest.map Placed.request) r).run host w
    match steps.findSome? PlanStep.fault? with
    | some e => out.1.1 = .error e
    | none => out.1.1 = .ok (rest.map Placed.id) ∧ Created storage (done ++ rest) out.1.2 ∧
        out.2.state = host.afterAll w.state (PlanStep.asked steps) := by
  induction rest generalizing done r w with
  | nil => exact ⟨rfl, by rwa [List.append_nil], rfl⟩
  | cons p rest ih =>
      obtain ⟨before, fits⟩ := assigned.split rfl
      rw [List.length_append, List.length_cons] at few
      rw [Placed.creations, PlanStep.asked, Host.doesAll_append] at served
      have one := created.run_createScene before fits (by omega) served.1
      simp only [Placed.creations, PlanStep.asked, List.findSome?_cons, List.map_cons, createScenes,
        Action.run_bind]
      generalize (createScene storage p.request r).run host w = out at one ⊢
      obtain ⟨⟨result, r'⟩, w'⟩ := out
      cases fault : (p.creation storage done).fault? with
      | some e =>
          rw [fault] at one
          obtain rfl : result = .error e := one
          rfl
      | none =>
          simp only [fault] at one
          obtain ⟨rfl, created', state⟩ := one
          simp only [fault, Option.isSome_none, Bool.false_eq_true, if_false] at served ⊢
          rw [← state] at served
          have all := ih created' (by rwa [List.append_assoc]) (by simp; omega) served.2
          simp only [Host.afterAll_append, ← state, Action.run_bind, Action.run_pure]
          cases faults : (Placed.creations storage (done ++ [p]) rest).findSome?
              PlanStep.fault? with
          | some e =>
              simp only [faults] at all
              simp only [all]
              rfl
          | none =>
              simp only [faults, List.append_assoc] at all
              obtain ⟨ids, created'', state'⟩ := all
              simp only [ids]
              exact ⟨rfl, created'', state'⟩

end Plan

end SceneBench
