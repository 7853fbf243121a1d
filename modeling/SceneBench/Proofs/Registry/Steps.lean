import SceneBench.Proofs.Registry.Requests

/-!
# Requests to the local producer

A sound registry over a local producer finds each of its scenes, so of what the requests may come to
over any producer less is left. Creating is the one with most to it. By the time a set-up runs, its
scene is in the table of the producer already; when the set-up fails, what it did to the scene goes
with the scene, and of the creation only the counters tell.
-/

namespace SceneBench

/-- A scene that is there is lent, and the producer stays as it is meanwhile. -/
theorem LocalProducer.borrow_of_view {p : LocalProducer} {h : Handle} {s : Scene}
    (shown : p.view h = some s) : Producer.borrow p h = (some s, p) := by
  show (p.view h, p) = _
  rw [shown]

/-- A scene that is there is released by being taken off the table. -/
theorem LocalProducer.release_of_view {p : LocalProducer} {h : Handle} {s : Scene}
    (shown : p.view h = some s) :
    Producer.release p h = (true, { p with scenes := Table.erase p.scenes h }) := by
  show ((p.view h).isSome, _) = _
  rw [shown]
  rfl

namespace Registry

variable {σ ρ : Type} {id : SceneId} {pair : Pair ρ} {s : Scene}

/-! ## Creating -/

theorem Sound.chooseId {r : Registry LocalProducer ρ} (sound : r.Sound)
    (chosen : Option SceneId) : (r.chooseId chosen).2.Sound := by
  rw [chooseId_snd]
  exact sound.withNextId _

/-- The registry after a creation that failed in its set-up. -/
def afterFailure (r : Registry LocalProducer ρ) (chosen : Option SceneId) :
    Registry LocalProducer ρ :=
  { r with
    producer := r.producer.spend
    nextId := (r.chooseId chosen).2.nextId }

/-- The registry after a creation that came off, with the scene as its set-up left it. -/
def afterCreation (r : Registry LocalProducer ρ) (chosen : Option SceneId) (routine : ρ)
    (s : Scene) : Registry LocalProducer ρ :=
  { producer := r.producer.add s
    nextId := (r.chooseId chosen).2.nextId
    pairs := r.pairs ++ [((r.chooseId chosen).1, ⟨r.producer.nextHandle, routine⟩)] }

section Local

variable {r : Registry LocalProducer ρ}

/-- As long as handles are left the next one is new. -/
theorem Sound.nextHandle_unused (sound : r.Sound) (left : r.producer.issued.toNat + 1 < 2 ^ 64) :
    r.producer.nextHandle ∉ r.producer.scenes.map Prod.fst :=
  sound.producer.nextHandle_unused left

variable [Routine ρ]

/-- Under an identity that is free the set-up decides. It is given a new scene; if it fails, the
scene is gone and a handle is spent, and otherwise scene and routine are there. -/
theorem Sound.run_create (sound : r.Sound) (left : r.producer.issued.toNat + 1 < 2 ^ 64)
    {chosen : Option SceneId} (free : r.contains (r.chooseId chosen).1 = false)
    (settings : SceneSettings) (setup : Setup ρ) (host : Host σ) (w : World σ) :
    (r.create chosen settings setup).run host w =
      let new := r.producer.newScene (r.chooseId chosen).1 settings
      let built := (setup new).run host w
      match built.1.1 with
      | .error e => ((.error e, r.afterFailure chosen), built.2)
      | .ok routine =>
        ((.ok (r.chooseId chosen).1, r.afterCreation chosen routine (new.applyAll built.1.2)),
          built.2.note (.sceneCreated (r.chooseId chosen).1 (Routine.kind routine)
            (Routine.state routine))) := by
  have new := sound.nextHandle_unused left
  have made : Producer.create r.producer (r.chooseId chosen).1 settings =
      (.ok r.producer.nextHandle,
        r.producer.add (r.producer.newScene (r.chooseId chosen).1 settings)) :=
    LocalProducer.create_of_unused (by rw [sound.find_isSome_iff, free]) settings
  have lent (s : Scene) :
      Producer.borrow (r.producer.add s) r.producer.nextHandle = (some s, r.producer.add s) :=
    LocalProducer.borrow_of_view (LocalProducer.view_add new s)
  have given (s s' : Scene) :
      Producer.giveBack (r.producer.add s) r.producer.nextHandle s' = r.producer.add s' :=
    LocalProducer.giveBack_add new s s'
  have released (s : Scene) :
      (Producer.release (r.producer.add s) r.producer.nextHandle).2 = r.producer.spend :=
    LocalProducer.release_add new s
  simp only [run_create_eq free, made, lent, given]
  generalize (setup (r.producer.newScene (r.chooseId chosen).1 settings)).run host w = built
  obtain ⟨⟨result, edits⟩, after⟩ := built
  cases result with
  | error e => simp only [released, afterFailure, pairs_chooseId]
  | ok routine => rfl

/-- However a creation goes, it leaves one of three registries. -/
theorem Sound.create_cases (sound : r.Sound) (left : r.producer.issued.toNat + 1 < 2 ^ 64)
    (chosen : Option SceneId) (settings : SceneSettings) (setup : Setup ρ) (host : Host σ)
    (w : World σ) :
    let r' := ((r.create chosen settings setup).run host w).1.2
    r.contains (r.chooseId chosen).1 = true ∧ r' = (r.chooseId chosen).2 ∨
      r.contains (r.chooseId chosen).1 = false ∧
        (r' = r.afterFailure chosen ∨
          ∃ routine edits, r' = r.afterCreation chosen routine
            ((r.producer.newScene (r.chooseId chosen).1 settings).applyAll edits)) := by
  cases free : r.contains (r.chooseId chosen).1 with
  | true => exact .inl ⟨rfl, by rw [create_of_contains free, Action.run_pure]⟩
  | false =>
      refine .inr ⟨rfl, ?_⟩
      rw [sound.run_create left free]
      dsimp only
      generalize (setup (r.producer.newScene (r.chooseId chosen).1 settings)).run host w = built
      obtain ⟨⟨result, edits⟩, after⟩ := built
      cases result with
      | error e => exact .inl rfl
      | ok routine => exact .inr ⟨routine, edits, rfl⟩

/-! ## Looking at scenes and changing them -/

omit [Routine ρ] in
/-- A registered scene can be seen. -/
theorem Sound.exists_view (sound : r.Sound) (used : r.contains id = true) :
    ∃ pair s, r.find? id = some pair ∧ r.producer.view pair.handle = some s := by
  obtain ⟨pair, found⟩ := contains_eq_true_iff.mp used
  obtain ⟨s, shown, -, -⟩ := sound.exists_scene found
  exact ⟨pair, s, found, shown⟩

omit [Routine ρ] in
theorem scene_of_view (found : r.find? id = some pair)
    (shown : r.producer.view pair.handle = some s) : r.scene id = .ok s := by
  have viewed : (r.find? id >>= fun pair => Producer.view r.producer pair.handle) = some s := by
    rw [found]
    exact shown
  rw [scene, viewed]

omit [Routine ρ] in
theorem edit_of_view (found : r.find? id = some pair)
    (shown : r.producer.view pair.handle = some s) (change : Edit) :
    r.edit id change =
      (.ok (s.apply change),
        { r with producer := r.producer.giveBack pair.handle (s.apply change) }) := by
  rw [edit_eq found, LocalProducer.borrow_of_view shown]
  rfl

/-- Where the kind is right, the routine of a scene decides about a change of state. -/
theorem run_setState_of_view (found : r.find? id = some pair)
    (shown : r.producer.view pair.handle = some s) (state : UInt32) (host : Host σ)
    (w : World σ) :
    (r.setState id (Routine.kind pair.routine) state).run host w =
      let entered := (Routine.enter pair.routine s state).run host w
      let turn := entered.1
      ((turn.result,
          { r with
            producer := r.producer.giveBack pair.handle (s.applyAll turn.edits)
            pairs := Table.replace r.pairs id { pair with routine := turn.routine } }),
        if turn.result matches .ok () then entered.2.note (.sceneMoved id state)
        else entered.2) := by
  rw [run_setState_eq found, LocalProducer.borrow_of_view shown]
  rfl

/-! ## Destroying -/

/-- The registry without a pair, over the producer without its scene. -/
def without (r : Registry LocalProducer ρ) (id : SceneId) (h : Handle) :
    Registry LocalProducer ρ :=
  { r with
    producer := { r.producer with scenes := Table.erase r.producer.scenes h }
    pairs := Table.erase r.pairs id }

omit [Routine ρ] in
/-- A registered scene is released by a producer that still knows it. -/
theorem Sound.run_destroy (sound : r.Sound) (found : r.find? id = some pair) (host : Host σ)
    (w : World σ) :
    (r.destroy id).run host w =
      ((true, r.without id pair.handle), w.note (.sceneDestroyed id)) := by
  obtain ⟨s, shown, -, -⟩ := sound.exists_scene found
  rw [run_destroy_eq found, LocalProducer.release_of_view shown]
  rfl

end Local

end Registry

end SceneBench
