import SceneBench.Proofs.Registry.Calls
import SceneBench.Proofs.Routine.Showing

/-!
# The lives of scenes

What has become of a scene can be told from the calls and their answers: how it was made, which
states it has entered since then, and whether it was edited. A registry bears this out whatever else
was called in between. For a scene of a standard kind it means that kind and state are what was told
last, and that the boxes are the content of both unless they were edited after that; so what a scene
shows depends on nothing that went before.
-/

namespace SceneBench

variable {σ ρ : Type}

/-! ## What calls tell -/

/-- What calls tell of a scene that is registered. -/
structure Life (ρ : Type) where
  /-- The set-up that made it. -/
  setup : Setup ρ
  /-- The states that it has entered since, the latest last. -/
  moves : List UInt32 := []
  /-- It was edited after it was made or last entered a state. -/
  edited : Bool := false
  /-- It was edited at any time. -/
  everEdited : Bool := false

namespace Life

variable (life : Life ρ)

/-- The state that a scene is in, which was made in some first state. -/
def state (first : UInt32) : UInt32 := life.moves.getLast?.getD first

/-- The scene enters a state. -/
def move (state : UInt32) : Life ρ := { life with moves := life.moves ++ [state], edited := false }

/-- The scene was to enter a state, and this is what came of it. -/
def turn (state : UInt32) : Except SceneError Unit → Life ρ
  | .ok () => life.move state
  | .error _ => life

/-- The scene is edited. -/
def edit : Life ρ := { life with edited := true, everEdited := true }

@[simp] theorem state_move (state first : UInt32) : (life.move state).state first = state := by
  simp [Life.state, move]

@[simp] theorem length_moves_move (state : UInt32) :
    (life.move state).moves.length = life.moves.length + 1 :=
  List.length_append

@[simp] theorem setup_turn (state : UInt32) (result : Except SceneError Unit) :
    (life.turn state result).setup = life.setup := by
  cases result <;> rfl

end Life

namespace Call

/-- What a call and its answer tell of the scene under an identity, after what was told before. -/
def tell (id : SceneId) (call : Call ρ) (reply : Reply) (life : Option (Life ρ)) :
    Option (Life ρ) :=
  match call, reply with
  | create _ _ setup, .created (.ok id') => if id' = id then some { setup } else life
  | setState id' _ state, .moved result =>
    if id' = id then life.map (·.turn state result) else life
  | edit id' _, .edited (.ok _) => if id' = id then life.map Life.edit else life
  | destroy id', _ => if id' = id then none else life
  | destroyAll, _ => none
  | _, _ => life

/-- A change of state that failed tells nothing new. -/
theorem tell_setState_error (id id' : SceneId) (kind : Kind) (state : UInt32) (e : SceneError)
    (life : Option (Life ρ)) :
    (setState id' kind state).tell id (.moved (.error e)) life = life := by
  dsimp only [tell]
  split
  · exact Option.map_id'
  · rfl

/-- What calls and their answers tell of the scene under an identity. -/
def tellAll (id : SceneId) : List (Call ρ) → List Reply → Option (Life ρ) → Option (Life ρ)
  | call :: calls, reply :: replies, life => tellAll id calls replies (call.tell id reply life)
  | _, _, life => life

end Call

namespace Registry

variable {r r' : Registry LocalProducer ρ} {id id' : SceneId} {pair : Pair ρ} {s : Scene}

/-! ## Scenes that are left alone -/

/-- In another registry the scene under an identity is there as it was, or is missing as it was. -/
structure SameAt (r r' : Registry LocalProducer ρ) (id : SceneId) : Prop where
  pair : r'.find? id = r.find? id
  scene : ∀ pair, r.find? id = some pair →
    r'.producer.view pair.handle = r.producer.view pair.handle

theorem sameAt_chooseId (r : Registry LocalProducer ρ) (chosen : Option SceneId)
    (id : SceneId) : r.SameAt (r.chooseId chosen).2 id := by
  rw [chooseId_snd]
  exact ⟨rfl, fun _ _ => rfl⟩

theorem sameAt_afterFailure (r : Registry LocalProducer ρ) (chosen : Option SceneId)
    (id : SceneId) : r.SameAt (r.afterFailure chosen) id :=
  ⟨rfl, fun _ _ => rfl⟩

/-- A creation leaves the scenes of all other identities alone. -/
theorem Sound.sameAt_afterCreation (sound : r.Sound) {chosen : Option SceneId}
    (other : id ≠ (r.chooseId chosen).1) (routine : ρ) (s : Scene) :
    r.SameAt (r.afterCreation chosen routine s) id where
  pair := by
    rw [find?, Registry.afterCreation, Table.lookup_append_singleton, if_neg other, Option.or_none]
    rfl
  scene pair found := by
    obtain ⟨t, shown, -, -⟩ := sound.exists_scene found
    refine Table.lookup_append_singleton.trans ?_
    rw [show r.producer.scenes.lookup pair.handle = _ from shown, shown]
    rfl

/-- A scene that is given back, perhaps with another routine, is the only one to change. -/
theorem Sound.sameAt_giveBack (sound : r.Sound) (found : r.find? id = some pair)
    (other : id' ≠ id) (s : Scene) {pairs : List (SceneId × Pair ρ)}
    (same : pairs.lookup id' = r.pairs.lookup id') :
    r.SameAt { r with producer := r.producer.giveBack pair.handle s, pairs } id' where
  pair := same
  scene pair' found' := by
    refine (Table.lookup_replace ..).trans (if_neg fun handle => ?_)
    exact other (sound.id_of_handle found' found handle)

theorem Sound.sameAt_without (sound : r.Sound) (found : r.find? id = some pair)
    (other : id' ≠ id) : r.SameAt (r.without id pair.handle) id' where
  pair := (Table.lookup_erase ..).trans (if_neg other)
  scene pair' found' := by
    refine (Table.lookup_erase ..).trans (if_neg fun handle => ?_)
    exact other (sound.id_of_handle found' found handle)

end Registry

/-! ## Lives of standard scenes -/

variable [Routine ρ] {among : StandardAmong ρ} {host : Host σ} {w : World σ} {life : Life ρ}
  {request : SceneRequest} {storage : StorageSettings} {routine : ρ} {s : Scene}

/-- A routine and its scene are what is told of a scene that was made for a request. -/
structure Life.Fits (life : Life ρ) (among : StandardAmong ρ) (host : Host σ)
    (request : SceneRequest) (routine : ρ) (s : Scene) : Prop where
  routine : ∃ own, routine = among.embed own ∧ own.kind = request.kind ∧
    own.state = life.state request.state
  /-- The state is one that the kind has. -/
  content : ∃ boxes, request.kind.content (life.state request.state) = some boxes ∧
    (request.kind.Reliable host → life.edited = false → s.boxes = boxes)
  /-- There is one frame for each state that was entered. -/
  frames : life.everEdited = false → s.flushes = 1 + life.moves.length
  camera : life.everEdited = false → s.camera = request.viewpoint

namespace Life

/-- A scene that was just made fits, whatever was asked for. -/
theorem fits_of_setup {edits : List Edit} (new : s.flushes = 0)
    (built : ((among.setup storage request s).run host w).1 = (.ok routine, edits)) :
    Life.Fits { setup := among.setup storage request } among host request routine
      (s.applyAll edits) := by
  simp only [StandardAmong.setup, Action.run_bind, Action.run_pure, Prod.mk.injEq] at built
  rcases request.setup_cases storage s host w with
    ⟨e, failed⟩ | ⟨own, boxes, shown, kind, state, known, made, same⟩
  · rw [failed] at built
    cases built.1
  · rw [made] at built
    obtain ⟨result, rfl⟩ := built
    obtain rfl : among.embed own = routine := Except.ok.inj result
    refine ⟨⟨own, rfl, kind, state⟩, ⟨boxes, known, fun reliable _ => same reliable⟩, ?_, ?_⟩
    · intro never
      show s.flushes + 1 = 1
      rw [new]
    · intro never
      rfl

/-- A scene goes on to fit when it is to enter a state, whether it enters it or not. -/
theorem Fits.turn (fits : life.Fits among host request routine s) (state : UInt32) :
    let turn := ((Routine.enter routine s state).run host w).1
    (life.turn state turn.result).Fits among host request turn.routine
      (s.applyAll turn.edits) := by
  obtain ⟨own, rfl, kind, last⟩ := fits.routine
  rw [among.enter_embed]
  simp only [Action.run_bind, Action.run_pure]
  rcases own.enter_cases s state host w with ⟨e, failed⟩ | ⟨boxes, shown, known, entered, same⟩
  · rw [failed]
    exact ⟨⟨own, rfl, kind, last⟩, fits.content, fits.frames, fits.camera⟩
  · rw [kind] at known same
    rw [entered]
    refine ⟨⟨own.withState state, rfl, ?_, ?_⟩, ⟨boxes, ?_, fun reliable _ => same reliable⟩, ?_,
      ?_⟩
    · rw [StandardRoutine.kind_withState, kind]
    · rw [StandardRoutine.state_withState]
      exact (life.state_move state request.state).symm
    · rw [Life.turn, state_move]
      exact known
    · intro never
      show s.flushes + 1 = 1 + (life.move state).moves.length
      rw [fits.frames never, length_moves_move, Nat.add_assoc]
    · intro never
      exact fits.camera never

/-- An edited scene goes on to fit, though nothing more is told of its content. -/
theorem Fits.edit (fits : life.Fits among host request routine s) (change : Edit) :
    life.edit.Fits among host request routine (s.apply change) := by
  obtain ⟨boxes, known, -⟩ := fits.content
  exact ⟨fits.routine, ⟨boxes, known, fun _ never => nomatch never⟩, nofun, nofun⟩

end Life

end SceneBench
