import SceneBench.Proofs.Registry.Calls
import SceneBench.Storage.Disk.Host

/-!
# What is registered and what is alive

After every run of calls the registered identities and the live scenes of the producer are in
one-to-one correspondence: an identity is registered exactly when a scene with that identity is
alive, and it is the scene under the handle that the registry holds for it. So no live scene is
lost, and every registered scene can be looked at and changed.
-/

namespace SceneBench

variable {σ ρ : Type}

namespace Registry

/-- Registered identities and live scenes correspond to each other. -/
structure Corresponds (r : Registry LocalProducer ρ) : Prop where
  /-- What is registered is what is alive. -/
  contains_iff : ∀ id, r.contains id = true ↔ ∃ h s, r.producer.view h = some s ∧ s.id = id
  /-- Under the handle of a pair there is its scene, which knows both its names. -/
  view_of_find? : ∀ id pair, r.find? id = some pair →
    ∃ s, r.producer.view pair.handle = some s ∧ s.id = id ∧ s.handle = pair.handle
  /-- Looked up by identity, the producer has the handle that the registry has. -/
  find_eq : ∀ id, r.producer.find id = (r.find? id).map Pair.handle
  handle_ne : ∀ id id' pair pair', r.find? id = some pair → r.find? id' = some pair' →
    id ≠ id' → pair.handle ≠ pair'.handle
  /-- Every live scene is the one of a pair. -/
  find?_of_view : ∀ h s, r.producer.view h = some s →
    ∃ pair, r.find? s.id = some pair ∧ pair.handle = h
  /-- Identities and handles are listed once each, so that sizes count them. -/
  ids_nodup : (r.pairs.map Prod.fst).Nodup
  handles_nodup : (r.producer.scenes.map Prod.fst).Nodup
  size_eq : r.size = r.producer.liveScenes
  /-- A registered scene is seen and changed under its identity. -/
  scene_of_contains : ∀ id, r.contains id = true →
    ∃ pair s, r.find? id = some pair ∧ r.producer.view pair.handle = some s ∧
      r.scene id = .ok s ∧ ∀ change, r.edit id change =
        (.ok (s.apply change),
          { r with producer := r.producer.giveBack pair.handle (s.apply change) })
  scene_of_not_contains : ∀ id, r.contains id = false →
    r.scene id = .error (.unknownScene id) ∧
      ∀ change, r.edit id change = (.error (.unknownScene id), r)

namespace Sound

variable {r : Registry LocalProducer ρ}

theorem find_eq (sound : r.Sound) (id : SceneId) :
    r.producer.find id = (r.find? id).map Pair.handle := by
  cases first : r.producer.scenes.find? fun entry => entry.2.id = id with
  | none =>
      have unused : r.find? id = none := by
        rw [← contains_eq_false_iff, ← sound.find_isSome_iff, LocalProducer.find, first]
        rfl
      rw [LocalProducer.find, first, unused]
      rfl
  | some entry =>
      obtain ⟨h, s⟩ := entry
      have held := List.mem_of_find?_eq_some first
      have known : s.id = id := by simpa using List.find?_some first
      obtain ⟨pair, found, handle⟩ :=
        sound.exists_pair ((Table.lookup_eq_some_iff sound.handles).mpr held)
      rw [LocalProducer.find, first, ← known, found]
      exact congrArg some ((sound.own _ held).trans handle.symm)

/-- A sound registry and its producer correspond. -/
theorem corresponds (sound : r.Sound) : r.Corresponds where
  contains_iff id := by
    rw [contains_eq_true_iff]
    constructor
    · rintro ⟨pair, found⟩
      obtain ⟨s, shown, known, -⟩ := sound.exists_scene found
      exact ⟨pair.handle, s, shown, known⟩
    · rintro ⟨h, s, shown, rfl⟩
      obtain ⟨pair, found, -⟩ := sound.exists_pair shown
      exact ⟨pair, found⟩
  view_of_find? id pair found := sound.exists_scene found
  find_eq := sound.find_eq
  handle_ne id id' pair pair' found found' other same :=
    other (sound.id_of_handle found found' same)
  find?_of_view h s shown := sound.exists_pair shown
  ids_nodup := sound.ids
  handles_nodup := sound.handles
  size_eq := sound.size_eq
  scene_of_contains id used := by
    obtain ⟨pair, s, found, shown⟩ := sound.exists_view used
    exact ⟨pair, s, found, shown, scene_of_view found shown, edit_of_view found shown⟩
  scene_of_not_contains id unused := by
    have missing := contains_eq_false_iff.mp unused
    exact ⟨scene_of_missing missing, edit_of_missing missing⟩

end Sound

end Registry

/-- After every run of calls what is registered and what is alive correspond, whatever the calls
were and whatever the operating system answered. -/
theorem Call.corresponds_after [Routine ρ] (host : Host σ) (w : World σ)
    (calls : List (Call ρ)) (few : creationsAll calls < 2 ^ 32 - 1) :
    (after host w calls).Corresponds :=
  (sound_after host w (by omega)).corresponds

/-- A run with a creation that fails in its set-up, one under an identity in use, content in a
file, and scenes destroyed one by one and together. -/
theorem Call.corresponds_after_failures :
    let calls :=
      [ createKind none .boxGrid 3 .zero {},
        createKind none .walls 99 .zero {},
        createKind (some ⟨1⟩) .fractal 0 .zero {},
        createFileLoading ⟨7⟩ .zero {} 1,
        setState ⟨1⟩ .boxGrid 2,
        edit ⟨7⟩ .clear,
        destroy ⟨1⟩,
        createKind none .fractal 2 .zero {},
        destroyAll,
        createKind (some ⟨2⟩) .walls 0 .zero {} ]
    creationsAll calls < 2 ^ 32 - 1 ∧ (after Disk.host ⟨.fresh, []⟩ calls).Corresponds :=
  ⟨by decide, corresponds_after Disk.host ⟨.fresh, []⟩ _ (by decide)⟩

end SceneBench
