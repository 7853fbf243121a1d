import SceneBench.Proofs.Registry.Calls
import SceneBench.Storage.Disk.Host

/-!
# Destroying scenes

Destroying an identity takes its pair off the registry and its scene off the producer, and nothing
else. What is left after several identities were destroyed depends on which they are, not on their
order and not on how often they are named; so a registry is cleared to the same state in whichever
order its table is read. An identity that is gone is answered as one that never was.
-/

namespace SceneBench.Registry

variable {σ ρ : Type} {r : Registry LocalProducer ρ} {id : SceneId} {pair : Pair ρ}

/-! ## What is left -/

/-- The registry without some identities, over the producer without their scenes. -/
def withoutAll (r : Registry LocalProducer ρ) (ids : List SceneId) : Registry LocalProducer ρ :=
  { r with
    producer := { r.producer with scenes := r.producer.scenes.filter fun entry => entry.2.id ∉ ids }
    pairs := r.pairs.filter fun entry => entry.1 ∉ ids }

@[simp] theorem withoutAll_nil (r : Registry LocalProducer ρ) : r.withoutAll [] = r := by
  simp [withoutAll]

theorem withoutAll_withoutAll (r : Registry LocalProducer ρ) (ids ids' : List SceneId) :
    (r.withoutAll ids).withoutAll ids' = r.withoutAll (ids ++ ids') := by
  have both (id : SceneId) :
      (decide (id ∉ ids') && decide (id ∉ ids)) = decide (id ∉ ids ++ ids') := by
    rw [← Bool.decide_and, decide_eq_decide, List.mem_append, not_or]
    exact and_comm
  simp only [withoutAll, List.filter_filter, both]

/-- Only which identities are named counts. -/
theorem withoutAll_congr {ids ids' : List SceneId} (same : ∀ id, id ∈ ids ↔ id ∈ ids') :
    r.withoutAll ids = r.withoutAll ids' := by
  simp only [withoutAll, same]

@[simp] theorem pairs_withoutAll_singleton (r : Registry LocalProducer ρ) (id : SceneId) :
    (r.withoutAll [id]).pairs = Table.erase r.pairs id := by
  simp [withoutAll, Table.erase]

/-- Of all identities that are registered, nothing is left. -/
theorem Sound.withoutAll_all (sound : r.Sound) {ids : List SceneId}
    (all : ∀ id, r.contains id = true → id ∈ ids) :
    r.withoutAll ids = { r with producer := { r.producer with scenes := [] }, pairs := [] } := by
  have scenes : r.producer.scenes.filter (fun entry => entry.2.id ∉ ids) = [] := by
    refine List.filter_eq_nil_iff.mpr fun entry held => ?_
    obtain ⟨pair, found, -⟩ :=
      sound.exists_pair ((Table.lookup_eq_some_iff sound.handles).mpr held)
    simpa using all entry.2.id (contains_eq_true_iff.mpr ⟨pair, found⟩)
  have pairs : r.pairs.filter (fun entry => entry.1 ∉ ids) = [] := by
    refine List.filter_eq_nil_iff.mpr fun entry held => ?_
    simpa using all entry.1 (contains_iff_mem.mpr (List.mem_map_of_mem held))
  rw [withoutAll, scenes, pairs]

namespace Sound

/-- The scene of an identity is the one under the handle of its pair. -/
theorem id_eq_iff (sound : r.Sound) (found : r.find? id = some pair) {entry : Handle × Scene}
    (held : entry ∈ r.producer.scenes) : entry.2.id = id ↔ entry.1 = pair.handle := by
  have shown : r.producer.view entry.1 = some entry.2 :=
    (Table.lookup_eq_some_iff sound.handles).mpr held
  obtain ⟨pair', found', handle⟩ := sound.exists_pair shown
  constructor
  · rintro rfl
    rw [← handle, Option.some.inj (found.symm.trans found')]
  · intro same
    exact sound.id_of_handle found' found (handle.trans same)

theorem without_eq (sound : r.Sound) (found : r.find? id = some pair) :
    r.without id pair.handle = r.withoutAll [id] := by
  have scenes : Table.erase r.producer.scenes pair.handle =
      r.producer.scenes.filter fun entry => entry.2.id ∉ [id] := by
    refine List.filter_congr fun entry held => ?_
    rw [decide_eq_decide, List.mem_singleton, sound.id_eq_iff found held]
  rw [Registry.without, Registry.withoutAll, scenes]
  simp [Table.erase]

theorem withoutAll_of_unused (sound : r.Sound) (unused : r.find? id = none) :
    r.withoutAll [id] = r := by
  have scenes : r.producer.scenes.filter (fun entry => entry.2.id ∉ [id]) = r.producer.scenes := by
    refine List.filter_eq_self.mpr fun entry held => ?_
    obtain ⟨pair, found, -⟩ :=
      sound.exists_pair ((Table.lookup_eq_some_iff sound.handles).mpr held)
    rw [decide_eq_true_eq, List.mem_singleton]
    rintro rfl
    cases unused.symm.trans found
  have pairs : r.pairs.filter (fun entry => entry.1 ∉ [id]) = r.pairs := by
    rw [← Table.erase_of_unused (Table.lookup_eq_none_iff.mp unused)]
    simp [Table.erase]
  rw [withoutAll, scenes, pairs]

/-! ## Destroying one after the other -/

/-- An identity is destroyed or was not there, and is gone in either case. -/
theorem destroy_eq (sound : r.Sound) (id : SceneId) (host : Host σ) (w : World σ) :
    ((r.destroy id).run host w).1 = (r.contains id, r.withoutAll [id]) := by
  cases found : r.find? id with
  | none =>
      rw [run_destroy_of_missing found, contains_eq_false_iff.mpr found,
        sound.withoutAll_of_unused found]
  | some pair =>
      rw [sound.run_destroy found, contains_eq_true_iff.mpr ⟨pair, found⟩, sound.without_eq found]

/-- By induction on the identities, each of which leaves a sound registry to the next. -/
theorem destroyEach_eq (sound : r.Sound) (ids : List SceneId) (host : Host σ) (w : World σ) :
    ((r.destroyEach ids).run host w).1 = r.withoutAll ids := by
  induction ids generalizing r w with
  | nil => rw [withoutAll_nil]; rfl
  | cons id rest ih =>
      have first := sound.destroy_eq id host w
      have left := (sound.destroy host w id).1
      simp only [Registry.destroyEach, Action.run_bind]
      rw [ih left ((r.destroy id).run host w).2, first, withoutAll_withoutAll,
        List.singleton_append]

/-- Neither order nor repetition matters. -/
theorem destroyEach_congr (sound : r.Sound) {ids ids' : List SceneId}
    (same : ∀ id, id ∈ ids ↔ id ∈ ids') (host : Host σ) (w : World σ) :
    ((r.destroyEach ids).run host w).1 = ((r.destroyEach ids').run host w).1 := by
  rw [sound.destroyEach_eq, sound.destroyEach_eq, withoutAll_congr same]

/-- Whoever destroys all that is registered, in any order, leaves nothing but the counters. -/
theorem destroyEach_all (sound : r.Sound) {order : List SceneId}
    (all : order.Perm (r.pairs.map Prod.fst)) (host : Host σ) (w : World σ) :
    ((r.destroyEach order).run host w).1 =
      { r with producer := { r.producer with scenes := [] }, pairs := [] } := by
  rw [sound.destroyEach_eq]
  refine sound.withoutAll_all fun id used => ?_
  exact all.mem_iff.mpr (contains_iff_mem.mp used)

end Sound

/-! ## Identities that are gone -/

/-- Nothing is registered under an identity, and whoever asks for it is told so and changes
nothing. -/
structure Unknown [Routine ρ] (r : Registry LocalProducer ρ) (id : SceneId) : Prop where
  contains : r.contains id = false
  scene : r.scene id = .error (.unknownScene id)
  edit : ∀ change, r.edit id change = (.error (.unknownScene id), r)
  kind : r.kind id = .error (.unknownScene id)
  state : r.state id = .error (.unknownScene id)
  /-- A change of state asks nothing of the operating system either. -/
  setState : ∀ kind state, r.setState id kind state = pure (.error (.unknownScene id), r)
  destroy : ∀ {σ : Type} (host : Host σ) (w : World σ), ((r.destroy id).run host w).1 = (false, r)

theorem unknown_of_unused [Routine ρ] (unused : r.find? id = none) : r.Unknown id where
  contains := contains_eq_false_iff.mpr unused
  scene := scene_of_missing unused
  edit := edit_of_missing unused
  kind := by rw [Registry.kind, unused]
  state := by rw [Registry.state, unused]
  setState := setState_of_missing unused
  destroy host w := congrArg Prod.fst (run_destroy_of_missing unused host w)

/-- One pair is gone together with its scene, and all else is what it was. -/
structure Released (r r' : Registry LocalProducer ρ) (id : SceneId) (pair : Pair ρ) : Prop where
  nextId : r'.nextId = r.nextId
  issued : r'.producer.issued = r.producer.issued
  pairs : r.pairs.Perm ((id, pair) :: r'.pairs)
  others : ∀ id', id' ≠ id → r'.find? id' = r.find? id'
  /-- The scene that was released is the one of the identity. -/
  scenes : ∃ s, s.id = id ∧ r.producer.scenes.Perm ((pair.handle, s) :: r'.producer.scenes)
  stale : r'.producer.view pair.handle = none
  views : ∀ h, h ≠ pair.handle → r'.producer.view h = r.producer.view h

theorem Sound.released (sound : r.Sound) (found : r.find? id = some pair) :
    r.Released (r.withoutAll [id]) id pair := by
  rw [← sound.without_eq found]
  obtain ⟨s, shown, known, -⟩ := sound.exists_scene found
  constructor
  case nextId => rfl
  case issued => rfl
  case pairs =>
    obtain ⟨before, after, all, left, -⟩ := Table.split_of_lookup sound.ids found
    rw [Registry.without, left, all]
    exact List.perm_middle
  case others => exact fun id' other => (Table.lookup_erase ..).trans (if_neg other)
  case scenes =>
    obtain ⟨before, after, all, left, -⟩ := Table.split_of_lookup sound.handles shown
    refine ⟨s, known, ?_⟩
    rw [Registry.without, left, all]
    exact List.perm_middle
  case stale => exact (Table.lookup_erase ..).trans (if_pos rfl)
  case views => exact fun h other => (Table.lookup_erase ..).trans (if_neg other)

/-- Destroying an identity tells whether it was registered, takes just its pair and its scene away
and leaves an identity that nobody knows. Destroying several is the same in every order, and in
whichever order all of them are destroyed, only the counters are left, so that the next identity to
be counted is the counter itself. -/
theorem Reachable.destroy_outcome [Routine ρ] (reachable : r.Reachable) (id : SceneId)
    (host : Host σ) (w : World σ) :
    let done := ((r.destroy id).run host w).1
    (done.1 = true ↔ r.contains id = true) ∧ done.2.Unknown id ∧
      (∀ pair, r.find? id = some pair → r.Released done.2 id pair) ∧
      (r.contains id = false → done.2 = r) ∧
      (∀ order : List SceneId, order.Perm (r.pairs.map Prod.fst) →
        let cleared := ((r.destroyEach order).run host w).1
        cleared = (r.destroyAll.run host w).1 ∧
          cleared = { r with producer := { r.producer with scenes := [] }, pairs := [] } ∧
          cleared.allocate.1 = ⟨r.nextId⟩) ∧
      ∀ ids ids' : List SceneId, ids.Perm ids' →
        ((r.destroyEach ids).run host w).1 = ((r.destroyEach ids').run host w).1 := by
  have sound := reachable.sound
  dsimp only
  rw [sound.destroy_eq]
  refine ⟨Iff.rfl, ?_, ?_, ?_, ?_, ?_⟩
  · apply unknown_of_unused
    rw [find?, pairs_withoutAll_singleton, Table.lookup_erase, if_pos rfl]
  · exact fun pair found => sound.released found
  · exact fun unused => sound.withoutAll_of_unused (contains_eq_false_iff.mp unused)
  · intro order all
    have same : r.destroyAll = r.destroyEach (r.pairs.map Prod.fst) := rfl
    rw [same, sound.destroyEach_all all, sound.destroyEach_all (.refl _)]
    exact ⟨rfl, rfl, rfl⟩
  · intro ids ids' order
    exact sound.destroyEach_congr (fun id => order.mem_iff) host w

/-- Of three scenes the one that was made second is destroyed, and then all of them, one of them
named twice and one that never was. -/
theorem Reachable.destroy_outcome_middle :
    let r := Call.after Disk.host ⟨.fresh, []⟩
      [ Call.createKind (some ⟨7⟩) .walls 0 .zero {},
        Call.createKind none .boxGrid 3 .zero {},
        Call.createKind (some ⟨2⟩) .fractal 0 .zero {} ]
    let done := ((r.destroy ⟨1⟩).run Disk.host ⟨.fresh, []⟩).1
    r.Reachable ∧ done.1 = true ∧ done.2.Unknown ⟨1⟩ ∧
      (∃ pair, r.find? ⟨1⟩ = some pair ∧ r.Released done.2 ⟨1⟩ pair) ∧
      ((r.destroyEach [⟨2⟩, ⟨9⟩, ⟨7⟩, ⟨2⟩, ⟨1⟩]).run Disk.host ⟨.fresh, []⟩).1 =
        ((r.destroyEach [⟨7⟩, ⟨2⟩, ⟨1⟩, ⟨2⟩, ⟨9⟩]).run Disk.host ⟨.fresh, []⟩).1 := by
  intro r done
  have reachable : r.Reachable := ⟨_, Disk.host, ⟨.fresh, []⟩, _, by decide, rfl⟩
  obtain ⟨known, unknown, released, -, -, order⟩ :=
    reachable.destroy_outcome ⟨1⟩ Disk.host ⟨.fresh, []⟩
  have registered : r.contains ⟨1⟩ = true := rfl
  obtain ⟨pair, found⟩ := contains_eq_true_iff.mp registered
  exact ⟨reachable, known.mpr registered, unknown, ⟨pair, found, released pair found⟩,
    order _ _ (by decide)⟩

end SceneBench.Registry
