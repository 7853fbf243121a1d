import SceneBench.Proofs.Scene.Held
import SceneBench.Registry

/-!
# Identities and handles, linked

A registry names its scenes by identities and a producer by handles. Both keep a table, and each of
the two tables says which identity goes with which handle: the registry's because a pair holds a
handle, the producer's because a scene knows its own identity. A registry is sound when the two
say the same and no name is used twice; every handle in use has been issued, so the next one is new.
-/

namespace SceneBench

namespace Scene

@[simp] theorem id_apply (s : Scene) (e : Edit) : (s.apply e).id = s.id := by cases e <;> rfl

@[simp] theorem handle_apply (s : Scene) (e : Edit) : (s.apply e).handle = s.handle := by
  cases e <;> rfl

@[simp] theorem id_applyAll (s : Scene) (edits : List Edit) : (s.applyAll edits).id = s.id := by
  induction edits generalizing s with
  | nil => rfl
  | cons e edits ih => exact (ih (s.apply e)).trans (id_apply s e)

@[simp] theorem handle_applyAll (s : Scene) (edits : List Edit) :
    (s.applyAll edits).handle = s.handle := by
  induction edits generalizing s with
  | nil => rfl
  | cons e edits ih => exact (ih (s.apply e)).trans (handle_apply s e)

end Scene

/-- Which identity goes with which handle, as the scenes tell it. -/
def LocalProducer.links (p : LocalProducer) : List (SceneId × Handle) :=
  p.scenes.map fun entry => (entry.2.id, entry.1)

namespace Registry

variable {π ρ : Type}

/-- Which identity goes with which handle, as the pairs tell it. -/
def links (r : Registry π ρ) : List (SceneId × Handle) :=
  r.pairs.map fun entry => (entry.1, entry.2.handle)

/-- Registry and producer agree about the scenes that there are. -/
structure Sound (r : Registry LocalProducer ρ) : Prop where
  links : r.links = r.producer.links
  ids : (r.pairs.map Prod.fst).Nodup
  handles : (r.producer.scenes.map Prod.fst).Nodup
  own : ∀ entry ∈ r.producer.scenes, entry.2.handle = entry.1
  issued : ∀ entry ∈ r.producer.scenes, entry.1.value.toNat ≤ r.producer.issued.toNat

/-- A registry without scenes over a new producer. -/
def empty : Registry LocalProducer ρ := { producer := {} }

theorem sound_empty : (empty : Registry LocalProducer ρ).Sound where
  links := rfl
  ids := List.nodup_nil
  handles := List.nodup_nil
  own := by simp [empty]
  issued := by simp [empty]

theorem contains_eq_true_iff {r : Registry π ρ} {id : SceneId} :
    r.contains id = true ↔ ∃ pair, r.find? id = some pair := by
  rw [contains, Option.isSome_iff_exists]

theorem contains_eq_false_iff {r : Registry π ρ} {id : SceneId} :
    r.contains id = false ↔ r.find? id = none := by
  rw [contains, Option.isSome_eq_false_iff, Option.isNone_iff_eq_none]

theorem contains_iff_mem {r : Registry π ρ} {id : SceneId} :
    r.contains id = true ↔ id ∈ r.pairs.map Prod.fst :=
  Table.lookup_isSome_iff

namespace Sound

variable {r : Registry LocalProducer ρ} {id id' : SceneId} {pair pair' : Pair ρ} {h : Handle}
  {s : Scene}

/-- The scene of a pair is there, and knows its names. -/
theorem exists_scene (sound : r.Sound) (found : r.find? id = some pair) :
    ∃ s, r.producer.view pair.handle = some s ∧ s.id = id ∧ s.handle = pair.handle := by
  have linked : (id, pair.handle) ∈ r.producer.links := by
    rw [← sound.links]
    exact List.mem_map_of_mem (Table.mem_of_lookup found)
  obtain ⟨⟨h, s⟩, held, same⟩ := List.mem_map.mp linked
  obtain ⟨rfl, rfl⟩ := Prod.mk.inj same
  exact ⟨s, (Table.lookup_eq_some_iff sound.handles).mpr held, rfl, sound.own _ held⟩

/-- A scene that is there belongs to a pair. -/
theorem exists_pair (sound : r.Sound) (shown : r.producer.view h = some s) :
    ∃ pair, r.find? s.id = some pair ∧ pair.handle = h := by
  have linked : (s.id, h) ∈ r.links := by
    rw [sound.links]
    exact List.mem_map_of_mem (Table.mem_of_lookup shown)
  obtain ⟨⟨id, pair⟩, held, same⟩ := List.mem_map.mp linked
  obtain ⟨rfl, rfl⟩ := Prod.mk.inj same
  exact ⟨pair, (Table.lookup_eq_some_iff sound.ids).mpr held, rfl⟩

/-- No handle serves two identities. -/
theorem id_of_handle (sound : r.Sound) (found : r.find? id = some pair)
    (found' : r.find? id' = some pair') (same : pair.handle = pair'.handle) : id = id' := by
  obtain ⟨s, shown, known, -⟩ := sound.exists_scene found
  obtain ⟨s', shown', known', -⟩ := sound.exists_scene found'
  rw [same, shown'] at shown
  rw [← known, ← known', Option.some.inj shown]

/-- The producer of a sound registry is one. -/
theorem producer (sound : r.Sound) : r.producer.Sound where
  ids := by
    have listed := congrArg (List.map Prod.fst) sound.links
    simp only [Registry.links, LocalProducer.links, List.map_map, Function.comp_def] at listed
    rw [← listed]
    exact sound.ids
  handles := sound.handles
  own := sound.own
  issued := sound.issued

/-- The producer looks an identity up by its scenes, and finds what is registered. -/
theorem find_isSome_iff (sound : r.Sound) :
    (r.producer.find id).isSome = r.contains id := by
  rw [Bool.eq_iff_iff, sound.producer.find_isSome_iff, contains_eq_true_iff]
  constructor
  · rintro ⟨h, s, shown, rfl⟩
    obtain ⟨pair, found, -⟩ := sound.exists_pair shown
    exact ⟨pair, found⟩
  · rintro ⟨pair, found⟩
    obtain ⟨s, shown, known, -⟩ := sound.exists_scene found
    exact ⟨pair.handle, s, shown, known⟩

theorem size_eq (sound : r.Sound) : r.size = r.producer.liveScenes := by
  have := congrArg List.length sound.links
  rwa [Registry.links, LocalProducer.links, List.length_map, List.length_map] at this

/-! ## Changes that keep a registry sound -/

/-- The counter of identities plays no part. -/
theorem withNextId (sound : r.Sound) (n : UInt32) : ({ r with nextId := n }).Sound :=
  ⟨sound.links, sound.ids, sound.handles, sound.own, sound.issued⟩

/-- A scene may come back changed in all but its names. -/
theorem giveBack (sound : r.Sound) (shown : r.producer.view h = some s) {s' : Scene}
    (id : s'.id = s.id) (handle : s'.handle = s.handle) :
    ({ r with producer := r.producer.giveBack h s' }).Sound where
  links := by
    rw [show Registry.links { r with producer := r.producer.giveBack h s' } = r.links from rfl,
      sound.links]
    simp only [LocalProducer.links, LocalProducer.giveBack, List.map_map]
    refine List.map_congr_left fun entry held => ?_
    by_cases here : entry.1 = h
    · subst here
      have : entry = (entry.1, s) :=
        List.inj_on_of_nodup_map sound.handles held (Table.mem_of_lookup shown) rfl
      rw [this]
      simp [id]
    · simp [here]
  ids := sound.ids
  handles := (sound.producer.giveBack shown id handle).handles
  own := (sound.producer.giveBack shown id handle).own
  issued := (sound.producer.giveBack shown id handle).issued

/-- A pair may get another routine. -/
theorem replaceRoutine (sound : r.Sound) (found : r.find? id = some pair) (routine : ρ) :
    ({ r with pairs := Table.replace r.pairs id { pair with routine } }).Sound where
  links := by
    rw [show r.producer.links = _ from sound.links.symm]
    simp only [Registry.links, Table.replace, List.map_map]
    refine List.map_congr_left fun entry held => ?_
    by_cases here : entry.1 = id
    · have : entry = (id, pair) :=
        List.inj_on_of_nodup_map sound.ids held (Table.mem_of_lookup found) here
      simp [this]
    · simp [here]
  ids := by
    rw [Table.keys_replace]
    exact sound.ids
  handles := sound.handles
  own := sound.own
  issued := sound.issued

/-- A handle may be issued for nothing. -/
theorem withIssued (sound : r.Sound) {n : UInt64} (more : r.producer.issued.toNat ≤ n.toNat) :
    ({ r with producer := { r.producer with issued := n } }).Sound where
  links := sound.links
  ids := sound.ids
  handles := sound.handles
  own := sound.own
  issued entry held := Nat.le_trans (sound.issued entry held) more

end Sound

end Registry

end SceneBench
