import SceneBench.Proofs.Table
import SceneBench.Scene.Producer

/-!
# The scenes of the local producer

Scenes are kept by handle and searched by identity. The search is worth something only because no
two scenes have the same identity, and then it does not matter in which order the table is. Every
scene is under its own handle, and the handles are counted, so the next one is new. This is what a
producer keeps, whoever uses it, as long as handles are left.
-/

namespace SceneBench.LocalProducer

variable {p q : LocalProducer} {id : SceneId} {h : Handle} {s s' : Scene}

/-! ## The next scene -/

/-- The handle that is issued next. -/
def nextHandle (p : LocalProducer) : Handle := ⟨p.issued + 1⟩

/-- The scene that is made next. -/
def newScene (p : LocalProducer) (id : SceneId) (settings : SceneSettings) : Scene :=
  { id, handle := p.nextHandle, settings }

/-- The producer after a handle was issued whose scene is gone again. -/
def spend (p : LocalProducer) : LocalProducer := { p with issued := p.issued + 1 }

/-- The producer after a scene was made. -/
def add (p : LocalProducer) (s : Scene) : LocalProducer :=
  { scenes := p.scenes ++ [(p.nextHandle, s)], issued := p.issued + 1 }

/-- As long as handles are left they are counted one by one. -/
theorem toNat_issued_add_one (left : p.issued.toNat + 1 < 2 ^ 64) :
    (p.issued + 1).toNat = p.issued.toNat + 1 := by
  rw [UInt64.toNat_add, UInt64.toNat_one, Nat.mod_eq_of_lt left]

theorem create_of_unused (unused : (p.find id).isSome = false) (settings : SceneSettings) :
    p.create id settings = (.ok p.nextHandle, p.add (p.newScene id settings)) := by
  simp [create, unused, add, newScene, nextHandle]

section New

variable (new : p.nextHandle ∉ p.scenes.map Prod.fst)
include new

theorem view_add (s : Scene) : (p.add s).view p.nextHandle = some s := by
  rw [view, add, Table.lookup_append_singleton, Table.lookup_eq_none_iff.mpr new]
  simp

theorem giveBack_add (s s' : Scene) : (p.add s).giveBack p.nextHandle s' = p.add s' := by
  show LocalProducer.mk (Table.replace (p.scenes ++ [(p.nextHandle, s)]) p.nextHandle s') _ = _
  rw [Table.replace_append_singleton new]
  rfl

/-- Releasing the scene that was made last leaves a handle spent. -/
theorem release_add (s : Scene) : ((p.add s).release p.nextHandle).2 = p.spend := by
  show LocalProducer.mk (Table.erase (p.scenes ++ [(p.nextHandle, s)]) p.nextHandle) _ = _
  rw [Table.erase_append_singleton new]
  rfl

end New

/-! ## The scenes that are held -/

/-- A search by something in which the elements differ finds the one that has it, wherever it is. -/
theorem find?_eq_some_iff_of_nodup {α κ : Type} [DecidableEq κ] {key : α → κ} {l : List α}
    (keys : (l.map key).Nodup) (k : κ) (a : α) :
    l.find? (fun x => key x = k) = some a ↔ a ∈ l ∧ key a = k := by
  constructor
  · intro found
    exact ⟨List.mem_of_find?_eq_some found, by simpa using List.find?_some found⟩
  · rintro ⟨held, has⟩
    obtain ⟨b, found⟩ : ∃ b, l.find? (fun x => key x = k) = some b :=
      Option.isSome_iff_exists.mp (List.find?_isSome.mpr ⟨a, held, by simpa using has⟩)
    have has' : key b = k := by simpa using List.find?_some found
    rw [found, List.inj_on_of_nodup_map keys (List.mem_of_find?_eq_some found) held
      (has'.trans has.symm)]

/-- Every scene is held once, under its own handle, and this handle was issued. -/
structure Sound (p : LocalProducer) : Prop where
  ids : (p.scenes.map fun entry => entry.2.id).Nodup
  handles : (p.scenes.map Prod.fst).Nodup
  own : ∀ entry ∈ p.scenes, entry.2.handle = entry.1
  issued : ∀ entry ∈ p.scenes, entry.1.value.toNat ≤ p.issued.toNat

/-- The same scenes, in another order perhaps. -/
structure Same (q p : LocalProducer) : Prop where
  scenes : q.scenes.Perm p.scenes
  issued : q.issued = p.issued

/-- Some live scene has the identity. -/
def Live (p : LocalProducer) (id : SceneId) : Prop := ∃ h s, p.view h = some s ∧ s.id = id

theorem sound_new : Sound {} where
  ids := List.nodup_nil
  handles := List.nodup_nil
  own := by simp
  issued := by simp

namespace Sound

theorem view_eq_some_iff (sound : p.Sound) : p.view h = some s ↔ (h, s) ∈ p.scenes :=
  Table.lookup_eq_some_iff sound.handles

theorem of_same (sound : p.Sound) (same : q.Same p) : q.Sound where
  ids := (same.scenes.map _).nodup_iff.mpr sound.ids
  handles := (same.scenes.map _).nodup_iff.mpr sound.handles
  own entry held := sound.own entry (same.scenes.mem_iff.mp held)
  issued entry held := by
    rw [same.issued]
    exact sound.issued entry (same.scenes.mem_iff.mp held)

theorem view_same (sound : p.Sound) (same : q.Same p) (h : Handle) : q.view h = p.view h := by
  ext s
  rw [sound.view_eq_some_iff, (sound.of_same same).view_eq_some_iff, same.scenes.mem_iff]

/-- The search by identity finds the handle under which the scene is. -/
theorem find_eq_some_iff (sound : p.Sound) :
    p.find id = some h ↔ ∃ s, p.view h = some s ∧ s.id = id := by
  have searched (entry : Handle × Scene) := find?_eq_some_iff_of_nodup sound.ids id entry
  simp only [find, Option.map_eq_some_iff, searched, sound.view_eq_some_iff]
  constructor
  · rintro ⟨⟨h', s⟩, ⟨held, known⟩, handle⟩
    rw [← handle, sound.own _ held]
    exact ⟨s, held, known⟩
  · rintro ⟨s, held, known⟩
    exact ⟨(h, s), ⟨held, known⟩, sound.own _ held⟩

theorem find_same (sound : p.Sound) (same : q.Same p) (id : SceneId) : q.find id = p.find id := by
  ext h
  simp only [sound.find_eq_some_iff, (sound.of_same same).find_eq_some_iff,
    sound.view_same same]

theorem find_isSome_iff (sound : p.Sound) : (p.find id).isSome = true ↔ p.Live id := by
  simp only [Option.isSome_iff_exists, sound.find_eq_some_iff, Live]

/-! ## Changes that keep a producer sound -/

theorem nextHandle_unused (sound : p.Sound) (left : p.issued.toNat + 1 < 2 ^ 64) :
    p.nextHandle ∉ p.scenes.map Prod.fst := by
  intro used
  obtain ⟨entry, held, same⟩ := List.mem_map.mp used
  have bound := sound.issued entry held
  rw [same, nextHandle, toNat_issued_add_one left] at bound
  omega

/-- A scene that is added has to know the handle that it is given. -/
theorem add (sound : p.Sound) (left : p.issued.toNat + 1 < 2 ^ 64) (unused : ¬ p.Live s.id)
    (handle : s.handle = p.nextHandle) : (p.add s).Sound where
  ids := by
    rw [LocalProducer.add, List.map_append, List.map_singleton, ← List.concat_eq_append]
    refine sound.ids.concat fun used => unused ?_
    obtain ⟨entry, held, known⟩ := List.mem_map.mp used
    exact ⟨entry.1, entry.2, sound.view_eq_some_iff.mpr held, known⟩
  handles := by
    rw [LocalProducer.add, List.map_append, List.map_singleton, ← List.concat_eq_append]
    exact sound.handles.concat (sound.nextHandle_unused left)
  own := by
    intro entry held
    rcases List.mem_append.mp held with held | held
    · exact sound.own entry held
    · rw [List.mem_singleton.mp held]
      exact handle
  issued := by
    intro entry held
    have count := toNat_issued_add_one left
    show entry.1.value.toNat ≤ (p.issued + 1).toNat
    rcases List.mem_append.mp held with held | held
    · have := sound.issued entry held
      omega
    · rw [List.mem_singleton.mp held]
      exact Nat.le_refl _

theorem release (sound : p.Sound) (h : Handle) : (p.release h).2.Sound where
  ids := sound.ids.sublist (List.filter_sublist.map _)
  handles := sound.handles.sublist (List.filter_sublist.map _)
  own entry held := sound.own entry (List.mem_of_mem_filter held)
  issued entry held := sound.issued entry (List.mem_of_mem_filter held)

/-- A scene may come back changed in all but its names. -/
theorem giveBack (sound : p.Sound) (shown : p.view h = some s) (id : s'.id = s.id)
    (handle : s'.handle = s.handle) : (p.giveBack h s').Sound := by
  obtain ⟨before, behind, all, -, replaced⟩ := Table.split_of_lookup sound.handles shown
  have given : p.giveBack h s' = ⟨before ++ (h, s') :: behind, p.issued⟩ :=
    congrArg (LocalProducer.mk · p.issued) (replaced s')
  obtain ⟨ids, handles, own, issued⟩ := sound
  rw [all] at ids handles own issued
  rw [given]
  constructor
  case ids => simpa [id] using ids
  case handles => simpa using handles
  case own => simpa [or_imp, forall_and, handle] using own
  case issued => simpa [or_imp, forall_and] using issued

end Sound

end SceneBench.LocalProducer
