import SceneBench.Proofs.Registry.StateChange
import SceneBench.Run

/-!
# What a registry shows

Under an identity a registry shows a scene together with the routine that drives it. That is all
that a summary is about, and it says nothing about handles. A creation adds to what is shown and
takes nothing away; a change of state concerns what is shown under one identity.
-/

namespace SceneBench.Registry

variable {r r' : SceneRegistry LocalProducer} {id id' : SceneId} {routine : StandardRoutine}
  {s : Scene}

/-- Under an identity there is a scene, and a routine that drives it. -/
def Shows (r : SceneRegistry LocalProducer) (id : SceneId) (routine : StandardRoutine)
    (s : Scene) : Prop :=
  ∃ h, r.find? id = some ⟨h, routine⟩ ∧ r.producer.view h = some s

/-- A summary tells what is shown. -/
theorem Shows.capture (shows' : r.Shows id routine s) :
    Summary.capture r id = .ok (.ofScene id routine.kind routine.state s) := by
  obtain ⟨h, found, shown⟩ := shows'
  rw [Summary.capture, scene_of_view found shown, Registry.kind, Registry.state, found]
  rfl

/-- A creation that came off shows the new scene. -/
theorem Sound.shows_afterCreation (sound : r.Sound)
    (left : r.producer.issued.toNat + 1 < 2 ^ 64) {chosen : Option SceneId}
    (free : r.contains (r.chooseId chosen).1 = false) (routine : StandardRoutine) (s : Scene) :
    (r.afterCreation chosen routine s).Shows (r.chooseId chosen).1 routine s := by
  have unused : r.pairs.lookup (r.chooseId chosen).1 = none := contains_eq_false_iff.mp free
  refine ⟨r.producer.nextHandle, ?_, LocalProducer.view_add (sound.nextHandle_unused left) s⟩
  rw [find?, Registry.afterCreation, Table.lookup_append_singleton, unused]
  simp

/-- A creation that came off shows all scenes that were shown before. -/
theorem Shows.afterCreation (shows' : r.Shows id routine s) (chosen : Option SceneId)
    (routine' : StandardRoutine) (s' : Scene) :
    (r.afterCreation chosen routine' s').Shows id routine s := by
  obtain ⟨h, found, shown⟩ := shows'
  refine ⟨h, ?_, ?_⟩
  · rw [find?, Registry.afterCreation, Table.lookup_append_singleton,
      show r.pairs.lookup id = _ from found]
    rfl
  · refine Table.lookup_append_singleton.trans ?_
    rw [show r.producer.scenes.lookup h = _ from shown]
    rfl

/-- The scene that was moved shows the new content. -/
theorem Moved.shows {state : UInt32} {boxes : List BoxRecord} (moved : r.Moved r' id state boxes)
    (shows' : r.Shows id routine s) :
    r'.Shows id (routine.withState state) { s with boxes, flushes := s.flushes + 1 } := by
  obtain ⟨h, found, shown⟩ := shows'
  obtain ⟨pair, t, found', shown', after, content, -⟩ := moved.target
  obtain rfl := Option.some.inj (found.symm.trans found')
  obtain rfl := Option.some.inj (shown.symm.trans shown')
  exact ⟨h, after, content⟩

/-- Scenes that were not moved show what they showed. -/
theorem Moved.shows_other {state : UInt32} {boxes : List BoxRecord} (sound : r.Sound)
    (moved : r.Moved r' id state boxes) (shows' : r.Shows id' routine s) (other : id' ≠ id) :
    r'.Shows id' routine s := by
  obtain ⟨h, found, shown⟩ := shows'
  obtain ⟨pair, t, found', -, -, -, elsewhere⟩ := moved.target
  refine ⟨h, (moved.others id' other).trans found, (elsewhere h ?_).trans shown⟩
  exact fun same => other (sound.id_of_handle found found' same)

end SceneBench.Registry
