import SceneBench.Plan.Reading
import SceneBench.Proofs.Json.Respelling
import SceneBench.Proofs.Json.WellFormed

/-!
# The shapes of a plan

The five kinds of values with fields that a plan is made of are read by regular shapes: their fields
have different names, are read steadily and do not get in each other's way. Each of them takes a
value off the text, and every field that has a default can be given as what it is by default.
-/

namespace SceneBench

open Json (Field Literal Scan Shape Value)

/-! ## Fields -/

namespace Plan

theorem reliable_readPath : readPath.Reliable := (Scan.reliable_text _).map Path.mk

theorem reliable_readId : readId.Reliable := Scan.reliable_word32.map SceneId.mk

theorem reliable_readKind : readKind.Reliable := Scan.reliable_variant _ _

/-- The position of three components. -/
def position : List Scalar → Vec3
  | [x, y, z] => ⟨x, y, z⟩
  | _ => .zero

theorem readPosition_eq : readPosition = position <$> Scan.fixedList Scan.scalar 3 := by
  rw [map_eq_pure_bind, readPosition]
  congr 1
  funext all
  match all with
  | [] | [_] | [_, _] | [_, _, _] | _ :: _ :: _ :: _ :: _ => rfl

theorem reliable_readPosition : readPosition.Reliable := by
  rw [readPosition_eq]
  exact (Scan.reliable_scalar.fixedList 3).map position

end Plan

/-! ## Shapes -/

open Plan

theorem StorageSettings.reliable : ∀ f ∈ shape.fields, f.read.Reliable :=
  List.forall_mem_singleton.mpr (Field.reliable_of reliable_readPath)

theorem StorageSettings.reliable_read : shape.read.Reliable := Shape.reliable_read reliable

theorem StorageSettings.regular : shape.Regular where
  names := by decide
  steady f listed := (reliable f listed).steady
  apart := List.pairwise_singleton _ _

theorem SceneSettings.reliable : ∀ f ∈ shape.fields, f.read.Reliable :=
  List.forall_mem_singleton.mpr (Field.reliable_of (Scan.reliable_variant _ _))

theorem SceneSettings.reliable_read : shape.read.Reliable := Shape.reliable_read reliable

theorem SceneSettings.regular : shape.Regular where
  names := by decide
  steady f listed := (reliable f listed).steady
  apart := List.pairwise_singleton _ _

theorem SceneRequest.reliable : ∀ f ∈ shape.fields, f.read.Reliable := by
  simp only [shape, List.forall_mem_cons]
  refine ⟨?_, ?_, ?_, ?_, ?_, nofun⟩
  · exact Field.reliable_of reliable_readKind
  · exact Field.reliable_of Scan.reliable_word32
  · exact Field.reliable_of reliable_readPosition
  · exact Field.reliable_of reliable_readId.optional
  · exact Field.reliable_of SceneSettings.reliable_read

theorem SceneRequest.reliable_read : shape.read.Reliable := Shape.reliable_read reliable

theorem SceneRequest.regular : shape.Regular where
  names := by decide
  steady f listed := (reliable f listed).steady
  apart := by
    have kind := reliable_readKind.steady
    have state := Scan.reliable_word32.steady
    have camera := reliable_readPosition.steady
    have id := reliable_readId.optional.steady
    have config := SceneSettings.reliable_read.steady
    simp only [shape, List.pairwise_cons, List.forall_mem_cons]
    refine ⟨⟨?_, ?_, ?_, ?_, nofun⟩, ⟨?_, ?_, ?_, nofun⟩, ⟨?_, ?_, nofun⟩, ⟨?_, nofun⟩, nofun, .nil⟩
    all_goals exact Field.apart_of ‹_› ‹_› fun _ _ _ => rfl

theorem Transition.reliable : ∀ f ∈ shape.fields, f.read.Reliable := by
  simp only [shape, List.forall_mem_cons]
  refine ⟨?_, ?_, ?_, nofun⟩
  · exact Field.reliable_of reliable_readId
  · exact Field.reliable_of reliable_readKind
  · exact Field.reliable_of Scan.reliable_word32

theorem Transition.reliable_read : shape.read.Reliable := Shape.reliable_read reliable

theorem Transition.regular : shape.Regular where
  names := by decide
  steady f listed := (reliable f listed).steady
  apart := by
    have scene := reliable_readId.steady
    have kind := reliable_readKind.steady
    have state := Scan.reliable_word32.steady
    simp only [shape, List.pairwise_cons, List.forall_mem_cons]
    refine ⟨⟨?_, ?_, nofun⟩, ⟨?_, nofun⟩, nofun, .nil⟩
    all_goals exact Field.apart_of ‹_› ‹_› fun _ _ _ => rfl

theorem reliable_scenes : (Scan.list SceneRequest.shape.read).Reliable :=
  SceneRequest.reliable_read.list

theorem reliable_transitions : (Scan.list Transition.shape.read).Reliable :=
  Transition.reliable_read.list

theorem Plan.reliable : ∀ f ∈ shape.fields, f.read.Reliable := by
  simp only [shape, List.forall_mem_cons]
  refine ⟨?_, ?_, ?_, ?_, nofun⟩
  · exact Field.reliable_of StorageSettings.reliable_read
  · exact Field.reliable_of reliable_scenes
  · exact Field.reliable_of reliable_transitions
  · exact Field.reliable_of reliable_readPath.optional

theorem Plan.reliable_read : shape.read.Reliable := Shape.reliable_read reliable

theorem Plan.regular : shape.Regular where
  names := by decide
  steady f listed := (reliable f listed).steady
  apart := by
    have storage := StorageSettings.reliable_read.steady
    have scenes := reliable_scenes.steady
    have transitions := reliable_transitions.steady
    have output := reliable_readPath.optional.steady
    simp only [shape, List.pairwise_cons, List.forall_mem_cons]
    refine ⟨⟨?_, ?_, ?_, nofun⟩, ⟨?_, ?_, nofun⟩, ⟨?_, nofun⟩, nofun, .nil⟩
    all_goals exact Field.apart_of ‹_› ‹_› fun _ _ _ => rfl

/-! ## Defaults -/

theorem Json.Shape.spellsDefault_of {α β : Type} {s : Shape α} {name : String} {read : Scan β}
    {put : β → α → α} {v : Value} {b : β} (reliable : read.Reliable)
    (means : read.meaning v = some b) (kept : put b s.blank = s.blank) :
    s.SpellsDefault (.of name read put) v := by
  refine ⟨rfl, put b, ?_, kept⟩
  rw [Field.meaning_of reliable.steady, means]
  rfl

/-- The default of every field that has one can be spelled out. -/
def Json.Shape.SpellsDefaults {α : Type} (s : Shape α) : Prop :=
  ∀ f ∈ s.fields, f.isRequired = false → ∃ v, s.SpellsDefault f v

theorem StorageSettings.spellsDefaults : shape.SpellsDefaults := by
  simp only [Shape.SpellsDefaults, shape, List.forall_mem_cons]
  refine ⟨fun _ => ⟨.string (.ofPlain (Utf8.encode "scenes")), ?_⟩, nofun⟩
  exact Shape.spellsDefault_of reliable_readPath (b := ⟨"scenes"⟩) (by decide +kernel) rfl

theorem SceneSettings.spellsDefaults : shape.SpellsDefaults := by
  simp only [Shape.SpellsDefaults, shape, List.forall_mem_cons]
  refine ⟨fun _ => ⟨.string (.ofPlain (Utf8.encode (Publication.tag .localOnly))), ?_⟩, nofun⟩
  exact Shape.spellsDefault_of (Scan.reliable_variant _ _) (by decide +kernel) rfl

theorem SceneRequest.spellsDefaults : shape.SpellsDefaults := by
  simp only [Shape.SpellsDefaults, shape, List.forall_mem_cons]
  refine ⟨nofun, fun _ => ⟨.number .zero, ?_⟩,
    fun _ => ⟨.list (List.replicate 3 (.number .zero)), ?_⟩, fun _ => ⟨.null, ?_⟩,
    fun _ => ⟨.object [], ?_⟩, nofun⟩
  · exact Shape.spellsDefault_of Scan.reliable_word32 rfl rfl
  · exact Shape.spellsDefault_of reliable_readPosition (b := .zero) rfl rfl
  · exact Shape.spellsDefault_of reliable_readId.optional rfl rfl
  · exact Shape.spellsDefault_of SceneSettings.reliable_read rfl rfl

theorem Plan.spellsDefaults : shape.SpellsDefaults := by
  simp only [Shape.SpellsDefaults, shape, List.forall_mem_cons]
  refine ⟨fun _ => ⟨.object [], ?_⟩, fun _ => ⟨.list [], ?_⟩, fun _ => ⟨.list [], ?_⟩,
    fun _ => ⟨.null, ?_⟩, nofun⟩
  · exact Shape.spellsDefault_of StorageSettings.reliable_read rfl rfl
  · exact Shape.spellsDefault_of reliable_scenes rfl rfl
  · exact Shape.spellsDefault_of reliable_transitions rfl rfl
  · exact Shape.spellsDefault_of reliable_readPath.optional rfl rfl

end SceneBench
