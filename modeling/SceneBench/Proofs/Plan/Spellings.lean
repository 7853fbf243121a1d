import Mathlib.Logic.Relation
import SceneBench.Proofs.Plan.Shapes

/-!
# Plans in other spellings

A plan does not depend on how its text is spelled. A text that is read as a plan can be changed step
by step, in the plan itself, its settings, its scenes and its transitions, and is still read as that
plan. And wherever the kind of a scene is missing, or any part of a transition, no spelling helps.
-/

namespace SceneBench

open Json (Field Literal Scan Shape Spells Value)

/-! ## Other spellings -/

/-- One step from a spelling of storage settings to another. -/
def StorageSettings.Respells : Value → Value → Prop := shape.Respells fun _ _ _ => False

def SceneSettings.Respells : Value → Value → Prop := shape.Respells fun _ _ _ => False

/-- One step from a spelling of a scene to another, in the scene itself or in its settings. -/
def SceneRequest.Respells : Value → Value → Prop :=
  shape.Respells fun f v v' => f.name = "config" ∧ SceneSettings.Respells v v'

def Transition.Respells : Value → Value → Prop := shape.Respells fun _ _ _ => False

/-- One step from a spelling of a plan to another, in the plan itself or in one of its parts. -/
def Plan.Respells : Value → Value → Prop :=
  shape.Respells fun f v v' =>
    f.name = "framework" ∧ StorageSettings.Respells v v' ∨
    f.name = "scenes" ∧ Json.RespellsItem SceneRequest.Respells v v' ∨
    f.name = "transitions" ∧ Json.RespellsItem Transition.Respells v v'

theorem StorageSettings.keeps : shape.read.Keeps Respells :=
  regular.keeps fun _ _ _ _ _ => False.elim

theorem SceneSettings.keeps : shape.read.Keeps Respells :=
  regular.keeps fun _ _ _ _ _ => False.elim

theorem Transition.keeps : shape.read.Keeps Respells :=
  regular.keeps fun _ _ _ _ _ => False.elim

theorem SceneRequest.keeps : shape.read.Keeps Respells := by
  apply regular.keeps
  intro f listed v v' change step means
  have config : shape.fields[4] ∈ shape.fields := List.getElem_mem _
  have keeps : shape.fields[4].read.Keeps SceneSettings.Respells :=
    Field.keeps_of SceneSettings.reliable_read.steady SceneSettings.keeps
  exact regular.keeps_of_name config keeps listed step means

theorem Plan.keeps : shape.read.Keeps Respells := by
  apply regular.keeps
  intro f listed v v' change step means
  rcases step with step | step | step
  · have framework : shape.fields[0] ∈ shape.fields := List.getElem_mem _
    have keeps : shape.fields[0].read.Keeps StorageSettings.Respells :=
      Field.keeps_of StorageSettings.reliable_read.steady StorageSettings.keeps
    exact regular.keeps_of_name framework keeps listed step means
  · have scenes : shape.fields[1] ∈ shape.fields := List.getElem_mem _
    have keeps : shape.fields[1].read.Keeps (Json.RespellsItem SceneRequest.Respells) :=
      Field.keeps_of reliable_scenes.steady
        (.list SceneRequest.reliable_read.steady SceneRequest.keeps)
    exact regular.keeps_of_name scenes keeps listed step means
  · have transitions : shape.fields[2] ∈ shape.fields := List.getElem_mem _
    have keeps : shape.fields[2].read.Keeps (Json.RespellsItem Transition.Respells) :=
      Field.keeps_of reliable_transitions.steady
        (.list Transition.reliable_read.steady Transition.keeps)
    exact regular.keeps_of_name transitions keeps listed step means

/-! ## Texts -/

namespace Plan

/-- One step from a text to another: what it spells is spelled in another way, or in the same way
with other blanks between its tokens. -/
def RespellsText (text text' : String) : Prop :=
  ∃ v v', Spells v text ∧ Spells v' text' ∧ (v = v' ∨ Respells v v')

/-- Somewhere in a plan the kind of a scene or a part of a transition is missing, in the form of an
object or of a list. -/
inductive LacksPart : Value → Prop
  | scene {v scene : Value} {scenes : List Value} (has : shape.Has "scenes" (.list scenes) v)
      (inside : scene ∈ scenes) (lacks : SceneRequest.shape.Lacks "kind" scene) : LacksPart v
  | transition {v transition : Value} {transitions : List Value} {name : String}
      (has : shape.Has "transitions" (.list transitions) v) (inside : transition ∈ transitions)
      (required : name ∈ ["scene", "kind", "state"])
      (lacks : Transition.shape.Lacks name transition) : LacksPart v

theorem RespellsText.ofText {text text' : String} {plan : Plan} (step : RespellsText text text')
    (ok : ofText text = .ok plan) : ofText text' = .ok plan := by
  obtain ⟨v, v', spells, spells', same | step⟩ := step
  · subst same
    exact (reliable_read.document_eq_ok_iff spells').mpr
      ((reliable_read.document_eq_ok_iff spells).mp ok)
  · have means := (reliable_read.document_eq_ok_iff spells).mp ok
    exact (reliable_read.document_eq_ok_iff spells').mpr (keeps v v' plan step means)

/-- Every item of a list that is a part of a plan is read. -/
theorem exists_meaning_of_item {α : Type} {read : Scan α} {put : List α → Plan → Plan}
    {name : String} {v item : Value} {items : List Value} {plan : Plan} (reliable : read.Reliable)
    (listed : .of name (.list read) put ∈ shape.fields) (has : shape.Has name (.list items) v)
    (inside : item ∈ items) (means : shape.read.meaning v = some plan) :
    ∃ a, read.meaning item = some a := by
  obtain ⟨change, part⟩ := regular.exists_meaning_of_has listed has means
  rw [Field.meaning_of reliable.list.steady, Option.map_eq_some_iff] at part
  obtain ⟨all, part, -⟩ := part
  exact reliable.steady.exists_meaning_of_mem part inside

theorem LacksPart.meaning {v : Value} (lacks : LacksPart v) : shape.read.meaning v = none := by
  rw [Option.eq_none_iff_forall_ne_some]
  intro plan means
  cases lacks with
  | scene has inside lacks =>
      have listed : shape.fields[1] ∈ shape.fields := List.getElem_mem _
      obtain ⟨a, means⟩ := exists_meaning_of_item SceneRequest.reliable_read listed has inside means
      have kind : SceneRequest.shape.fields[0] ∈ SceneRequest.shape.fields := List.getElem_mem _
      cases means.symm.trans (SceneRequest.regular.meaning_of_lacks kind rfl lacks)
  | transition has inside required lacks =>
      have listed : shape.fields[2] ∈ shape.fields := List.getElem_mem _
      obtain ⟨a, means⟩ := exists_meaning_of_item Transition.reliable_read listed has inside means
      have all : ∀ name ∈ ["scene", "kind", "state"], ∃ f ∈ Transition.shape.fields,
          f.name = name ∧ f.isRequired = true := by decide
      obtain ⟨f, part, rfl, isRequired⟩ := all _ required
      cases means.symm.trans (Transition.regular.meaning_of_lacks part isRequired lacks)

/-! ## A scene in two forms -/

/-- The scenes of a plan, and nothing else of it. -/
def onlyScenes (scenes : List Value) : Value :=
  .object [(.ofPlain (Utf8.encode "scenes"), .list scenes)]

/-- The kind of a scene, and nothing else of it. -/
def onlyKind (kind : Value) : Value := .object [(.ofPlain (Utf8.encode "kind"), kind)]

theorem text?_scenes : Literal.text? (.ofPlain (Utf8.encode "scenes")) = some "scenes" := by
  decide +kernel

theorem text?_kind : Literal.text? (.ofPlain (Utf8.encode "kind")) = some "kind" := by
  decide +kernel

/-- A scene of which only the kind is given can be given as a list of it. -/
theorem respells_onlyKind (kind : Value) :
    SceneRequest.Respells (onlyKind kind) (.list [kind]) := by
  refine .list ⟨Nat.le_add_left 1 4, fun i f v field item => ?_, fun i f field item => ?_⟩
  · match i with
    | 0 =>
        cases field
        cases item
        exact .inl ⟨_, List.mem_singleton_self _, text?_kind⟩
    | i + 1 => cases item
  · match i with
    | 0 => cases item
    | 1 | 2 | 3 | 4 =>
        cases field
        refine ⟨rfl, fun m inside named => ?_⟩
        obtain rfl := List.mem_singleton.mp inside
        exact absurd (Option.some.inj (text?_kind.symm.trans named)) (by decide)
    | i + 5 => cases field

theorem respells_onlyScenes {scene scene' : Value} (step : SceneRequest.Respells scene scene') :
    Respells (onlyScenes [scene]) (onlyScenes [scene']) := by
  have listed : shape.fields[1] ∈ shape.fields := List.getElem_mem _
  have item : Json.RespellsItem SceneRequest.Respells (.list ([] ++ scene :: []))
      (.list ([] ++ scene' :: [])) := .mk step
  let key : Literal := .ofPlain (Utf8.encode "scenes")
  have whole : Respells (.object ([] ++ (key, .list [scene]) :: []))
      (.object ([] ++ (key, .list [scene']) :: [])) :=
    .member listed text?_scenes (.inr (.inl ⟨rfl, item⟩))
  exact whole

/-! ## Any spelling -/

/-- A plan is the same however its text is spelled, and where the kind of a scene or a part of a
transition is missing no spelling is read. -/
theorem any_spelling :
    (∀ text plan, ofText text = .ok plan →
      (∃ v, Spells v text) ∧
        ∀ text', Relation.ReflTransGen RespellsText text text' → ofText text' = .ok plan) ∧
    ∀ text v, Spells v text → LacksPart v → ∃ failure, ofText text = .error failure := by
  constructor
  · intro text plan ok
    refine ⟨reliable_read.spells ok, fun text' steps => ?_⟩
    induction steps with
    | refl => exact ok
    | tail _ step ih => exact step.ofText ih
  · intro text v spells lacks
    cases result : ofText text with
    | error failure => exact ⟨failure, rfl⟩
    | ok plan =>
        have means := (reliable_read.document_eq_ok_iff spells).mp result
        cases lacks.meaning.symm.trans means

theorem any_spelling_onlyKind :
    ofText "\x7b\"scenes\":[[\"box_grid\"]]\x7d" = .ok { scenes := [{ kind := .boxGrid }] } ∧
      ∃ failure, ofText "\x7b\"scenes\":[\x7b\x7d]\x7d" = .error failure := by
  constructor
  · let kind : Value := .string (.ofPlain (Utf8.encode "box_grid"))
    have spells : Spells (onlyScenes [onlyKind kind])
        "\x7b\"scenes\":[\x7b\"kind\":\"box_grid\"\x7d]\x7d" :=
      Json.spells_compact (by decide +kernel)
    have spells' : Spells (onlyScenes [.list [kind]]) "\x7b\"scenes\":[[\"box_grid\"]]\x7d" :=
      Json.spells_compact (by decide +kernel)
    have means : shape.read.meaning (onlyScenes [onlyKind kind]) =
        some { scenes := [{ kind := .boxGrid }] } := by decide +kernel
    have ok := (reliable_read.document_eq_ok_iff spells).mpr means
    apply (any_spelling.1 _ _ ok).2
    apply Relation.ReflTransGen.single
    exact ⟨_, _, spells, spells', .inr (respells_onlyScenes (respells_onlyKind kind))⟩
  · apply any_spelling.2 _ (onlyScenes [.object []]) (Json.spells_compact (by decide +kernel))
    have has : shape.Has "scenes" (.list [.object []]) (onlyScenes [.object []]) :=
      ⟨_, List.mem_singleton_self _, text?_scenes⟩
    exact .scene has (List.mem_singleton_self _) (List.forall_mem_nil _)

end Plan

end SceneBench
