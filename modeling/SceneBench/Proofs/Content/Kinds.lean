import SceneBench.Content

/-!
# The states of the kinds

Every kind has its states, numbered from zero, and nothing is shown in any other. What is shown in
each of them is written out here one by one, with the sponges as they grow from nothing.
-/

namespace SceneBench.Kind

variable {kind : Kind} {state : UInt32} {boxes : List BoxRecord}

/-- How many states a kind has. -/
def states : Kind → Nat
  | boxGrid | fractal => 4
  | walls | fileLoading => 2

/-- What a scene of a kind shows in each of its states. -/
inductive Shows : Kind → UInt32 → List BoxRecord → Prop
  | grid : Shows .boxGrid 0 (Grid.boxes 4 2 0.4)
  | denseGrid : Shows .boxGrid 1 (Grid.boxes 10 1.5 0.4)
  | nothing : Shows .boxGrid 2 []
  | travellers :
      Shows .boxGrid 3 (Grid.boxes 4 2 0.4 ++
        [ .travelling ⟨3, 3, 3⟩ ⟨0, 2, -15⟩ ⟨0, 12, -15⟩ ⟨1, 0.1, 0.1⟩,
          .travelling ⟨2, 2, 2⟩ ⟨-8, 3, -12⟩ ⟨8, 3, -12⟩ ⟨0.1, 1, 0.1⟩ ])
  | lowWalls : Shows .walls 0 (Walls.boxes 2)
  | highWalls : Shows .walls 1 (Walls.boxes 6)
  | sponge (depth : UInt32) :
      depth ≤ 3 → Shows .fractal depth (Sponge.grow depth.toNat ⟨0, 9 * 0.5, 0⟩ 9 0 #[]).toList
  | cube : Shows .fileLoading 0 [.cube ⟨0, 0, 0⟩ 2 ⟨0.9, 0.4, 0.1⟩]
  | row :
      Shows .fileLoading 1 ((List.range 5).map fun i =>
        .cube ⟨(Scalar.ofNat i - 2) * 3, 0, 0⟩ 2 ⟨0.1, 0.4 + Scalar.ofNat i * 0.1, 0.9⟩)

theorem content_eq_some_iff : kind.content state = some boxes ↔ kind.Shows state boxes := by
  constructor
  · cases kind with
    | boxGrid =>
        show Content.boxGrid state = some boxes → _
        fun_cases Content.boxGrid state <;> rintro ⟨⟩ <;> constructor
    | walls =>
        show (Content.wallLayers state).map Walls.boxes = some boxes → _
        fun_cases Content.wallLayers state <;> rintro ⟨⟩ <;> constructor
    | fractal =>
        show Content.fractal state = some boxes → _
        fun_cases Content.fractal state <;> rintro ⟨⟩
        exact .sponge state ‹_›
    | fileLoading =>
        show Content.fileLoading state = some boxes → _
        fun_cases Content.fileLoading state <;> rintro ⟨⟩ <;> constructor
  · intro shows
    cases shows with
    | sponge depth known => exact if_pos known
    | _ => rfl

/-- The states of a kind are the numbers below some number. -/
theorem exists_shows_iff : (∃ boxes, kind.Shows state boxes) ↔ state.toNat < kind.states := by
  constructor
  · rintro ⟨boxes, shows⟩
    cases shows with
    | sponge depth few => exact Nat.lt_succ_of_le (UInt32.le_iff_toNat_le.mp few)
    | _ => decide
  · intro few
    rw [← UInt32.ofNat_toNat (x := state)]
    generalize state.toNat = n at few
    match kind, n, few with
    | .boxGrid, 0, _ => exact ⟨_, .grid⟩
    | .boxGrid, 1, _ => exact ⟨_, .denseGrid⟩
    | .boxGrid, 2, _ => exact ⟨_, .nothing⟩
    | .boxGrid, 3, _ => exact ⟨_, .travellers⟩
    | .walls, 0, _ => exact ⟨_, .lowWalls⟩
    | .walls, 1, _ => exact ⟨_, .highWalls⟩
    | .fractal, 0, _ | .fractal, 1, _ | .fractal, 2, _ | .fractal, 3, _ =>
        exact ⟨_, .sponge _ (by decide)⟩
    | .fileLoading, 0, _ => exact ⟨_, .cube⟩
    | .fileLoading, 1, _ => exact ⟨_, .row⟩

theorem exists_content_iff :
    (∃ boxes, kind.content state = some boxes) ↔ state.toNat < kind.states := by
  simp only [content_eq_some_iff, exists_shows_iff]

theorem content_eq_none_iff : kind.content state = none ↔ kind.states ≤ state.toNat := by
  rw [← Nat.not_lt, ← exists_content_iff]
  exact Option.eq_none_iff_forall_ne_some.trans not_exists.symm

end SceneBench.Kind
