import SceneBench.Content.Grid
import SceneBench.Content.Walls
import SceneBench.Content.Sponge

/-!
# What the states of a scene show

There are four kinds of test scenes, each with a few numbered states. What a scene shows depends on
its kind and its state alone; a state that a kind does not have shows nothing at all.
-/

namespace SceneBench

/-- The four kinds of test scenes. -/
inductive Kind where
  | boxGrid
  | walls
  | fractal
  | fileLoading
  deriving DecidableEq, Repr

namespace Kind

/-- The name of a kind in messages. -/
def title : Kind → String
  | boxGrid => "BoxGrid"
  | walls => "Walls"
  | fractal => "Fractal"
  | fileLoading => "FileLoading"

/-- The name of a kind in documents. -/
def tag : Kind → String
  | boxGrid => "box_grid"
  | walls => "walls"
  | fractal => "fractal"
  | fileLoading => "file_loading"

def all : List Kind := [boxGrid, walls, fractal, fileLoading]

end Kind

namespace Content

/-- A default grid, a dense one, nothing, and the default grid with two travelling boxes. -/
def boxGrid : UInt32 → Option (List BoxRecord)
  | 0 => some (Grid.boxes 4 2 0.4)
  | 1 => some (Grid.boxes 10 1.5 0.4)
  | 2 => some []
  | 3 =>
    some (Grid.boxes 4 2 0.4 ++
      [ .travelling (.splat 3) ⟨0, 2, -15⟩ ⟨0, 12, -15⟩ ⟨1, 0.1, 0.1⟩,
        .travelling (.splat 2) ⟨-8, 3, -12⟩ ⟨8, 3, -12⟩ ⟨0.1, 1, 0.1⟩ ])
  | _ => none

/-- The height of the walls, in layers. -/
def wallLayers : UInt32 → Option Nat
  | 0 => some 2
  | 1 => some 6
  | _ => none

def walls (state : UInt32) : Option (List BoxRecord) := (wallLayers state).map Walls.boxes

/-- The sponge whose depth is the state. -/
def fractal (state : UInt32) : Option (List BoxRecord) :=
  if state ≤ Sponge.deepest then some (Sponge.cubes state.toNat Sponge.center Sponge.edge 0)
  else none

/-- One cube, and a row of five. -/
def fileLoading : UInt32 → Option (List BoxRecord)
  | 0 => some [.cube .zero 2 ⟨0.9, 0.4, 0.1⟩]
  | 1 =>
    some ((List.range 5).map fun i =>
      .cube ⟨(Scalar.ofNat i - 2) * 3, 0, 0⟩ 2 ⟨0.1, 0.4 + Scalar.ofNat i * 0.1, 0.9⟩)
  | _ => none

end Content

/-- What a scene of a kind shows in a state. -/
def Kind.content : Kind → UInt32 → Option (List BoxRecord)
  | boxGrid => Content.boxGrid
  | walls => Content.walls
  | fractal => Content.fractal
  | fileLoading => Content.fileLoading

end SceneBench
