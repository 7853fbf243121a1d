import SceneBench.Record
import SceneBench.Content.Colour

/-!
# Four walls

Four walls of blocks stand around the origin on a slab of ground. Each layer of a wall is a row of
blocks with gaps between them; the hue runs along the row and starts a little further on in each
layer.
-/

namespace SceneBench.Walls

/-- The edge of a block. -/
def block : Scalar := 2

def gap : Scalar := 0.2

def thickness : Scalar := 2

/-- The distance of the walls from the origin. -/
def halfSpan : Scalar := 20

/-- From one block to the next. -/
def step : Scalar := block + gap

/-- How many blocks a row has. -/
def rowLength : Nat := Int.toNat (max (2 * halfSpan / step).truncate 1)

/-- The hue of a block: its place in the row and a third of a turn over all layers. -/
def hue (layers layer segment : Nat) : Scalar :=
  (Scalar.ofNat segment / Scalar.ofNat rowLength +
    Scalar.ofNat layer / Scalar.ofNat layers * 0.3) % 1

/-- The blocks of the four walls at one place of one layer: north, south, west and east. -/
def ring (layers layer segment : Nat) : List BoxRecord :=
  let y := Scalar.ofNat layer * step
  let along := -halfSpan + Scalar.ofNat segment * step
  let colour := Colour.ofHue (hue layers layer segment) 0.8 0.9
  [ .ofCorners ⟨along, y, -halfSpan - thickness⟩ ⟨along + block, y + block, -halfSpan⟩ colour,
    .ofCorners ⟨along, y, halfSpan⟩ ⟨along + block, y + block, halfSpan + thickness⟩ colour,
    .ofCorners ⟨-halfSpan - thickness, y, along⟩ ⟨-halfSpan, y + block, along + block⟩ colour,
    .ofCorners ⟨halfSpan, y, along⟩ ⟨halfSpan + thickness, y + block, along + block⟩ colour ]

/-- Ground and walls of the given height. -/
def boxes (layers : Nat) : List BoxRecord :=
  .ground (halfSpan * 2) ::
    (List.range layers).flatMap fun layer =>
      (List.range rowLength).flatMap fun segment => ring layers layer segment

end SceneBench.Walls
