import SceneBench.Record

/-!
# A grid of boxes

A slab of ground carries a square grid of boxes. The grid of size `n` has `2 * n` rows and columns,
numbered from `-n`, and colours fade along both.
-/

namespace SceneBench.Grid

/-- How far along the grid an index stands, as a shade between dark and bright. -/
def shade (n index : Int) : Scalar :=
  (Scalar.ofInt (index + n) / Scalar.ofInt (2 * n)) * 0.8 + 0.2

/-- The box at one place of the grid. -/
def cell (n : Int) (spacing halfSize : Scalar) (x z : Int) : BoxRecord :=
  let atX := Scalar.ofInt x * spacing
  let atZ := Scalar.ofInt z * spacing - 10
  .ofCorners ⟨atX - halfSize, -0.5, atZ - halfSize⟩ ⟨atX + halfSize, 0.5, atZ + halfSize⟩
    ⟨shade n x, shade n z, 0.6⟩

/-- The indices of rows and columns. -/
def indices (n : Int) : List Int := (List.range (2 * n).toNat).map fun k => Int.ofNat k - n

/-- Ground and grid. -/
def boxes (n : Int) (spacing halfSize : Scalar) : List BoxRecord :=
  .ground 50 :: (indices n).flatMap fun x => (indices n).map fun z => cell n spacing halfSize x z

end SceneBench.Grid
