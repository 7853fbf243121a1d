import SceneBench.Record
import SceneBench.Content.Colour

/-!
# The Menger sponge

A cube is cut into 27 cubes of a third of its edge, of which the core and the six at the middle of
a face are removed, and each of the twenty kept is cut again. Colours follow the way to a cube: each
step adds its number to the seed, on the 32-bit circle.
-/

namespace SceneBench.Sponge

/-- One of the 27 places of a cut, counted from the middle. -/
structure Offset where
  x : Int
  y : Int
  z : Int
  deriving DecidableEq, Repr

namespace Offset

/-- Two coordinates in the middle name the core or the middle of a face. -/
def removed (o : Offset) : Bool := decide (2 ≤ [o.x, o.y, o.z].count 0)

/-- All places of a cut, in the order of their coordinates. -/
def all : List Offset :=
  [-1, 0, 1].flatMap fun x => [-1, 0, 1].flatMap fun y => [-1, 0, 1].map fun z => ⟨x, y, z⟩

/-- The twenty places that are kept. -/
def kept : List Offset := all.filter fun o => !o.removed

/-- What a step to this place adds to the seed. -/
def tint (o : Offset) : UInt32 := UInt32.ofInt (o.x + o.y * 3 + o.z * 9)

def toVec3 (o : Offset) : Vec3 := ⟨.ofInt o.x, .ofInt o.y, .ofInt o.z⟩

end Offset

/-- Boxes that are there already, and behind them the cubes of a sponge of the given depth. -/
def grow : Nat → Vec3 → Scalar → UInt32 → Array BoxRecord → Array BoxRecord
  | 0, center, edge, seed, out =>
    out.push (.cube center edge (Colour.ofHue (Colour.goldenHue seed) 0.7 0.8))
  | depth + 1, center, edge, seed, out =>
    let third := edge / 3
    Offset.kept.foldl
      (fun out o => grow depth (center + o.toVec3 * third) third (seed + o.tint) out) out

/-- The cubes of a sponge of the given depth. -/
def cubes (depth : Nat) (center : Vec3) (edge : Scalar) (seed : UInt32) : List BoxRecord :=
  (grow depth center edge seed #[]).toList

/-- The edge of the sponge that a scene shows. -/
def edge : Scalar := 9

/-- Its centre, so that it stands on the ground plane. -/
def center : Vec3 := ⟨0, edge * 0.5, 0⟩

/-- The deepest sponge that a scene shows. -/
def deepest : UInt32 := 3

end SceneBench.Sponge
