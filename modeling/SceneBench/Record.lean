import SceneBench.Geometry.Bounds

/-!
# Box records

The one primitive of a scene is a box that either stands still or travels between two centres. A
record is twenty words in a fixed order. Four of them only pad the record, and are kept like the
others because a record read from disk may hold anything.
-/

namespace SceneBench

structure BoxRecord where
  low : Vec3
  moving : Scalar
  high : Vec3
  pad0 : Scalar
  colour : Vec3
  pad1 : Scalar
  start : Vec3
  pad2 : Scalar
  finish : Vec3
  pad3 : Scalar
  deriving DecidableEq, Repr

namespace BoxRecord

/-- A box at rest between two corners. Its two centres are the midpoint. -/
def ofCorners (low high colour : Vec3) : BoxRecord :=
  let center := (low + high) * (0.5 : Scalar)
  { low, moving := 0, high, pad0 := 0, colour, pad1 := 0, start := center, pad2 := 0
    finish := center, pad3 := 0 }

/-- A cube at rest, given by its centre and edge. -/
def cube (center : Vec3) (edge : Scalar) (colour : Vec3) : BoxRecord :=
  let half := Vec3.splat (edge * 0.5)
  ofCorners (center - half) (center + half) colour

/-- A box that travels between two centres; its corners bound the whole way. -/
def travelling (size start finish colour : Vec3) : BoxRecord :=
  let half := size * (0.5 : Scalar)
  { ofCorners ((start - half).min (finish - half)) ((start + half).max (finish + half)) colour with
    moving := 1, start, finish }

/-- A grey slab just below the ground plane. -/
def ground (halfExtent : Scalar) : BoxRecord :=
  ofCorners ⟨-halfExtent, -1, -halfExtent⟩ ⟨halfExtent, -0.99, halfExtent⟩ ⟨0.3, 0.3, 0.3⟩

def bounds (b : BoxRecord) : Bounds := ⟨b.low, b.high⟩

def isMoving (b : BoxRecord) : Bool := Scalar.lt 0.5 b.moving

/-- The twenty words of a record in their order on disk. -/
def words (b : BoxRecord) : List Scalar :=
  b.low.toList ++ b.moving :: b.high.toList ++ b.pad0 :: b.colour.toList ++ b.pad1 ::
    b.start.toList ++ b.pad2 :: b.finish.toList ++ [b.pad3]

/-- The record of twenty words. -/
def ofWords? : List Scalar → Option BoxRecord
  | [lx, ly, lz, moving, hx, hy, hz, pad0, r, g, b, pad1, sx, sy, sz, pad2, fx, fy, fz, pad3] =>
    some
      { low := ⟨lx, ly, lz⟩, moving, high := ⟨hx, hy, hz⟩, pad0, colour := ⟨r, g, b⟩, pad1
        start := ⟨sx, sy, sz⟩, pad2, finish := ⟨fx, fy, fz⟩, pad3 }
  | _ => none

/-- Equality of all twenty words as numbers. -/
def same (a b : BoxRecord) : Bool := (a.words.zip b.words).all fun (v, w) => v.same w

end BoxRecord

end SceneBench
