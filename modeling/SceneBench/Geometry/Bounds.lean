import SceneBench.Geometry.Vec3

/-!
# Axis-aligned bounds

Bounds are kept by their two extreme corners and are not required to be the right way round. The
bounds of several boxes are folded from the left, so no box has no bounds.
-/

namespace SceneBench

structure Bounds where
  low : Vec3
  high : Vec3
  deriving DecidableEq, Repr

namespace Bounds

/-- The bounds of two boxes together. -/
def union (a b : Bounds) : Bounds := ⟨a.low.min b.low, a.high.max b.high⟩

/-- The bounds of all boxes together. -/
def enclosing : List Bounds → Option Bounds
  | [] => none
  | b :: rest => some (rest.foldl union b)

def center (b : Bounds) : Vec3 := (b.low + b.high) * (0.5 : Scalar)

def extent (b : Bounds) : Vec3 := b.high - b.low

/-- The boundary belongs to the box. -/
def contains (b : Bounds) (p : Vec3) : Bool := b.low.le p && p.le b.high

end Bounds

end SceneBench
