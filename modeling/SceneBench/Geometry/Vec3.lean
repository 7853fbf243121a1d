import SceneBench.Number.Scalar

/-!
# Vectors

Points, extents and colours are triples of scalars. Operations act on each component in the order
`x`, `y`, `z`; the only one that mixes components is `dot`, whose sum is taken from left to right.
-/

namespace SceneBench

structure Vec3 where
  x : Scalar
  y : Scalar
  z : Scalar
  deriving DecidableEq, Repr, Inhabited

namespace Vec3

def map (f : Scalar → Scalar) (v : Vec3) : Vec3 := ⟨f v.x, f v.y, f v.z⟩

def zipWith (f : Scalar → Scalar → Scalar) (v w : Vec3) : Vec3 := ⟨f v.x w.x, f v.y w.y, f v.z w.z⟩

/-- The vector with one number in every component. -/
def splat (a : Scalar) : Vec3 := ⟨a, a, a⟩

def zero : Vec3 := splat 0

instance : Add Vec3 := ⟨zipWith (· + ·)⟩
instance : Sub Vec3 := ⟨zipWith (· - ·)⟩
instance : HMul Vec3 Scalar Vec3 := ⟨fun v a => v.map (· * a)⟩

def min (v w : Vec3) : Vec3 := zipWith Scalar.min v w

def max (v w : Vec3) : Vec3 := zipWith Scalar.max v w

/-- Every component of the left vector is at most that of the right one. -/
def le (v w : Vec3) : Bool := v.x.le w.x && v.y.le w.y && v.z.le w.z

def dot (v w : Vec3) : Scalar := v.x * w.x + v.y * w.y + v.z * w.z

/-- The vector of length one in the same direction: each component times the reciprocal of the
length. -/
def normalize (v : Vec3) : Vec3 := v * (1 / (v.dot v).sqrt)

def toList (v : Vec3) : List Scalar := [v.x, v.y, v.z]

end Vec3

end SceneBench
