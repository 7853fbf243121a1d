import SceneBench.Geometry.Vec3

/-!
# Viewpoints

A camera is a position with two angles: the turn about the vertical axis, measured from the
positive `z` direction, and the rise above the horizontal plane. A turn of half a circle therefore
looks along negative `z`, the direction of a camera that is only given a position.
-/

namespace SceneBench

structure Camera where
  position : Vec3
  yaw : Scalar
  pitch : Scalar
  deriving DecidableEq, Repr

namespace Camera

/-- A level camera that looks along negative `z`. -/
def level (position : Vec3) : Camera := ⟨position, Scalar.pi, 0⟩

instance : Inhabited Camera := ⟨Camera.level Vec3.zero⟩

/-- A camera turned towards a target. When both points all but coincide there is no direction to
turn to, and the camera looks along negative `z`. -/
def lookingAt (position target : Vec3) : Camera :=
  let direction := target - position
  if (direction.dot direction).lt 1e-8 then Camera.level position
  else
    let d := direction.normalize
    ⟨position, Scalar.atan2 d.x d.z, (d.y.clamp (-1) 1).asin⟩

/-- The direction of view, of length one. -/
def forward (c : Camera) : Vec3 :=
  Vec3.normalize ⟨c.yaw.sin * c.pitch.cos, c.pitch.sin, c.yaw.cos * c.pitch.cos⟩

end Camera

end SceneBench
