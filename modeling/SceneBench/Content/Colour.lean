import SceneBench.Geometry.Vec3

/-!
# Colours

Scene content is coloured by hue. Hues of consecutive seeds are spread by the golden ratio, so that
neighbours look different, and a hue is turned into red, green and blue by the sixth of the colour
circle that it falls in.
-/

namespace SceneBench.Colour

/-- The hue of a seed: the fractional part of its multiple of the golden ratio's reciprocal. -/
def goldenHue (seed : UInt32) : Scalar := (Scalar.ofNat seed.toNat * 0.618033988749895) % 1

/-- The colour of a hue, a saturation and a brightness. A hue outside the circle counts as one in
its last sixth, unless it is so close to the first that its whole part is zero. -/
def ofHue (hue saturation brightness : Scalar) : Vec3 :=
  let chroma := brightness * saturation
  let sixth := (hue * 6) % 6
  let second := chroma * (1 - (sixth % 2 - 1).abs)
  let base := brightness - chroma
  let mixed : Vec3 :=
    match sixth.truncate with
    | 0 => ⟨chroma, second, 0⟩
    | 1 => ⟨second, chroma, 0⟩
    | 2 => ⟨0, chroma, second⟩
    | 3 => ⟨0, second, chroma⟩
    | 4 => ⟨second, 0, chroma⟩
    | _ => ⟨chroma, 0, second⟩
  mixed.map (· + base)

end SceneBench.Colour
