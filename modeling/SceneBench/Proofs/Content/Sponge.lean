import SceneBench.Content.Sponge
import SceneBench.Proofs.Record.Format
import Mathlib.Algebra.Ring.Int.Defs

/-!
# The cubes of a sponge

A sponge is cut level by level, and its cubes come in the order of the ways that lead to them: a way
goes through one kept place for each cut, and the number of a cube, written to the base of twenty,
has the numbers of these places as its digits, that of the first cut in front. All that a cube is
can be told from its way. In the grid that the cuts make, every cube is a cell of its own, and the
cells without a cube are those that some cut has in the core or in the middle of a face.
-/

namespace SceneBench

/-- A record is a cube at rest: in every direction its corners are half an edge away from the
centre, and both of its own centres are the midpoint of the corners. -/
structure BoxRecord.IsCube (b : BoxRecord) (center : Vec3) (edge : Scalar) (colour : Vec3) :
    Prop where
  low : b.low = ⟨center.x - edge * 0.5, center.y - edge * 0.5, center.z - edge * 0.5⟩
  high : b.high = ⟨center.x + edge * 0.5, center.y + edge * 0.5, center.z + edge * 0.5⟩
  colour : b.colour = colour
  atRest : b.moving = 0
  middle : b.start = (b.low + b.high) * (0.5 : Scalar) ∧ b.finish = b.start
  padding : b.pad0 = 0 ∧ b.pad1 = 0 ∧ b.pad2 = 0 ∧ b.pad3 = 0

theorem BoxRecord.isCube_cube (center : Vec3) (edge : Scalar) (colour : Vec3) :
    (BoxRecord.cube center edge colour).IsCube center edge colour :=
  ⟨rfl, rfl, rfl, rfl, ⟨rfl, rfl⟩, rfl, rfl, rfl, rfl⟩

namespace Sponge

open Offset

variable {depth d level : Nat}

/-! ## Digits -/

/-- A digit of a number to some base, counted from the lowest. -/
def digit (base n level : Nat) : Nat := n / base ^ level % base

/-- Lower digits are those of the lower part. -/
theorem digit_add_of_lt (base q r : Nat) (lower : level < d) :
    digit base (base ^ d * q + r) level = digit base r level := by
  obtain ⟨k, rfl⟩ := Nat.exists_eq_add_of_lt lower
  rcases Nat.eq_zero_or_pos base with rfl | some'
  · simp
  · have split : base ^ (level + k + 1) * q + r = base ^ level * (base * (base ^ k * q)) + r := by
      rw [Nat.pow_succ, Nat.pow_add]
      ac_rfl
    rw [digit, digit, split, Nat.mul_add_div (Nat.pow_pos some'), Nat.mul_add_mod]

/-- The digit in front of a lower part is the one that was put there. -/
theorem digit_add_self {base q r : Nat} (first : q < base) (rest : r < base ^ d) :
    digit base (base ^ d * q + r) d = q := by
  rw [digit, Nat.mul_add_div (Nat.zero_lt_of_lt rest), Nat.div_eq_of_lt rest, Nat.add_zero,
    Nat.mod_eq_of_lt first]

theorem digit_mod (base n : Nat) (lower : level < d) :
    digit base (n % base ^ d) level = digit base n level := by
  have := digit_add_of_lt base (n / base ^ d) (n % base ^ d) lower
  rwa [Nat.div_add_mod, eq_comm] at this

/-! ## Kept places -/

/-- The order of the coordinates: the first two that differ decide. -/
def Offset.Before (o o' : Offset) : Prop :=
  o.x < o'.x ∨ o.x = o'.x ∧ (o.y < o'.y ∨ o.y = o'.y ∧ o.z < o'.z)

instance (o o' : Offset) : Decidable (o.Before o') := by
  unfold Offset.Before
  infer_instance

/-- A place of a cut of which at most one coordinate is in the middle. -/
def Offset.Remains (o : Offset) : Prop :=
  (∀ c ∈ [o.x, o.y, o.z], c ∈ [-1, 0, 1]) ∧ [o.x, o.y, o.z].count 0 < 2

/-- The kept place of a number. -/
def numbered (n : Nat) : Offset := kept.getD n ⟨0, 0, 0⟩

theorem length_kept : kept.length = 20 := by decide

theorem pairwise_kept : kept.Pairwise Offset.Before := by decide

theorem kept_getElem? {n : Nat} (inside : n < 20) : kept[n]? = some (numbered n) := by
  rw [numbered, List.getD_eq_getElem?_getD, List.getElem?_eq_getElem (by rwa [length_kept])]
  rfl

theorem mem_kept {o : Offset} : o ∈ kept ↔ o.Remains := by
  constructor
  · have all : ∀ o ∈ kept,
        (∀ c ∈ [o.x, o.y, o.z], c ∈ [-1, 0, 1]) ∧ [o.x, o.y, o.z].count 0 < 2 := by
      decide
    exact all o
  · obtain ⟨x, y, z⟩ := o
    rintro ⟨coordinates, few⟩
    simp only [List.mem_cons, List.not_mem_nil, or_false, forall_eq_or_imp,
      forall_eq] at coordinates
    obtain ⟨rfl | rfl | rfl, rfl | rfl | rfl, rfl | rfl | rfl⟩ := coordinates <;>
      revert few <;> decide

theorem exists_numbered_iff {o : Offset} : (∃ n < 20, numbered n = o) ↔ o.Remains := by
  rw [← mem_kept, List.mem_iff_getElem?]
  constructor
  · rintro ⟨n, inside, rfl⟩
    exact ⟨n, kept_getElem? inside⟩
  · rintro ⟨n, here⟩
    have inside : n < 20 := length_kept ▸ (List.getElem?_eq_some_iff.mp here).1
    exact ⟨n, inside, Option.some.inj ((kept_getElem? inside).symm.trans here)⟩

/-- Places are numbered in their order. -/
theorem numbered_before {n n' : Nat} (less : n < n') (inside' : n' < 20) :
    (numbered n).Before (numbered n') := by
  obtain ⟨inside, here⟩ := List.getElem?_eq_some_iff.mp (kept_getElem? (Nat.lt_trans less inside'))
  obtain ⟨inside', here'⟩ := List.getElem?_eq_some_iff.mp (kept_getElem? inside')
  rw [← here, ← here']
  exact List.pairwise_iff_getElem.mp pairwise_kept n n' inside inside' less

theorem Offset.not_before_self (o : Offset) : ¬ o.Before o := by
  rw [Offset.Before]
  omega

theorem numbered_inj {n n' : Nat} (inside : n < 20) (inside' : n' < 20)
    (same : numbered n = numbered n') : n = n' := by
  rcases Nat.lt_trichotomy n n' with less | equal | more
  · exact absurd (same ▸ numbered_before less inside') (Offset.not_before_self _)
  · exact equal
  · exact absurd (same ▸ numbered_before more inside) (Offset.not_before_self _)

/-! ## Ways -/

/-- The way to a cube: its places, that of the first cut in front. -/
def wayOf (depth i : Nat) : List Offset :=
  (List.range depth).reverse.map fun level => numbered (digit 20 i level)

theorem wayOf_succ (depth i : Nat) :
    wayOf (depth + 1) i = numbered (digit 20 i depth) :: wayOf depth i := by
  simp [wayOf, List.range_succ]

@[simp] theorem length_wayOf (depth i : Nat) : (wayOf depth i).length = depth := by
  simp [wayOf]

theorem wayOf_mod (depth i : Nat) : wayOf depth (i % 20 ^ depth) = wayOf depth i := by
  refine List.map_congr_left fun level inside => ?_
  rw [digit_mod 20 i (by simpa using inside)]

/-- The first cut leads to a twentieth of the cubes, and the rest of the way to the one among
them. -/
theorem wayOf_of_lt {i : Nat} (inside : i < 20 ^ (depth + 1)) :
    i / 20 ^ depth < 20 ∧ i % 20 ^ depth < 20 ^ depth ∧
      wayOf (depth + 1) i = numbered (i / 20 ^ depth) :: wayOf depth (i % 20 ^ depth) := by
  have some' : 0 < 20 ^ depth := Nat.pow_pos (by decide)
  have first : i / 20 ^ depth < 20 := by
    rw [Nat.div_lt_iff_lt_mul some', Nat.mul_comm, ← Nat.pow_succ]
    exact inside
  have front : digit 20 i depth = i / 20 ^ depth := Nat.mod_eq_of_lt first
  exact ⟨first, Nat.mod_lt _ some', by rw [wayOf_succ, front, wayOf_mod]⟩

theorem wayOf_add {n j : Nat} (first : n < 20) (rest : j < 20 ^ depth) :
    20 ^ depth * n + j < 20 ^ (depth + 1) ∧
      wayOf (depth + 1) (20 ^ depth * n + j) = numbered n :: wayOf depth j := by
  constructor
  · calc 20 ^ depth * n + j < 20 ^ depth * n + 20 ^ depth := Nat.add_lt_add_left rest _
      _ = 20 ^ depth * (n + 1) := (Nat.mul_succ ..).symm
      _ ≤ 20 ^ depth * 20 := Nat.mul_le_mul_left _ first
  · rw [wayOf_succ, digit_add_self first rest, ← wayOf_mod, Nat.mul_add_mod, Nat.mod_eq_of_lt rest]

/-- The edge after some cuts. -/
def edgeAt (edge : Scalar) : Nat → Scalar
  | 0 => edge
  | cuts + 1 => edgeAt edge cuts / 3

/-- The centre at the end of a way: with each cut the offset is added, times the edge then. -/
def centerAt (center : Vec3) (edge : Scalar) (way : List Offset) : Vec3 :=
  (way.zipIdx 1).foldl (fun center step => center + step.1.toVec3 * edgeAt edge step.2) center

/-- The seed at the end of a way, on the 32-bit circle. -/
def seedAt (seed : UInt32) (way : List Offset) : UInt32 :=
  .ofInt (seed.toNat + (way.map fun o => o.x + 3 * o.y + 9 * o.z).sum)

/-- The cube at the end of a way. -/
def cubeAt (center : Vec3) (edge : Scalar) (seed : UInt32) (way : List Offset) : BoxRecord :=
  .cube (centerAt center edge way) (edgeAt edge way.length)
    (Colour.ofHue (Colour.goldenHue (seedAt seed way)) 0.7 0.8)

section Cons

variable (center : Vec3) (edge : Scalar) (seed : UInt32) (o : Offset) (way : List Offset)

theorem edgeAt_succ (cuts : Nat) : edgeAt edge (cuts + 1) = edgeAt (edge / 3) cuts := by
  induction cuts with
  | zero => rfl
  | succ cuts ih => rw [edgeAt, ih, edgeAt]

theorem centerAt_cons :
    centerAt center edge (o :: way) =
      centerAt (center + o.toVec3 * (edge / 3)) (edge / 3) way := by
  have first : edgeAt edge 1 = edge / 3 := rfl
  rw [centerAt, centerAt, List.zipIdx_cons, List.zipIdx_succ, List.foldl_cons, List.foldl_map]
  simp only [first, edgeAt_succ]

theorem ofInt_toNat : UInt32.ofInt seed.toNat = seed := by
  have inside := seed.toNat_lt
  have on : ((seed.toNat : Int) % 2 ^ 32).toNat = seed.toNat := by omega
  rw [UInt32.ofInt, on, UInt32.ofNat_toNat]

theorem seedAt_eq :
    seedAt seed way = seed + .ofInt (way.map fun o => o.x + 3 * o.y + 9 * o.z).sum := by
  rw [seedAt, UInt32.ofInt_add, ofInt_toNat]

theorem seedAt_nil : seedAt seed [] = seed := by
  rw [seedAt, List.map_nil, List.sum_nil, Int.add_zero, ofInt_toNat]

theorem seedAt_cons : seedAt seed (o :: way) = seedAt (seed + o.tint) way := by
  have tint : o.tint = .ofInt (o.x + 3 * o.y + 9 * o.z) := by
    rw [Offset.tint, Int.mul_comm o.y, Int.mul_comm o.z]
  rw [seedAt_eq, seedAt_eq, tint, List.map_cons, List.sum_cons, UInt32.ofInt_add, UInt32.add_assoc]

theorem cubeAt_nil :
    cubeAt center edge seed [] =
      .cube center edge (Colour.ofHue (Colour.goldenHue seed) 0.7 0.8) := by
  rw [cubeAt, seedAt_nil]
  rfl

theorem cubeAt_cons :
    cubeAt center edge seed (o :: way) =
      cubeAt (center + o.toVec3 * (edge / 3)) (edge / 3) (seed + o.tint) way := by
  rw [cubeAt, centerAt_cons, seedAt_cons, List.length_cons, edgeAt_succ, cubeAt]

end Cons

/-! ## The order of the cubes -/

section Growing

variable (depth : Nat) (center : Vec3) (edge : Scalar) (seed : UInt32) (out : Array BoxRecord)

theorem toList_foldl_of_append {α β : Type} {step : Array β → α → Array β} {more : α → List β}
    (appends : ∀ out x, (step out x).toList = out.toList ++ more x) (xs : List α)
    (out : Array β) : (xs.foldl step out).toList = out.toList ++ xs.flatMap more := by
  induction xs generalizing out with
  | nil => simp
  | cons x xs ih => rw [List.foldl_cons, ih, appends, List.flatMap_cons, List.append_assoc]

/-- The cubes come behind the boxes that are there, which makes no difference to them; by induction
on the depth. -/
theorem toList_grow :
    (grow depth center edge seed out).toList = out.toList ++ cubes depth center edge seed := by
  induction depth generalizing center edge seed out with
  | zero => simp [grow, cubes]
  | succ depth ih =>
      have appends (out : Array BoxRecord) (o : Offset) :=
        ih (center + o.toVec3 * (edge / 3)) (edge / 3) (seed + o.tint) out
      rw [cubes, grow, grow, toList_foldl_of_append appends, toList_foldl_of_append appends,
        List.nil_append]

theorem cubes_zero :
    cubes 0 center edge seed =
      [.cube center edge (Colour.ofHue (Colour.goldenHue seed) 0.7 0.8)] := by
  simp [cubes, grow]

/-- A sponge is made of twenty sponges that are cut once less. -/
theorem cubes_succ :
    cubes (depth + 1) center edge seed =
      kept.flatMap fun o =>
        cubes depth (center + o.toVec3 * (edge / 3)) (edge / 3) (seed + o.tint) := by
  have appends (out : Array BoxRecord) (o : Offset) :=
    toList_grow depth (center + o.toVec3 * (edge / 3)) (edge / 3) (seed + o.tint) out
  rw [cubes, grow, toList_foldl_of_append appends, List.nil_append]

@[simp] theorem length_cubes : (cubes depth center edge seed).length = 20 ^ depth := by
  induction depth generalizing center edge seed with
  | zero => rw [cubes_zero]; rfl
  | succ depth ih =>
      simp only [cubes_succ, List.length_flatMap, ih, List.map_const', List.sum_replicate_nat,
        length_kept, Nat.pow_succ, Nat.mul_comm]

/-- The cube of a number is the one at the end of its way; by induction on the depth, from the first
cut on. -/
theorem getElem?_cubes {i : Nat} (inside : i < 20 ^ depth) :
    (cubes depth center edge seed)[i]? = some (cubeAt center edge seed (wayOf depth i)) := by
  induction depth generalizing center edge seed i with
  | zero =>
      obtain rfl : i = 0 := by simpa using inside
      rw [cubes_zero, ← cubeAt_nil]
      rfl
  | succ depth ih =>
      obtain ⟨first, rest, way⟩ := wayOf_of_lt inside
      rw [way, cubeAt_cons, ← ih _ _ _ rest, cubes_succ]
      have uniform (o : Offset) := length_cubes depth (center + o.toVec3 * (edge / 3)) (edge / 3)
        (seed + o.tint)
      have found := getElem?_flatMap_of_length uniform (kept_getElem? first) rest
      rwa [Nat.div_add_mod] at found

end Growing

/-! ## Cells -/

/-- A cell of a grid, by its number in each direction. -/
structure Cell where
  x : Nat
  y : Nat
  z : Nat
  deriving DecidableEq

/-- Which third of a cut a coordinate is in. -/
def third (c : Int) : Nat := (c + 1).toNat

namespace Cell

/-- The grid of so many cuts has the cell. -/
def Within (c : Cell) (depth : Nat) : Prop := c.x < 3 ^ depth ∧ c.y < 3 ^ depth ∧ c.z < 3 ^ depth

/-- At a level, counted from the finest, at most one coordinate is in the middle third. -/
def SolidAt (c : Cell) (level : Nat) : Prop :=
  [c.x, c.y, c.z].countP (fun n => digit 3 n level = 1) < 2

/-- A cell of a grid that is one place of a cut of a larger one. -/
def inPlace (d : Nat) (o : Offset) (c : Cell) : Cell :=
  ⟨3 ^ d * third o.x + c.x, 3 ^ d * third o.y + c.y, 3 ^ d * third o.z + c.z⟩

end Cell

/-- The cell at the end of a way. -/
def cellOf : List Offset → Cell
  | [] => ⟨0, 0, 0⟩
  | o :: way => (cellOf way).inPlace way.length o

theorem third_eq_one_iff {c : Int} : third c = 1 ↔ c = 0 := by
  rw [third]
  omega

theorem Offset.Remains.bounds {o : Offset} (remains : o.Remains) :
    (-1 ≤ o.x ∧ o.x ≤ 1) ∧ (-1 ≤ o.y ∧ o.y ≤ 1) ∧ (-1 ≤ o.z ∧ o.z ≤ 1) := by
  obtain ⟨coordinates, -⟩ := remains
  simp only [List.mem_cons, List.not_mem_nil, or_false, forall_eq_or_imp, forall_eq] at coordinates
  omega

theorem third_sub_one (n : Nat) : third (n - 1) = n := by
  rw [third]
  omega

theorem third_lt {c : Int} (bounds : -1 ≤ c ∧ c ≤ 1) : third c < 3 := by
  rw [third]
  omega

theorem third_inj {c c' : Int} (bounds : -1 ≤ c ∧ c ≤ 1) (bounds' : -1 ≤ c' ∧ c' ≤ 1)
    (same : third c = third c') : c = c' := by
  rw [third, third] at same
  omega

theorem pow_mul_add_inj {base q r q' r' : Nat} (rest : r < base ^ d) (rest' : r' < base ^ d)
    (same : base ^ d * q + r = base ^ d * q' + r') : q = q' ∧ r = r' := by
  have some' : 0 < base ^ d := Nat.zero_lt_of_lt rest
  have front := congrArg (· / base ^ d) same
  have back := congrArg (· % base ^ d) same
  simp only [Nat.mul_add_div some', Nat.div_eq_of_lt rest, Nat.div_eq_of_lt rest', Nat.add_zero,
    Nat.mul_add_mod, Nat.mod_eq_of_lt rest, Nat.mod_eq_of_lt rest'] at front back
  exact ⟨front, back⟩

namespace Cell

variable {o o' : Offset} {c c' : Cell}

theorem Within.inPlace (within : c.Within d) (remains : o.Remains) :
    (c.inPlace d o).Within (d + 1) := by
  obtain ⟨x, y, z⟩ := remains.bounds
  have part {n : Nat} {k : Int} (bounds : -1 ≤ k ∧ k ≤ 1) (inside : n < 3 ^ d) :
      3 ^ d * third k + n < 3 ^ (d + 1) := by
    calc 3 ^ d * third k + n < 3 ^ d * third k + 3 ^ d := Nat.add_lt_add_left inside _
      _ = 3 ^ d * (third k + 1) := (Nat.mul_succ ..).symm
      _ ≤ 3 ^ d * 3 := Nat.mul_le_mul_left _ (third_lt bounds)
  exact ⟨part x within.1, part y within.2.1, part z within.2.2⟩

/-- A cell is in one place only, and is one cell there. -/
theorem inPlace_inj (remains : o.Remains) (remains' : o'.Remains) (within : c.Within d)
    (within' : c'.Within d) (same : c.inPlace d o = c'.inPlace d o') : o = o' ∧ c = c' := by
  obtain ⟨x, y, z⟩ := remains.bounds
  obtain ⟨x', y', z'⟩ := remains'.bounds
  obtain ⟨sameX, sameY, sameZ⟩ := Cell.mk.inj same
  obtain ⟨ox, cx⟩ := pow_mul_add_inj within.1 within'.1 sameX
  obtain ⟨oy, cy⟩ := pow_mul_add_inj within.2.1 within'.2.1 sameY
  obtain ⟨oz, cz⟩ := pow_mul_add_inj within.2.2 within'.2.2 sameZ
  constructor
  · obtain ⟨ox', oy', oz'⟩ := o
    obtain ⟨px, py, pz⟩ := o'
    rw [Offset.mk.injEq]
    exact ⟨third_inj x x' ox, third_inj y y' oy, third_inj z z' oz⟩
  · obtain ⟨cx', cy', cz'⟩ := c
    obtain ⟨px, py, pz⟩ := c'
    rw [Cell.mk.injEq]
    exact ⟨cx, cy, cz⟩

/-- Finer levels are those of the cell in its place. -/
theorem solidAt_inPlace_of_lt (lower : level < d) :
    (c.inPlace d o).SolidAt level ↔ c.SolidAt level := by
  simp only [SolidAt, inPlace, List.countP_cons, digit_add_of_lt 3 _ _ lower]

/-- The coarsest level is the place. -/
theorem solidAt_inPlace_self (x : -1 ≤ o.x ∧ o.x ≤ 1) (y : -1 ≤ o.y ∧ o.y ≤ 1)
    (z : -1 ≤ o.z ∧ o.z ≤ 1) (within : c.Within d) :
    (c.inPlace d o).SolidAt d ↔ [o.x, o.y, o.z].count 0 < 2 := by
  simp only [SolidAt, inPlace, List.countP_cons, digit_add_self (third_lt x) within.1,
    digit_add_self (third_lt y) within.2.1, digit_add_self (third_lt z) within.2.2,
    third_eq_one_iff]
  simp [List.count_cons]

/-- A cell that is solid at the coarsest level is in a place that is kept. -/
theorem exists_inPlace (within : c.Within (d + 1)) (solid : c.SolidAt d) :
    ∃ (o : Offset) (c' : Cell), o.Remains ∧ c'.Within d ∧ c = c'.inPlace d o := by
  have some' : 0 < 3 ^ d := Nat.pow_pos (by decide)
  -- A coordinate falls into the third that it is in and its place there.
  have part (n : Nat) (inside : n < 3 ^ (d + 1)) :
      ∃ k : Int, (-1 ≤ k ∧ k ≤ 1) ∧ n = 3 ^ d * third k + n % 3 ^ d := by
    have less : n / 3 ^ d < 3 := by
      rw [Nat.div_lt_iff_lt_mul some', Nat.mul_comm, ← Nat.pow_succ]
      exact inside
    refine ⟨(n / 3 ^ d : Nat) - 1, ?_, by rw [third_sub_one, Nat.div_add_mod]⟩
    generalize n / 3 ^ d = q at less ⊢
    omega
  obtain ⟨x, boundsX, ofX⟩ := part c.x within.1
  obtain ⟨y, boundsY, ofY⟩ := part c.y within.2.1
  obtain ⟨z, boundsZ, ofZ⟩ := part c.z within.2.2
  have within' : Within ⟨c.x % 3 ^ d, c.y % 3 ^ d, c.z % 3 ^ d⟩ d :=
    ⟨Nat.mod_lt _ some', Nat.mod_lt _ some', Nat.mod_lt _ some'⟩
  have split : c = inPlace d ⟨x, y, z⟩ ⟨c.x % 3 ^ d, c.y % 3 ^ d, c.z % 3 ^ d⟩ := by
    rw [inPlace, ← ofX, ← ofY, ← ofZ]
  rw [split, solidAt_inPlace_self boundsX boundsY boundsZ within'] at solid
  refine ⟨⟨x, y, z⟩, _, ⟨?_, solid⟩, within', split⟩
  simp only [List.mem_cons, List.not_mem_nil, or_false, forall_eq_or_imp, forall_eq]
  omega

end Cell

/-! ## The cells of the ways -/

theorem remains_numbered {n : Nat} (inside : n < 20) : (numbered n).Remains :=
  exists_numbered_iff.mp ⟨n, inside, rfl⟩

theorem cellOf_wayOf_succ (depth i : Nat) :
    cellOf (wayOf (depth + 1) i) =
      (cellOf (wayOf depth i)).inPlace depth (numbered (digit 20 i depth)) := by
  rw [wayOf_succ, cellOf, length_wayOf]

theorem within_cellOf (depth i : Nat) : (cellOf (wayOf depth i)).Within depth := by
  induction depth with
  | zero => exact ⟨Nat.one_pos, Nat.one_pos, Nat.one_pos⟩
  | succ depth ih =>
      rw [cellOf_wayOf_succ]
      exact ih.inPlace (remains_numbered (Nat.mod_lt _ (by decide)))

/-- A cube is there at all levels; by induction on the depth. -/
theorem solidAt_cellOf (i : Nat) (below : level < depth) :
    (cellOf (wayOf depth i)).SolidAt level := by
  induction depth with
  | zero => exact absurd below (Nat.not_lt_zero level)
  | succ depth ih =>
      have remains : (numbered (digit 20 i depth)).Remains :=
        remains_numbered (Nat.mod_lt _ (by decide))
      obtain ⟨x, y, z⟩ := remains.bounds
      rw [cellOf_wayOf_succ]
      rcases Nat.lt_succ_iff_lt_or_eq.mp below with lower | rfl
      · exact (Cell.solidAt_inPlace_of_lt lower).mpr (ih lower)
      · exact (Cell.solidAt_inPlace_self x y z (within_cellOf ..)).mpr remains.2

/-- Different numbers lead to different cells; by induction on the depth, as no two places share a
cell. -/
theorem cellOf_wayOf_inj {i j : Nat} (inside : i < 20 ^ depth) (inside' : j < 20 ^ depth)
    (same : cellOf (wayOf depth i) = cellOf (wayOf depth j)) : i = j := by
  induction depth generalizing i j with
  | zero =>
      rw [Nat.pow_zero, Nat.lt_one_iff] at inside inside'
      rw [inside, inside']
  | succ depth ih =>
      obtain ⟨first, rest, way⟩ := wayOf_of_lt inside
      obtain ⟨first', rest', way'⟩ := wayOf_of_lt inside'
      rw [way, way', cellOf, cellOf, length_wayOf, length_wayOf] at same
      obtain ⟨place, cell⟩ := Cell.inPlace_inj (remains_numbered first) (remains_numbered first')
        (within_cellOf ..) (within_cellOf ..) same
      rw [← Nat.div_add_mod i (20 ^ depth), ← Nat.div_add_mod j (20 ^ depth),
        numbered_inj first first' place, ih rest rest' cell]

/-- Every cell that is solid at all levels has a cube; by induction on the depth, from the coarsest
level on. -/
theorem exists_cellOf {c : Cell} (within : c.Within depth)
    (solid : ∀ level < depth, c.SolidAt level) : ∃ i < 20 ^ depth, cellOf (wayOf depth i) = c := by
  induction depth generalizing c with
  | zero =>
      obtain ⟨x, y, z⟩ := c
      obtain ⟨zeroX, zeroY, zeroZ⟩ := within
      simp only [Nat.pow_zero, Nat.lt_one_iff] at zeroX zeroY zeroZ
      exact ⟨0, Nat.one_pos, by rw [zeroX, zeroY, zeroZ]; rfl⟩
  | succ depth ih =>
      obtain ⟨o, c', remains, within', rfl⟩ :=
        Cell.exists_inPlace within (solid depth (Nat.lt_succ_self depth))
      obtain ⟨n, first, rfl⟩ := exists_numbered_iff.mpr remains
      obtain ⟨j, rest, rfl⟩ := ih within' fun level lower =>
        (Cell.solidAt_inPlace_of_lt lower).mp (solid level (Nat.lt_succ_of_lt lower))
      obtain ⟨inside, way⟩ := wayOf_add first rest
      exact ⟨_, inside, by rw [way, cellOf, length_wayOf]⟩

/-! ## The sponge -/

/-- How a sponge of some depth comes behind the boxes that are there. -/
structure Grown (depth : Nat) (center : Vec3) (edge : Scalar) (seed : UInt32)
    (out : Array BoxRecord) : Prop where
  /-- Twenty places are kept, those with at most one coordinate in the middle, and numbered in the
  order of their coordinates. -/
  places : (∀ o : Offset, (∃ n < 20, numbered n = o) ↔ o.Remains) ∧
    ∀ n n', n < n' → n' < 20 → (numbered n).Before (numbered n')
  size : (grow depth center edge seed out).size = out.size + 20 ^ depth
  before : ∀ j < out.size, (grow depth center edge seed out)[j]? = out[j]?
  /-- The cube of a number is the one at the end of its way. -/
  behind : ∀ i < 20 ^ depth, (grow depth center edge seed out)[out.size + i]? =
    some (cubeAt center edge seed (wayOf depth i))
  /-- It stands about the centre there, has the edge that is left after the cuts and is coloured by
  the seed there. -/
  shape : ∀ i < 20 ^ depth, ∃ b, (grow depth center edge seed out)[out.size + i]? = some b ∧
    b.IsCube (centerAt center edge (wayOf depth i)) (edgeAt edge depth)
      (Colour.ofHue (Colour.goldenHue (seedAt seed (wayOf depth i))) 0.7 0.8)
  apart : ∀ i < 20 ^ depth, ∀ j < 20 ^ depth,
    cellOf (wayOf depth i) = cellOf (wayOf depth j) → i = j
  /-- The cubes are the cells that no level has in its core or in the middle of a face. -/
  cells : ∀ c : Cell, (∃ i < 20 ^ depth, cellOf (wayOf depth i) = c) ↔
    c.Within depth ∧ ∀ level < depth, c.SolidAt level

/-- A sponge grows behind the boxes that are there, one cube for each way through its cuts, in the
order of the ways, and fills just the cells that are solid at all levels. -/
theorem grown (depth : Nat) (center : Vec3) (edge : Scalar) (seed : UInt32)
    (out : Array BoxRecord) : Grown depth center edge seed out := by
  have all := toList_grow depth center edge seed out
  have behind (i : Nat) (inside : i < 20 ^ depth) :
      (grow depth center edge seed out)[out.size + i]? =
        some (cubeAt center edge seed (wayOf depth i)) := by
    rw [← Array.getElem?_toList, all, List.getElem?_append_right (by simp), Array.length_toList,
      Nat.add_sub_cancel_left, getElem?_cubes depth center edge seed inside]
  constructor
  case places => exact ⟨fun o => exists_numbered_iff, fun n n' => numbered_before⟩
  case size =>
    rw [← Array.length_toList, all, List.length_append, length_cubes, Array.length_toList]
  case before =>
    intro j inside
    rw [← Array.getElem?_toList, all, List.getElem?_append_left (by simpa using inside),
      Array.getElem?_toList]
  case behind => exact behind
  case shape =>
    intro i inside
    refine ⟨_, behind i inside, ?_⟩
    rw [cubeAt, length_wayOf]
    exact BoxRecord.isCube_cube ..
  case apart => exact fun i inside j inside' => cellOf_wayOf_inj inside inside'
  case cells =>
    intro c
    constructor
    · rintro ⟨i, -, rfl⟩
      exact ⟨within_cellOf depth i, fun level below => solidAt_cellOf i below⟩
    · rintro ⟨within, solid⟩
      exact exists_cellOf within solid

example : wayOf 2 27 = [⟨-1, -1, 0⟩, ⟨-1, 1, 1⟩] := by decide

end Sponge

end SceneBench
