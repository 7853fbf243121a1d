import SceneBench.Scene.Basic

/-!
# The bounds of several boxes

Of two values the smaller or the larger is kept, and what is no number gives way to any number. So
whichever way the values of several boxes are brought together, one of them is left that no number
among them goes beyond, and no two ways can differ in more than the sign of a zero or the pattern of
what is no number. Bounds are six such choices at a time, a smallest and a largest value along each
axis. All that is said of them here rests on that: they contain what the boxes contain, they are
covered by whatever covers the boxes, and neither the order nor the grouping of the boxes counts.
-/

namespace SceneBench

namespace Scalar

variable {a b c : Scalar}

/-! ## Numbers in order -/

theorem le_iff : a.le b = true ↔ a.isNaN = false ∧ b.isNaN = false ∧ a.rank ≤ b.rank := by
  simp [le, and_assoc]

theorem le_trans (first : a.le b = true) (second : b.le c = true) : a.le c = true := by
  obtain ⟨number, -, below⟩ := le_iff.mp first
  obtain ⟨-, number', below'⟩ := le_iff.mp second
  exact le_iff.mpr ⟨number, number', Int.le_trans below below'⟩

/-- The same up to the sign of a zero and the pattern of what is no number. -/
def Alike (a b : Scalar) : Prop :=
  a = b ∨ a.magnitude = 0 ∧ b.magnitude = 0 ∨ a.isNaN = true ∧ b.isNaN = true

/-- A pattern is its sign and its magnitude. -/
theorem eq_of_magnitude (sign : a.isNegative = b.isNegative) (size : a.magnitude = b.magnitude) :
    a = b := by
  obtain ⟨bits⟩ := a
  obtain ⟨bits'⟩ := b
  have inside := bits.toNat_lt
  have inside' := bits'.toNat_lt
  simp only [isNegative, decide_eq_decide] at sign
  simp only [magnitude] at size
  exact congrArg Scalar.mk (UInt32.toNat_inj.mp (by omega))

/-- At one place of the number line stand at most the two zeros. -/
theorem alike_of_rank_eq (same : a.rank = b.rank) : a.Alike b := by
  simp only [rank] at same
  by_cases sign : a.isNegative = b.isNegative
  · refine .inl (eq_of_magnitude sign ?_)
    rw [sign] at same
    split at same <;> omega
  · have other : b.isNegative = !a.isNegative := Bool.eq_not_of_ne (Ne.symm sign)
    rw [other] at same
    refine .inr (.inl ?_)
    cases negative : a.isNegative with
    | true =>
        rw [negative, if_pos rfl, Bool.not_true, if_neg Bool.false_ne_true] at same
        omega
    | false =>
        rw [negative, if_neg Bool.false_ne_true, Bool.not_false, if_pos rfl] at same
        omega

/-! ## One value of several -/

/-- One of several values that comes before every number among them. -/
structure Foremost (before : Scalar → Scalar → Bool) (vs : List Scalar) (a : Scalar) : Prop where
  among : a ∈ vs
  before : ∀ v ∈ vs, v.isNaN = false → before a v = true

/-- The smallest number of several values; if there is none, then any of them. -/
abbrev Least : List Scalar → Scalar → Prop := Foremost le

/-- The largest number of several values; if there is none, then any of them. -/
abbrev Greatest : List Scalar → Scalar → Prop := Foremost fun a v => v.le a

/-- An operation keeps the one of two values that comes before the other. -/
structure Selects (before : Scalar → Scalar → Bool) (keep : Scalar → Scalar → Scalar) : Prop where
  one : ∀ a b, keep a b = a ∨ keep a b = b
  left : ∀ {a} b, a.isNaN = false → before (keep a b) a = true
  right : ∀ a {b}, b.isNaN = false → before (keep a b) b = true
  number : ∀ {a b}, before a b = true → a.isNaN = false
  trans : ∀ {a b c}, before a b = true → before b c = true → before a c = true
  alike : ∀ {a b}, before a b = true → before b a = true → a.Alike b

theorem selects_min : Selects le min where
  one a b := by grind [min]
  left b number := by grind [min, le_iff]
  right a number := by grind [min, le_iff]
  number before := (le_iff.mp before).1
  trans := le_trans
  alike before before' :=
    alike_of_rank_eq (Int.le_antisymm (le_iff.mp before).2.2 (le_iff.mp before').2.2)

theorem selects_max : Selects (fun a v => v.le a) max where
  one a b := by grind [max]
  left b number := by grind [max, le_iff]
  right a number := by grind [max, le_iff]
  number before := (le_iff.mp before).2.1
  trans before before' := le_trans before' before
  alike before before' :=
    alike_of_rank_eq (Int.le_antisymm (le_iff.mp before').2.2 (le_iff.mp before).2.2)

namespace Foremost

variable {before : Scalar → Scalar → Bool} {keep : Scalar → Scalar → Scalar}
  {vs ws : List Scalar}

theorem singleton (selects : Selects before keep) (a : Scalar) : Foremost before [a] a where
  among := List.mem_singleton_self a
  before v listed number := by
    obtain rfl := List.mem_singleton.mp listed
    have self := selects.left v number
    rwa [or_self_iff.mp (selects.one v v)] at self

/-- Of the foremost values of two lists the one that is kept is the foremost of both. -/
theorem append (selects : Selects before keep) (first : Foremost before vs a)
    (second : Foremost before ws b) : Foremost before (vs ++ ws) (keep a b) where
  among := by
    rcases selects.one a b with same | same
    · rw [same]
      exact List.mem_append_left ws first.among
    · rw [same]
      exact List.mem_append_right vs second.among
  before v listed number := by
    rcases List.mem_append.mp listed with listed | listed
    · have onward := first.before v listed number
      exact selects.trans (selects.left b (selects.number onward)) onward
    · have onward := second.before v listed number
      exact selects.trans (selects.right a (selects.number onward)) onward

/-- It is no number only if none of the values is one. -/
theorem isNaN_iff (selects : Selects before keep) (foremost : Foremost before vs a) :
    a.isNaN = true ↔ ∀ v ∈ vs, v.isNaN = true := by
  constructor
  · intro none' v listed
    cases number : v.isNaN with
    | true => rfl
    | false =>
        have number' := selects.number (foremost.before v listed number)
        exact absurd none' (by simp [number'])
  · exact fun all => all a foremost.among

/-- Only which values there are counts, and it leaves no choice. -/
theorem alike (selects : Selects before keep) (first : Foremost before vs a)
    (second : Foremost before ws b) (same : ∀ v, v ∈ vs ↔ v ∈ ws) : a.Alike b := by
  have listed : a ∈ ws := (same a).mp first.among
  have listed' : b ∈ vs := (same b).mpr second.among
  cases number : b.isNaN with
  | true => exact .inr (.inr ⟨(second.isNaN_iff selects).mp number a listed, number⟩)
  | false =>
      have onward := first.before b listed' number
      exact selects.alike onward (second.before a listed (selects.number onward))

end Foremost

end Scalar

/-! ## Along the axes -/

inductive Axis where
  | x
  | y
  | z
  deriving DecidableEq, Repr

theorem Axis.forall_iff {P : Axis → Prop} : (∀ i, P i) ↔ P .x ∧ P .y ∧ P .z :=
  ⟨fun all => ⟨all .x, all .y, all .z⟩, fun ⟨atX, atY, atZ⟩ i => by cases i <;> assumption⟩

namespace Vec3

/-- The component along an axis. -/
def along (v : Vec3) : Axis → Scalar
  | .x => v.x
  | .y => v.y
  | .z => v.z

@[simp] theorem along_min (v w : Vec3) (i : Axis) :
    (v.min w).along i = (v.along i).min (w.along i) := by
  cases i <;> rfl

@[simp] theorem along_max (v w : Vec3) (i : Axis) :
    (v.max w).along i = (v.along i).max (w.along i) := by
  cases i <;> rfl

theorem le_iff (v w : Vec3) : v.le w = true ↔ ∀ i, (v.along i).le (w.along i) = true := by
  simp [le, Axis.forall_iff, along, and_assoc]

end Vec3

namespace Bounds

variable {bs bs' rs : List Bounds} {r r' b c : Bounds}

/-- The components of all low corners along an axis. -/
def lows (bs : List Bounds) (i : Axis) : List Scalar := bs.map fun b => b.low.along i

/-- The components of all high corners along an axis. -/
def highs (bs : List Bounds) (i : Axis) : List Scalar := bs.map fun b => b.high.along i

theorem contains_iff (b : Bounds) (p : Vec3) : b.contains p = true ↔
    ∀ i, (b.low.along i).le (p.along i) = true ∧ (p.along i).le (b.high.along i) = true := by
  simp [contains, Vec3.le_iff, forall_and]

/-- The same up to signs of zeros and patterns of what is no number. -/
def Alike (r r' : Bounds) : Prop :=
  ∀ i, (r.low.along i).Alike (r'.low.along i) ∧ (r.high.along i).Alike (r'.high.along i)

/-- No number of the corners of a box goes beyond the same corner of another. -/
def Covers (c b : Bounds) : Prop := ∀ i,
  ((b.low.along i).isNaN = false → (c.low.along i).le (b.low.along i) = true) ∧
    ((b.high.along i).isNaN = false → (b.high.along i).le (c.high.along i) = true)

/-- Every number of the corners of a box lies between the two corners of another. -/
def Spans (c b : Bounds) : Prop := ∀ i, ∀ v ∈ [b.low.along i, b.high.along i],
  v.isNaN = false → (c.low.along i).le v = true ∧ v.le (c.high.along i) = true

/-! ## Tight bounds -/

/-- Along each axis, bounds begin at the smallest number of some boxes and end at the largest. -/
structure Tight (bs : List Bounds) (r : Bounds) : Prop where
  low : ∀ i, Scalar.Least (lows bs i) (r.low.along i)
  high : ∀ i, Scalar.Greatest (highs bs i) (r.high.along i)

namespace Tight

open Scalar

theorem singleton (b : Bounds) : Tight [b] b where
  low i := .singleton selects_min (b.low.along i)
  high i := .singleton selects_max (b.high.along i)

/-- The union of tight bounds is tight. -/
theorem union (first : Tight bs r) (second : Tight bs' r') : Tight (bs ++ bs') (r.union r') where
  low i := by
    simpa [lows, Bounds.union] using (first.low i).append selects_min (second.low i)
  high i := by
    simpa [highs, Bounds.union] using (first.high i).append selects_max (second.high i)

theorem alike (first : Tight bs r) (second : Tight bs' r') (same : ∀ b, b ∈ bs ↔ b ∈ bs') :
    r.Alike r' := by
  intro i
  constructor
  · exact (first.low i).alike selects_min (second.low i) fun v => by simp [lows, same]
  · exact (first.high i).alike selects_max (second.high i) fun v => by simp [highs, same]

/-- Each corner of tight bounds has its components from corners of the boxes. -/
theorem exists_mem (tight : Tight bs r) (i : Axis) :
    (∃ b ∈ bs, b.low.along i = r.low.along i) ∧ ∃ b ∈ bs, b.high.along i = r.high.along i :=
  ⟨List.mem_map.mp (tight.low i).among, List.mem_map.mp (tight.high i).among⟩

theorem covers (tight : Tight bs r) (listed : b ∈ bs) : r.Covers b := fun i =>
  ⟨(tight.low i).before _ (List.mem_map_of_mem listed),
    (tight.high i).before _ (List.mem_map_of_mem listed)⟩

/-- What covers the boxes covers tight bounds of them. -/
theorem covers_of (tight : Tight bs r) (all : ∀ b ∈ bs, c.Covers b) : c.Covers r := by
  intro i
  obtain ⟨⟨b, listed, low⟩, ⟨b', listed', high⟩⟩ := tight.exists_mem i
  exact ⟨low ▸ (all b listed i).1, high ▸ (all b' listed' i).2⟩

theorem spans_of (tight : Tight bs r) (all : ∀ b ∈ bs, c.Spans b) : c.Spans r := by
  intro i
  obtain ⟨⟨b, listed, low⟩, ⟨b', listed', high⟩⟩ := tight.exists_mem i
  have lower := all b listed i (b.low.along i) (List.mem_cons_self ..)
  have upper := all b' listed' i (b'.high.along i) (List.mem_cons_of_mem _ (List.mem_cons_self ..))
  rw [low] at lower
  rw [high] at upper
  simpa using ⟨lower, upper⟩

end Tight

/-- Bounds that cover a box contain its points. -/
theorem Covers.contains (covers : c.Covers b) {p : Vec3} (inside : b.contains p = true) :
    c.contains p = true := by
  rw [contains_iff] at inside ⊢
  intro i
  obtain ⟨below, above⟩ := inside i
  obtain ⟨low, high⟩ := covers i
  exact ⟨Scalar.le_trans (low (Scalar.le_iff.mp below).1) below,
    Scalar.le_trans above (high (Scalar.le_iff.mp above).2.1)⟩

/-! ## Several boxes, and several groups of boxes -/

/-- Tight bounds of some boxes, or none of no boxes. -/
def Sums (bs : List Bounds) : Option Bounds → Prop
  | none => bs = []
  | some r => Tight bs r

theorem Sums.eq_none_iff {o : Option Bounds} (sums : Sums bs o) : o = none ↔ bs = [] := by
  cases o with
  | none => exact ⟨fun _ => sums, fun _ => rfl⟩
  | some r =>
      refine ⟨nofun, ?_⟩
      rintro rfl
      have among : r.low.x ∈ lows [] .x := (Tight.low sums .x).among
      cases among

theorem Sums.alike {o o' : Option Bounds} (first : Sums bs o) (second : Sums bs' o')
    (same : ∀ b, b ∈ bs ↔ b ∈ bs') : Option.Rel Alike o o' := by
  have empty : bs = [] ↔ bs' = [] := by simp [List.eq_nil_iff_forall_not_mem, same]
  rw [← first.eq_none_iff, ← second.eq_none_iff] at empty
  match o, o' with
  | none, none => exact .none
  | none, some r' => cases empty.mp rfl
  | some r, none => cases empty.mpr rfl
  | some r, some r' => exact .some (Tight.alike first second same)

/-- The boxes of several groups, with tight bounds of each group. -/
inductive Gathered : List Bounds → List Bounds → Prop
  | none : Gathered [] []
  | further {group others : List Bounds} {r : Bounds} {rs : List Bounds} (tight : Tight group r)
      (rest : Gathered others rs) : Gathered (group ++ others) (r :: rs)

theorem gathered_self (bs : List Bounds) : Gathered bs bs := by
  induction bs with
  | nil => exact .none
  | cons b rest ih => exact .further (.singleton b) ih

/-- Folding the bounds of groups onto bounds; by induction on the groups. -/
theorem Gathered.foldl {others : List Bounds} (gathered : Gathered others rs)
    (tight : Tight bs r) : Tight (bs ++ others) (rs.foldl Bounds.union r) := by
  induction gathered generalizing bs r with
  | none => simpa using tight
  | further group rest ih => simpa using ih (tight.union group)

/-- The bounds of the bounds of groups are those of all boxes. -/
theorem Gathered.sums (gathered : Gathered bs rs) : Sums bs (enclosing rs) := by
  cases gathered with
  | none => rfl
  | further tight rest => exact rest.foldl tight

theorem sums_enclosing (bs : List Bounds) : Sums bs (enclosing bs) := (gathered_self bs).sums

/-- Boxes in groups of groups. -/
inductive Grouping where
  | box (b : Bounds)
  | group (members : List Grouping)

namespace Grouping

/-- The boxes of all groups in order. -/
def boxes : Grouping → List Bounds
  | box b => [b]
  | group members => all members
where
  all : List Grouping → List Bounds
    | [] => []
    | g :: rest => g.boxes ++ all rest

/-- The bounds of a group are found from those of its members. -/
def bounds : Grouping → Option Bounds
  | box b => some b
  | group members => enclosing (all members)
where
  all : List Grouping → List Bounds
    | [] => []
    | g :: rest => g.bounds.toList ++ all rest

/-- However boxes are grouped, they come to tight bounds. -/
theorem sums (g : Grouping) : Sums g.boxes g.bounds :=
  match g with
  | box b => Tight.singleton b
  | group members => (gathered members).sums
where
  gathered : ∀ members : List Grouping, Gathered (boxes.all members) (bounds.all members)
    | [] => .none
    | g :: rest => by
        have first := g.sums
        have others := gathered rest
        rw [boxes.all, bounds.all]
        cases group : g.bounds with
        | none =>
            rw [group] at first
            have empty : g.boxes = [] := first
            simpa [empty] using others
        | some r =>
            rw [group] at first
            exact .further first others

end Grouping

/-- A further box is taken into the bounds of those before it. -/
theorem enclosing_concat (bs : List Bounds) (b : Bounds) :
    enclosing (bs ++ [b]) = some ((enclosing bs).elim b fun r => r.union b) := by
  cases bs with
  | nil => rfl
  | cons first rest => simp [enclosing]

/-! ## The bounds of a list of boxes -/

/-- What the bounds of some boxes are: the least that cover them all. -/
structure Enclosed (bs : List Bounds) : Prop where
  none_iff : enclosing bs = none ↔ bs = []
  tight : ∀ r, enclosing bs = some r → Tight bs r
  /-- A component is no number only where no box has one. -/
  numbers : ∀ r, enclosing bs = some r → ∀ i,
    ((r.low.along i).isNaN = true ↔ ∀ b ∈ bs, (b.low.along i).isNaN = true) ∧
      ((r.high.along i).isNaN = true ↔ ∀ b ∈ bs, (b.high.along i).isNaN = true)
  contains : ∀ r, enclosing bs = some r → ∀ b ∈ bs, ∀ p, b.contains p = true → r.contains p = true
  covers : ∀ r, enclosing bs = some r → ∀ b ∈ bs, r.Covers b
  least : ∀ r, enclosing bs = some r → ∀ c : Bounds,
    ((∀ b ∈ bs, c.Covers b) → c.Covers r) ∧ ((∀ b ∈ bs, c.Spans b) → c.Spans r)
  perm : ∀ bs', bs'.Perm bs → Option.Rel Alike (enclosing bs') (enclosing bs)
  grouped : ∀ g : Grouping, g.boxes.Perm bs → Option.Rel Alike g.bounds (enclosing bs)

/-- Boxes are enclosed by the least bounds that cover them, in any order and however they are
grouped, and a scene's bounds grow by those of the box that is added to it. -/
theorem least_enclosing (bs : List Bounds) : Enclosed bs ∧
    ∀ (s : Scene) (added : BoxRecord), (s.apply (.add added)).bounds =
      some (s.bounds.elim added.bounds fun old => old.union added.bounds) := by
  have sums := sums_enclosing bs
  have tight : ∀ r, enclosing bs = some r → Tight bs r := by
    intro r found
    rwa [found] at sums
  constructor
  · constructor
    case none_iff => exact sums.eq_none_iff
    case tight => exact tight
    case numbers =>
      intro r found i
      have low := ((tight r found).low i).isNaN_iff Scalar.selects_min
      have high := ((tight r found).high i).isNaN_iff Scalar.selects_max
      simp only [lows, highs, List.forall_mem_map] at low high
      exact ⟨low, high⟩
    case contains =>
      intro r found b listed p inside
      exact ((tight r found).covers listed).contains inside
    case covers => exact fun r found b listed => (tight r found).covers listed
    case least =>
      exact fun r found c => ⟨(tight r found).covers_of, (tight r found).spans_of⟩
    case perm => exact fun bs' order => (sums_enclosing bs').alike sums fun b => order.mem_iff
    case grouped => exact fun g order => g.sums.alike sums fun b => order.mem_iff
  · intro s added
    simp only [Scene.bounds, Scene.apply, List.map_append, List.map_singleton]
    exact enclosing_concat _ _

-- Of each corner only the numbers count.
example : enclosing [⟨.splat ⟨0x7fc00001⟩, .splat ⟨0x40000000⟩⟩,
    ⟨.splat ⟨0x3f800000⟩, .splat ⟨0xffc00000⟩⟩] =
      some ⟨.splat ⟨0x3f800000⟩, .splat ⟨0x40000000⟩⟩ := by decide

end Bounds

end SceneBench
