import SceneBench.Plan.Basic
import Mathlib.Data.List.Induction
import Mathlib.Data.List.Perm.Subperm
import Mathlib.Order.Bounds.Basic
import Mathlib.Order.WellFounded

/-!
# Which scene gets which identity

The identities of a plan can be told before it is carried out. A request that names an identity gets
that one. Any other gets the least number that lies above all numbers counted for requests before
it and that none of them has named; what later requests name plays no part. There is exactly one
way to place the requests of a plan, and it never runs out of numbers, because every number below a
counted one belongs to a request already placed.
-/

namespace SceneBench

/-- A request together with the identity of its scene. -/
structure Placed where
  request : SceneRequest
  id : SceneId
  deriving DecidableEq, Repr

namespace Placed

/-- The numbers that may be counted for the request after some others: those above all numbers that
were counted before, and that were not chosen before. -/
def countable (earlier : List Placed) : Set Nat :=
  {n | 1 ≤ n ∧ (∀ q ∈ earlier, q.request.id = none → q.id.value.toNat < n) ∧
    ∀ q ∈ earlier, ∀ id, q.request.id = some id → id.value.toNat ≠ n}

/-- The identity of a request that comes after others is the one that it names, or else the least
number that may be counted. -/
def Fits (earlier : List Placed) (p : Placed) : Prop :=
  match p.request.id with
  | some id => p.id = id
  | none => IsLeast (countable earlier) p.id.value.toNat

/-- Each request of a list has the identity that it gets after those before it. -/
inductive Assigned : List Placed → Prop
  | nil : Assigned []
  | next {earlier : List Placed} {p : Placed} (before : Assigned earlier) (fits : p.Fits earlier) :
    Assigned (earlier ++ [p])

variable {earlier : List Placed} {p q : Placed} {id : SceneId} {n : Nat}

theorem Fits.id_eq (fits : p.Fits earlier) (chosen : p.request.id = some id) : p.id = id := by
  rwa [Fits, chosen] at fits

theorem Fits.isLeast (fits : p.Fits earlier) (counted : p.request.id = none) :
    IsLeast (countable earlier) p.id.value.toNat := by
  rwa [Fits, counted] at fits

theorem fits_of_id_eq (chosen : p.request.id = some id) (same : p.id = id) : p.Fits earlier := by
  rwa [Fits, chosen]

theorem fits_of_isLeast (counted : p.request.id = none)
    (least : IsLeast (countable earlier) p.id.value.toNat) : p.Fits earlier := by
  rwa [Fits, counted]

/-- The same request after the same others gets the same identity. -/
theorem Fits.unique (fits : p.Fits earlier) (fits' : q.Fits earlier)
    (same : p.request = q.request) : p = q := by
  obtain ⟨request, id⟩ := p
  obtain ⟨request', id'⟩ := q
  obtain rfl : request = request' := same
  congr 1
  cases chosen : request.id with
  | some named => exact (fits.id_eq chosen).trans (fits'.id_eq chosen).symm
  | none =>
      have number := (fits.isLeast chosen).unique (fits'.isLeast chosen)
      cases id
      cases id'
      exact congrArg SceneId.mk (UInt32.toNat_inj.mp number)

namespace Assigned

/-- Whatever stands in the list has an identity that fits what stands before it. -/
theorem split {placed later : List Placed} (assigned : Assigned placed)
    (at' : placed = earlier ++ p :: later) : Assigned earlier ∧ p.Fits earlier := by
  induction assigned generalizing later with
  | nil => simp at at'
  | @next before q assigned fits ih =>
      rcases List.eq_nil_or_concat later with rfl | ⟨later, last, rfl⟩
      · obtain ⟨rfl, same⟩ := List.append_inj' at' rfl
        obtain rfl := (List.cons.inj same).1
        exact ⟨assigned, fits⟩
      · rw [List.concat_eq_append, ← List.cons_append, ← List.append_assoc] at at'
        exact ih (List.append_inj' at' rfl).1

theorem unique {placed other : List Placed} (assigned : Assigned placed)
    (assigned' : Assigned other) (same : other.map request = placed.map request) :
    other = placed := by
  induction assigned generalizing other with
  | nil => exact List.map_eq_nil_iff.mp same
  | @next earlier p assigned fits ih =>
      cases assigned' with
      | nil => simp at same
      | @next earlier' q assigned' fits' =>
          simp only [List.map_append, List.map_cons, List.map_nil] at same
          obtain ⟨before, here⟩ := List.append_inj' same rfl
          obtain rfl := ih assigned' before
          rw [fits'.unique fits (List.cons.inj here).1]

/-- A request of the list that names an identity has it. -/
theorem id_eq {placed : List Placed} (assigned : Assigned placed) (held : q ∈ placed)
    (chosen : q.request.id = some id) : q.id = id := by
  obtain ⟨earlier, later, here⟩ := List.append_of_mem held
  exact (assigned.split here).2.id_eq chosen

/-- A counted identity belongs to no request before. -/
theorem id_notMem (assigned : Assigned earlier) (fits : p.Fits earlier)
    (counted : p.request.id = none) : p.id ∉ earlier.map Placed.id := by
  intro used
  obtain ⟨q, held, same⟩ := List.mem_map.mp used
  obtain ⟨-, above, unchosen⟩ := (fits.isLeast counted).1
  cases chosen : q.request.id with
  | none => exact absurd (above q held chosen) (by rw [same]; exact Nat.lt_irrefl _)
  | some id =>
      refine unchosen q held id chosen ?_
      rw [← assigned.id_eq held chosen, same]

/-- What is below the next number to be counted was chosen, or is not above all that were counted
before. -/
theorem mem_or_le_of_lt (assigned : Assigned earlier) (least : IsLeast (countable earlier) n)
    {m : Nat} (positive : 1 ≤ m) (below : m < n) :
    m ∈ earlier.map (fun q => q.id.value.toNat) ∨
      ∃ q ∈ earlier, q.request.id = none ∧ m ≤ q.id.value.toNat := by
  by_contra other
  obtain ⟨unused, above⟩ := not_or.mp other
  refine absurd (least.2 ⟨positive, ?_, ?_⟩) (Nat.not_le.mpr below)
  · intro q held counted
    by_contra high
    exact above ⟨q, held, counted, Nat.not_lt.mp high⟩
  · rintro q held id chosen rfl
    rw [← assigned.id_eq held chosen] at unused
    exact unused (List.mem_map_of_mem held)

/-- Every number up to one that was counted belongs to a request of the list. -/
theorem mem_of_le {placed : List Placed} (assigned : Assigned placed) (held : q ∈ placed)
    (counted : q.request.id = none) {m : Nat} (positive : 1 ≤ m) (le : m ≤ q.id.value.toNat) :
    m ∈ placed.map fun q => q.id.value.toNat := by
  induction assigned generalizing q with
  | nil => simp at held
  | @next earlier p assigned fits ih =>
      rw [List.map_append]
      rcases List.mem_append.mp held with before | here
      · exact List.mem_append_left _ (ih before counted le)
      · obtain rfl := List.mem_singleton.mp here
        rcases Nat.lt_or_eq_of_le le with below | rfl
        · refine List.mem_append_left _ ?_
          rcases assigned.mem_or_le_of_lt (fits.isLeast counted) positive below with
            used | ⟨q, before, counted, le⟩
          · exact used
          · exact ih before counted le
        · exact List.mem_append_right _ (List.mem_singleton.mpr rfl)

/-- Every number below the next one to be counted belongs to a request of the list. -/
theorem mem_of_lt (assigned : Assigned earlier) (least : IsLeast (countable earlier) n) {m : Nat}
    (positive : 1 ≤ m) (below : m < n) : m ∈ earlier.map fun q => q.id.value.toNat := by
  rcases assigned.mem_or_le_of_lt least positive below with used | ⟨q, held, counted, le⟩
  · exact used
  · exact assigned.mem_of_le held counted positive le

/-- So the next number to be counted exceeds the number of requests by no more than one. -/
theorem le_length (assigned : Assigned earlier) (least : IsLeast (countable earlier) n) :
    n ≤ earlier.length + 1 := by
  have inside : List.range' 1 (n - 1) ⊆ earlier.map fun q => q.id.value.toNat := by
    intro m member
    obtain ⟨positive, below⟩ := List.mem_range'_1.mp member
    exact assigned.mem_of_lt least positive (by omega)
  have := ((List.nodup_range' 1).subperm inside).length_le
  rw [List.length_range', List.length_map] at this
  omega

end Assigned

/-- There is always a next number to be counted; the numbers beyond the words show it. -/
theorem exists_isLeast_countable (earlier : List Placed) : ∃ n, IsLeast (countable earlier) n := by
  have beyond : 2 ^ 32 ∈ countable earlier :=
    ⟨by omega, fun q _ _ => q.id.value.toNat_lt, fun _ _ id _ => Nat.ne_of_lt id.value.toNat_lt⟩
  obtain ⟨n, held, least⟩ := WellFounded.has_min Nat.lt_wfRel.wf _ ⟨_, beyond⟩
  exact ⟨n, held, fun m held => Nat.not_lt.mp (least m held)⟩

/-- The requests of a plan can be placed, as long as there are fewer of them than words. -/
theorem exists_assigned (requests : List SceneRequest) (few : requests.length < 2 ^ 32) :
    ∃ placed, Assigned placed ∧ placed.map request = requests := by
  induction requests using List.reverseRecOn with
  | nil => exact ⟨[], .nil, rfl⟩
  | append_singleton before request ih =>
      rw [List.length_append, List.length_singleton] at few
      obtain ⟨earlier, assigned, rfl⟩ := ih (by omega)
      rw [List.length_map] at few
      cases chosen : request.id with
      | some id =>
          exact ⟨_, assigned.next (fits_of_id_eq (p := ⟨request, id⟩) chosen rfl), by simp⟩
      | none =>
          obtain ⟨n, least⟩ := exists_isLeast_countable earlier
          have small : n < 2 ^ 32 := by
            have := assigned.le_length least
            omega
          have number : (UInt32.ofNat n).toNat = n := UInt32.toNat_ofNat_of_lt' small
          have fits : Fits earlier ⟨request, ⟨UInt32.ofNat n⟩⟩ :=
            fits_of_isLeast chosen (by rwa [number])
          exact ⟨_, assigned.next fits, by simp⟩

end Placed

end SceneBench
