import SceneBench.Proofs.Registry.Links
import Mathlib.Data.List.Perm.Subperm

/-!
# Counted identities

Counting up to a free identity passes over identities in use only, and passes over each of them at
most once. Hence it takes no more steps than the registry has identities, and what it ends at is
free unless no identity is.
-/

namespace SceneBench

/-- The identity so many steps after a number, counted around the end of the words. -/
def SceneId.beyond (counter : UInt32) (steps : Nat) : SceneId := ⟨counter + UInt32.ofNat steps⟩

namespace SceneId

@[simp] theorem beyond_zero (counter : UInt32) : beyond counter 0 = ⟨counter⟩ := by
  simp [beyond]

theorem beyond_succ (counter : UInt32) (steps : Nat) :
    beyond counter (steps + 1) = beyond (counter + 1) steps := by
  simp only [beyond, UInt32.ofNat_add, mk.injEq]
  rw [UInt32.add_comm (UInt32.ofNat steps), ← UInt32.add_assoc]
  rfl

theorem toNat_beyond (counter : UInt32) (steps : Nat) :
    (beyond counter steps).value.toNat = (counter.toNat + steps) % 2 ^ 32 := by
  simp [beyond, UInt32.toNat_add]

/-- As long as the words last, different numbers of steps lead to different identities. -/
theorem beyond_inj {counter : UInt32} {i j : Nat} (hi : i < 2 ^ 32) (hj : j < 2 ^ 32)
    (same : beyond counter i = beyond counter j) : i = j := by
  have numbers := congrArg (fun id : SceneId => id.value.toNat) same
  simp only [toNat_beyond] at numbers
  omega

theorem nodup_beyond (counter : UInt32) {count : Nat} (few : count ≤ 2 ^ 32) :
    ((List.range count).map (beyond counter)).Nodup := by
  refine List.Nodup.map_on ?_ List.nodup_range
  intro i hi j hj same
  rw [List.mem_range] at hi hj
  exact beyond_inj (by omega) (by omega) same

end SceneId

namespace Registry

variable {π ρ : Type} {r : Registry π ρ} {id : SceneId}

/-- The search stops at the first free identity, or where it has run out of fuel. -/
theorem firstFree_eq (r : Registry π ρ) (fuel : Nat) (counter : UInt32) :
    ∃ steps ≤ fuel, (⟨r.firstFree fuel counter⟩ : SceneId) = .beyond counter steps ∧
      (∀ i < steps, r.contains (.beyond counter i) = true) ∧
      (steps < fuel → r.contains (.beyond counter steps) = false) := by
  induction fuel generalizing counter with
  | zero => exact ⟨0, Nat.le_refl 0, by simp [firstFree], by simp, by simp⟩
  | succ fuel ih =>
      cases used : r.contains ⟨counter⟩ with
      | false => exact ⟨0, Nat.zero_le _, by simp [firstFree, used], by simp, by simp [used]⟩
      | true =>
          obtain ⟨steps, bound, stop, passed, free⟩ := ih (counter + 1)
          refine ⟨steps + 1, by omega, ?_, ?_, ?_⟩
          · simp only [firstFree, used, if_true, stop, SceneId.beyond_succ]
          · intro i hi
            cases i with
            | zero => simpa using used
            | succ i =>
                rw [SceneId.beyond_succ]
                exact passed i (by omega)
          · intro more
            rw [SceneId.beyond_succ]
            exact free (by omega)

/-- The search ends at a free identity within its reach if it passes over identities in use only. -/
theorem firstFree_eq_of_passed {fuel : Nat} {counter free : UInt32}
    (below : counter.toNat ≤ free.toNat) (reach : free.toNat ≤ counter.toNat + fuel)
    (passed : ∀ n : UInt32, counter.toNat ≤ n.toNat → n.toNat < free.toNat →
      r.contains ⟨n⟩ = true)
    (unused : r.contains ⟨free⟩ = false) : r.firstFree fuel counter = free := by
  induction fuel generalizing counter with
  | zero => exact UInt32.toNat_inj.mp (Nat.le_antisymm below reach)
  | succ fuel ih =>
      rcases Nat.lt_or_eq_of_le below with before | here
      · have next : (counter + 1).toNat = counter.toNat + 1 := by
          have := free.toNat_lt
          rw [UInt32.toNat_add, UInt32.toNat_one]
          omega
        rw [firstFree, if_pos (passed counter (Nat.le_refl _) before)]
        exact ih (by omega) (by omega) fun n above => passed n (by omega)
      · obtain rfl := UInt32.toNat_inj.mp here
        rw [firstFree, if_neg (by simp [unused])]

/-- Passing over identities in use takes no more steps than there are identities in use. -/
theorem steps_le_size {counter : UInt32} {steps : Nat} (few : steps ≤ 2 ^ 32)
    (passed : ∀ i < steps, r.contains (.beyond counter i) = true) : steps ≤ r.size := by
  have inside : (List.range steps).map (SceneId.beyond counter) ⊆ r.pairs.map Prod.fst := by
    intro id member
    obtain ⟨i, hi, rfl⟩ := List.mem_map.mp member
    exact contains_iff_mem.mp (passed i (List.mem_range.mp hi))
  have := ((SceneId.nodup_beyond counter few).subperm inside).length_le
  simpa [size] using this

/-- Where an identity is free there are fewer in use than there are words. -/
theorem size_lt_of_free (ids : (r.pairs.map Prod.fst).Nodup) (free : r.contains id = false) :
    r.size < 2 ^ 32 := by
  have unused : id ∉ r.pairs.map Prod.fst := by
    rw [← contains_iff_mem, free]
    exact Bool.false_ne_true
  have numbers : ((id :: r.pairs.map Prod.fst).map fun id => id.value.toNat).Nodup := by
    refine (List.nodup_cons.mpr ⟨unused, ids⟩).map ?_
    intro a b same
    cases a
    cases b
    exact congrArg SceneId.mk (UInt32.toNat_inj.mp same)
  have inside : ((id :: r.pairs.map Prod.fst).map fun id => id.value.toNat) ⊆
      List.range (2 ^ 32) := by
    intro n member
    obtain ⟨id, -, rfl⟩ := List.mem_map.mp member
    exact List.mem_range.mpr id.value.toNat_lt
  have := (numbers.subperm inside).length_le
  rw [List.length_range] at this
  simpa [size, Nat.succ_le_iff] using this

/-- A counted identity is free, as long as there is a free one at all. -/
theorem contains_allocate (ids : (r.pairs.map Prod.fst).Nodup) (free : r.contains id = false) :
    r.contains r.allocate.1 = false := by
  obtain ⟨steps, bound, stop, passed, ended⟩ := r.firstFree_eq r.size r.nextId
  have few := size_lt_of_free ids free
  rw [show r.allocate.1 = _ from stop]
  rcases Nat.lt_or_eq_of_le bound with early | late
  · exact ended early
  · rw [← Bool.not_eq_true]
    intro used
    have all : ∀ i < steps + 1, r.contains (.beyond r.nextId i) = true := by
      intro i hi
      rcases Nat.lt_or_eq_of_le (Nat.le_of_lt_succ hi) with before | here
      · exact passed i before
      · rw [here]
        exact used
    have := steps_le_size (by omega) all
    omega

end Registry

end SceneBench
