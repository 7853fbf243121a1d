import SceneBench.Proofs.Registry.Calls
import SceneBench.Proofs.Registry.Identities
import SceneBench.Proofs.Registry.Requests
import Mathlib.Order.Bounds.Basic

/-!
# What bounds the counter

The counter of a registry passes over identities that are in use when it comes to them, and those
come and go. What bounds it is not what is registered now but what was ever asked for: every number
below the counter was the identity of some creation, and so was every identity in use. There are at
most as many such identities as there were creations, so within one more step the counter finds one
that is free. None of this depends on what the producer does.
-/

namespace SceneBench

variable {σ π ρ : Type}

namespace SceneId

/-- What lies at the distance of a number beyond a counter is that number. -/
theorem beyond_distance {counter n : UInt32} (above : counter ≤ n) :
    beyond counter (n.toNat - counter.toNat) = ⟨n⟩ := by
  have number := toNat_beyond counter (n.toNat - counter.toNat)
  have small := n.toNat_lt
  rw [UInt32.le_iff_toNat_le] at above
  rw [Nat.add_sub_cancel' above, Nat.mod_eq_of_lt small] at number
  exact congrArg mk (UInt32.toNat_inj.mp number)

end SceneId

namespace Registry

/-! ## One search -/

section Searching

variable {r : Registry π ρ} {counter free : UInt32}

/-- The numbers from a counter on under which nothing is registered. -/
def freeFrom (r : Registry π ρ) (counter : UInt32) : Set UInt32 :=
  {n | counter ≤ n ∧ r.contains ⟨n⟩ = false}

/-- A search steps over numbers in use, never beyond the last one there is, and ends at a free
one. -/
inductive SearchesTo (r : Registry π ρ) : UInt32 → UInt32 → Prop
  | here {n : UInt32} (free : r.contains ⟨n⟩ = false) : SearchesTo r n n
  | step {n m : UInt32} (used : r.contains ⟨n⟩ = true) (fits : n.toNat + 1 < 2 ^ 32)
      (further : SearchesTo r (n + 1) m) : SearchesTo r n m

theorem toNat_add_one {n : UInt32} (fits : n.toNat + 1 < 2 ^ 32) :
    (n + 1).toNat = n.toNat + 1 := by
  rw [UInt32.toNat_add, UInt32.toNat_one, Nat.mod_eq_of_lt fits]

/-- Nothing keeps a search from the least free number; by induction on its distance. -/
theorem searchesTo_of_isLeast (least : IsLeast (r.freeFrom counter) free) :
    r.SearchesTo counter free := by
  obtain ⟨⟨above, unused⟩, lower⟩ := least
  rw [UInt32.le_iff_toNat_le] at above
  generalize distance : free.toNat - counter.toNat = steps
  induction steps generalizing counter with
  | zero =>
      obtain rfl : counter = free := UInt32.toNat_inj.mp (by omega)
      exact .here unused
  | succ steps ih =>
      have small := free.toNat_lt
      have next : (counter + 1).toNat = counter.toNat + 1 := toNat_add_one (by omega)
      have used : r.contains ⟨counter⟩ = true := by
        by_contra other
        have := lower ⟨UInt32.le_refl _, Bool.not_eq_true _ ▸ other⟩
        rw [UInt32.le_iff_toNat_le] at this
        omega
      refine .step used (by omega) (ih ?_ ?_ (by omega))
      · rintro n ⟨beyond, unused'⟩
        refine lower ⟨?_, unused'⟩
        rw [UInt32.le_iff_toNat_le] at beyond ⊢
        omega
      · omega

/-- Counting ends at the least free number, if there is one at all. -/
theorem isLeast_allocate (held : free ∈ r.freeFrom r.nextId) :
    IsLeast (r.freeFrom r.nextId) r.allocate.1.value := by
  obtain ⟨steps, bound, stop, passed, ended⟩ := r.firstFree_eq r.size r.nextId
  replace stop : r.allocate.1 = .beyond r.nextId steps := stop
  -- a free number stops the search, so the search is not beyond it
  have within : ∀ m ∈ r.freeFrom r.nextId, r.nextId.toNat + steps ≤ m.toNat := by
    rintro m ⟨above, unused⟩
    have order := UInt32.le_iff_toNat_le.mp above
    by_contra far
    have used := passed (m.toNat - r.nextId.toNat) (by omega)
    rw [SceneId.beyond_distance above, unused] at used
    cases used
  have small := free.toNat_lt
  have reach := within free held
  have number : r.allocate.1.value.toNat = r.nextId.toNat + steps := by
    rw [stop, SceneId.toNat_beyond]
    omega
  refine ⟨⟨?_, ?_⟩, fun m other => ?_⟩
  · rw [UInt32.le_iff_toNat_le]
    omega
  · rw [show (⟨r.allocate.1.value⟩ : SceneId) = _ from stop, ← Bool.not_eq_true]
    intro used
    rcases Nat.lt_or_eq_of_le bound with early | late
    · rw [ended early] at used
      cases used
    · have all : ∀ i < steps + 1, r.contains (.beyond r.nextId i) = true := by
        intro i hi
        rcases Nat.lt_or_eq_of_le (Nat.le_of_lt_succ hi) with before | here
        · exact passed i before
        · rw [here]
          exact used
      have := steps_le_size (by omega) all
      omega
  · rw [UInt32.le_iff_toNat_le, number]
    exact within m other

end Searching

/-! ## One request -/

section Requests

variable [Producer π] [Routine ρ] (r : Registry π ρ) (host : Host σ) (w : World σ)

/-- A creation moves the counter as its choice of an identity does. Only one that comes off
registers something, under the identity that was chosen. -/
theorem create_counts (chosen : Option SceneId) (settings : SceneSettings) (setup : Setup ρ) :
    let done := ((r.create chosen settings setup).run host w).1
    done.2.nextId = (r.chooseId chosen).2.nextId ∧
      ((∃ e, done.1 = .error e) ∧ done.2.pairs = r.pairs ∨
        done.1 = .ok (r.chooseId chosen).1 ∧
          ∃ pair, done.2.pairs = r.pairs ++ [((r.chooseId chosen).1, pair)]) := by
  cases free : r.contains (r.chooseId chosen).1 with
  | true =>
      rw [create_of_contains free, Action.run_pure]
      exact ⟨rfl, .inl ⟨⟨_, rfl⟩, pairs_chooseId r chosen⟩⟩
  | false =>
      rw [run_create_eq free]
      dsimp only
      split
      · exact ⟨rfl, .inl ⟨⟨_, rfl⟩, pairs_chooseId r chosen⟩⟩
      · split
        · exact ⟨rfl, .inl ⟨⟨_, rfl⟩, pairs_chooseId r chosen⟩⟩
        · split
          · exact ⟨rfl, .inl ⟨⟨_, rfl⟩, pairs_chooseId r chosen⟩⟩
          · exact ⟨rfl, .inr ⟨rfl, _, rfl⟩⟩

/-- A change of state moves neither the counter nor what is registered. -/
theorem setState_counts (id : SceneId) (kind : Kind) (state : UInt32) :
    let r' := ((r.setState id kind state).run host w).1.2
    r'.nextId = r.nextId ∧ r'.pairs.map Prod.fst = r.pairs.map Prod.fst := by
  cases found : r.find? id with
  | none =>
      rw [setState_of_missing found]
      exact ⟨rfl, rfl⟩
  | some pair =>
      by_cases right : Routine.kind pair.routine = kind
      · subst right
        rw [run_setState_eq found]
        split
        · exact ⟨rfl, Table.keys_replace ..⟩
        · exact ⟨rfl, Table.keys_replace ..⟩
      · rw [setState_of_mismatch found right]
        exact ⟨rfl, rfl⟩

omit [Routine ρ] in
theorem edit_counts (id : SceneId) (change : Edit) :
    (r.edit id change).2.nextId = r.nextId ∧ (r.edit id change).2.pairs = r.pairs := by
  cases found : r.find? id with
  | none =>
      rw [edit_of_missing found]
      exact ⟨rfl, rfl⟩
  | some pair =>
      rw [edit_eq found]
      split
      · exact ⟨rfl, rfl⟩
      · exact ⟨rfl, rfl⟩

omit [Routine ρ] in
/-- Destroying leaves the counter alone, and registers nothing. -/
theorem destroy_counts (id : SceneId) :
    let r' := ((r.destroy id).run host w).1.2
    r'.nextId = r.nextId ∧ r'.pairs ⊆ r.pairs := by
  cases found : r.find? id with
  | none =>
      rw [run_destroy_of_missing found]
      exact ⟨rfl, List.Subset.refl _⟩
  | some pair =>
      rw [run_destroy_eq found]
      exact ⟨rfl, List.filter_subset_self _⟩

omit [Routine ρ] in
theorem destroyEach_counts (ids : List SceneId) :
    let r' := ((r.destroyEach ids).run host w).1
    r'.nextId = r.nextId ∧ r'.pairs ⊆ r.pairs := by
  induction ids generalizing r w with
  | nil => exact ⟨rfl, List.Subset.refl _⟩
  | cons id rest ih =>
      obtain ⟨counter, fewer⟩ := r.destroy_counts host w id
      simp only [destroyEach, Action.run_bind]
      obtain ⟨counter', fewer'⟩ := ih ((r.destroy id).run host w).1.2 ((r.destroy id).run host w).2
      exact ⟨counter'.trans counter, List.Subset.trans fewer' fewer⟩

end Requests
end Registry

/-! ## One call -/

namespace Call

/-- The identity that a call asks a scene to be created under. -/
def identity? (r : Registry π ρ) : Call ρ → Option SceneId
  | create chosen _ _ => some (r.chooseId chosen).1
  | setState .. | edit .. | destroy .. | destroyAll => none

/-- Where a call leaves the counter. -/
def counter (r : Registry π ρ) : Call ρ → UInt32
  | create chosen _ _ => (r.chooseId chosen).2.nextId
  | setState .. | edit .. | destroy .. | destroyAll => r.nextId

/-- How many identities a call asks to be counted. -/
def countings : Call ρ → Nat
  | create none _ _ => 1
  | create (some _) _ _ | setState .. | edit .. | destroy .. | destroyAll => 0

def countingsAll (calls : List (Call ρ)) : Nat := (calls.map countings).sum

theorem length_identity? (r : Registry π ρ) (call : Call ρ) :
    (call.identity? r).toList.length = call.creations := by
  cases call <;> rfl

theorem creationsAll_append (calls further : List (Call ρ)) :
    creationsAll (calls ++ further) = creationsAll calls + creationsAll further := by
  simp [creationsAll]

/-- Where no creation chooses its identity, all of them are counted. -/
theorem countingsAll_eq_creationsAll {calls : List (Call ρ)}
    (counted : ∀ id settings setup, create (some id) settings setup ∉ calls) :
    countingsAll calls = creationsAll calls := by
  refine congrArg List.sum (List.map_congr_left fun call held => ?_)
  cases call with
  | create chosen settings setup =>
      cases chosen with
      | none => rfl
      | some id => exact absurd held (counted id settings setup)
  | setState => rfl
  | edit => rfl
  | destroy => rfl
  | destroyAll => rfl

section Counters

variable [Producer π] [Routine ρ] (r : Registry π ρ) (host : Host σ) (w : World σ)
  (call : Call ρ)

theorem nextId_perform : ((call.perform r).run host w).1.2.nextId = call.counter r := by
  cases call <;> simp only [perform, Action.run_bind, Action.run_pure]
  case create chosen settings setup => exact (r.create_counts host w chosen settings setup).1
  case setState id kind state => exact (r.setState_counts host w id kind state).1
  case edit id change => exact (r.edit_counts id change).1
  case destroy id => exact (r.destroy_counts host w id).1
  case destroyAll => exact (r.destroyEach_counts host w _).1

/-- What is registered after a call was registered before, or is what the call has created. -/
theorem contains_perform {id : SceneId}
    (used : ((call.perform r).run host w).1.2.contains id = true) :
    r.contains id = true ∨ call.identity? r = some id := by
  rw [Registry.contains_iff_mem] at used ⊢
  cases call <;> simp only [perform, Action.run_bind, Action.run_pure] at used
  case create chosen settings setup =>
    rcases (r.create_counts host w chosen settings setup).2 with
      ⟨-, same⟩ | ⟨-, pair, more⟩
    · rw [same] at used
      exact .inl used
    · rw [more, List.map_append, List.mem_append] at used
      refine used.imp_right fun new => ?_
      exact congrArg some (List.mem_singleton.mp new).symm
  case setState id' kind state =>
    rw [(r.setState_counts host w id' kind state).2] at used
    exact .inl used
  case edit id' change =>
    rw [(r.edit_counts id' change).2] at used
    exact .inl used
  case destroy id' => exact .inl (List.map_subset _ (r.destroy_counts host w id').2 used)
  case destroyAll => exact .inl (List.map_subset _ (r.destroyEach_counts host w _).2 used)

end Counters

end Call

/-! ## What was asked for bounds the counter -/

namespace Registry

/-- Some identities were named by creations, and some of these were counted. Whatever is registered
was named, and so was every number that the counter has passed. -/
structure Counted (r : Registry π ρ) (named : List SceneId) (counted : Nat) : Prop where
  counted : counted + 1 ≤ r.nextId.toNat
  bound : r.nextId.toNat ≤ named.length + 1
  used : ∀ id, r.contains id = true → id ∈ named
  passed : ∀ n : UInt32, 1 ≤ n.toNat → n.toNat < r.nextId.toNat → (⟨n⟩ : SceneId) ∈ named

namespace Counted

variable {r r' : Registry π ρ} {named more : List SceneId} {counted : Nat}

theorem new (p : π) : Counted ({ producer := p } : Registry π ρ) [] 0 where
  counted := Nat.le_refl _
  bound := Nat.le_refl _
  used := by simp [contains, find?]
  passed n positive below := absurd positive (Nat.not_le.mpr below)

/-- Further names do no harm as long as the counter stands still. -/
theorem grow (counts : r.Counted named counted) (same : r'.nextId = r.nextId)
    (used : ∀ id, r'.contains id = true → id ∈ named ++ more) :
    r'.Counted (named ++ more) counted where
  counted := by rw [same]; exact counts.counted
  bound := by
    have := counts.bound
    rw [same, List.length_append]
    omega
  used := used
  passed n positive below := by
    rw [same] at below
    exact List.mem_append_left _ (counts.passed n positive below)

/-- Among the first numbers, one more than were named, there is one that was not. -/
theorem exists_free (counts : r.Counted named counted) (few : named.length + 1 < 2 ^ 32) :
    ∃ n ∈ r.freeFrom r.nextId, n.toNat ≤ named.length + 1 := by
  by_contra none
  have inside : List.range' 1 (named.length + 1) ⊆ named.map fun id => id.value.toNat := by
    intro m member
    obtain ⟨positive, below⟩ := List.mem_range'_1.mp member
    have small : m < 2 ^ 32 := by omega
    have number : (UInt32.ofNat m).toNat = m := UInt32.toNat_ofNat_of_lt' small
    refine List.mem_map.mpr ⟨⟨UInt32.ofNat m⟩, ?_, number⟩
    rcases Nat.lt_or_ge (UInt32.ofNat m).toNat r.nextId.toNat with behind | ahead
    · exact counts.passed _ (by omega) behind
    · refine counts.used _ ?_
      by_contra unused
      have ahead' := UInt32.le_iff_toNat_le.mpr ahead
      exact none ⟨_, ⟨ahead', Bool.not_eq_true _ ▸ unused⟩, by omega⟩
  have := ((List.nodup_range' 1).subperm inside).length_le
  rw [List.length_range', List.length_map] at this
  omega

/-- So the next counted identity is the least free number, and no larger than that. -/
theorem allocate (counts : r.Counted named counted) (few : named.length + 1 < 2 ^ 32) :
    IsLeast (r.freeFrom r.nextId) r.allocate.1.value ∧
      r.allocate.1.value.toNat ≤ named.length + 1 := by
  obtain ⟨n, free, small⟩ := counts.exists_free few
  have least := isLeast_allocate free
  have le := UInt32.le_iff_toNat_le.mp (least.2 free)
  exact ⟨least, by omega⟩

/-- After that the counter stands one above it, as words go that far. -/
theorem nextId_allocate (counts : r.Counted named counted) (few : named.length + 2 < 2 ^ 32) :
    r.allocate.2.nextId.toNat = r.allocate.1.value.toNat + 1 := by
  obtain ⟨-, small⟩ := counts.allocate (by omega)
  exact toNat_add_one (n := r.allocate.1.value) (by omega)

/-- Counting an identity moves the counter past it, over nothing but identities in use. -/
theorem count (counts : r.Counted named counted) (few : named.length + 2 < 2 ^ 32)
    (next : r'.nextId = r.allocate.2.nextId)
    (used : ∀ id, r'.contains id = true → id ∈ named ++ [r.allocate.1]) :
    r'.Counted (named ++ [r.allocate.1]) (counted + 1) := by
  obtain ⟨⟨⟨above, -⟩, lower⟩, small⟩ := counts.allocate (by omega)
  rw [UInt32.le_iff_toNat_le] at above
  have number : r'.nextId.toNat = r.allocate.1.value.toNat + 1 := by
    rw [next, counts.nextId_allocate few]
  constructor
  case counted =>
    have := counts.counted
    omega
  case bound =>
    rw [List.length_append, List.length_singleton]
    omega
  case used => exact used
  case passed =>
    intro n positive below
    rw [number] at below
    by_cases here : n = r.allocate.1.value
    · exact List.mem_append_right _ (List.mem_singleton.mpr (congrArg SceneId.mk here))
    · refine List.mem_append_left _ ?_
      rcases Nat.lt_or_ge n.toNat r.nextId.toNat with behind | ahead
      · exact counts.passed n positive behind
      · refine counts.used _ ?_
        by_contra unused
        have ahead' := UInt32.le_iff_toNat_le.mpr ahead
        have := UInt32.le_iff_toNat_le.mp (lower ⟨ahead', Bool.not_eq_true _ ▸ unused⟩)
        exact here (UInt32.toNat_inj.mp (by omega))

variable [Producer π] [Routine ρ]

/-- One call names at most the identity of its creation, and never turns the counter back. -/
theorem perform (counts : r.Counted named counted) (call : Call ρ)
    (few : named.length + call.creations + 1 < 2 ^ 32) (host : Host σ) (w : World σ) :
    let r' := ((call.perform r).run host w).1.2
    r'.Counted (named ++ (call.identity? r).toList) (counted + call.countings) ∧
      r.nextId ≤ r'.nextId := by
  have next := call.nextId_perform r host w
  have used : ∀ id, ((call.perform r).run host w).1.2.contains id = true →
      id ∈ named ++ (call.identity? r).toList := by
    intro id held
    rcases call.contains_perform r host w held with before | now
    · exact List.mem_append_left _ (counts.used id before)
    · exact List.mem_append_right _ (by rw [now]; exact List.mem_singleton_self id)
  -- only a counted identity moves the counter
  have still (same : call.counter r = r.nextId) (none : call.countings = 0) :
      ((call.perform r).run host w).1.2.Counted (named ++ (call.identity? r).toList)
          (counted + call.countings) ∧
        r.nextId ≤ ((call.perform r).run host w).1.2.nextId := by
    rw [none]
    exact ⟨counts.grow (next.trans same) used, by rw [next, same]; exact UInt32.le_refl _⟩
  cases call with
  | create chosen settings setup =>
      cases chosen with
      | some id => exact still rfl rfl
      | none =>
          refine ⟨counts.count few next used, ?_⟩
          have above := (counts.allocate (Nat.lt_of_succ_lt few)).1.1.1
          replace next : _ = r.allocate.2.nextId := next
          rw [UInt32.le_iff_toNat_le] at above ⊢
          rw [next, counts.nextId_allocate few]
          exact Nat.le_succ_of_le above
  | setState => exact still rfl rfl
  | edit => exact still rfl rfl
  | destroy => exact still rfl rfl
  | destroyAll => exact still rfl rfl

end Counted

end Registry

end SceneBench
