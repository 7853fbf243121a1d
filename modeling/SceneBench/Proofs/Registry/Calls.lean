import SceneBench.Proofs.Registry.Steps
import Mathlib.Algebra.GroupWithZero.Nat

/-!
# Runs of calls

A registry is used by calling it again and again. A call is data here, so that a run is a list of
calls and what holds after every run is proved by induction on it. The routines of a run may be
anything at all, and so may the set-ups: scenes of the standard kinds are made by set-ups of their
own. Soundness is what every call keeps. It needs no more than that handles are left to issue, of
which each creation takes at most one.
-/

namespace SceneBench

variable {σ π ρ : Type}

/-- A call on a registry. -/
inductive Call (ρ : Type) where
  | create (chosen : Option SceneId) (settings : SceneSettings) (setup : Setup ρ)
  | setState (id : SceneId) (kind : Kind) (state : UInt32)
  | edit (id : SceneId) (change : Edit)
  | destroy (id : SceneId)
  | destroyAll

/-- What a call is answered. -/
inductive Reply where
  | created (result : Except SceneError SceneId)
  | moved (result : Except SceneError Unit)
  | edited (result : Except SceneError Scene)
  | destroyed (known : Bool)
  | cleared

namespace Call

/-- Create a scene of a standard kind. -/
def createKind (chosen : Option SceneId) (kind : Kind) (state : UInt32) (camera : Vec3)
    (settings : SceneSettings) : Call StandardRoutine :=
  .create chosen settings (StandardRoutine.setup kind state camera)

/-- Create a scene whose content goes through a file. -/
def createFileLoading (id : SceneId) (camera : Vec3) (storage : StorageSettings)
    (state : UInt32) : Call StandardRoutine :=
  .create (some id) {} (StandardRoutine.setupFileLoading storage state camera)

/-- How many scenes a call asks to be created. -/
def creations : Call ρ → Nat
  | create .. => 1
  | setState .. | edit .. | destroy .. | destroyAll => 0

variable [Producer π] [Routine ρ]

/-- Make a call. -/
def perform (r : Registry π ρ) : Call ρ → Action (Reply × Registry π ρ)
  | create chosen settings setup => do
    let (result, r) ← r.create chosen settings setup
    return (.created result, r)
  | setState id kind state => do
    let (result, r) ← r.setState id kind state
    return (.moved result, r)
  | edit id change =>
    let (result, r) := r.edit id change
    return (.edited result, r)
  | destroy id => do
    let (known, r) ← r.destroy id
    return (.destroyed known, r)
  | destroyAll => do
    let r ← r.destroyAll
    return (.cleared, r)

/-- Make calls one after the other. -/
def performAll (r : Registry π ρ) : List (Call ρ) → Action (List Reply × Registry π ρ)
  | [] => return ([], r)
  | call :: rest => do
    let (reply, r) ← call.perform r
    let (replies, r) ← performAll r rest
    return (reply :: replies, r)

/-- The registry that calls lead to from an empty one. -/
def after (host : Host σ) (w : World σ) (calls : List (Call ρ)) : Registry LocalProducer ρ :=
  ((performAll .empty calls).run host w).1.2

/-- How many scenes calls ask to be created. -/
def creationsAll (calls : List (Call ρ)) : Nat := (calls.map creations).sum

end Call

namespace Registry.Sound

variable {r : Registry LocalProducer ρ} {id : SceneId} {pair : Pair ρ} {h : Handle} {s : Scene}

theorem afterFailure (sound : r.Sound) (left : r.producer.issued.toNat + 1 < 2 ^ 64)
    (chosen : Option SceneId) : (r.afterFailure chosen).Sound := by
  have counted := sound.withNextId (r.chooseId chosen).2.nextId
  refine counted.withIssued (n := r.producer.issued + 1) ?_
  rw [LocalProducer.toNat_issued_add_one left]
  exact Nat.le_succ _

theorem afterCreation (sound : r.Sound) (left : r.producer.issued.toNat + 1 < 2 ^ 64)
    {chosen : Option SceneId} (free : r.contains (r.chooseId chosen).1 = false) (routine : ρ)
    (id : s.id = (r.chooseId chosen).1) (handle : s.handle = r.producer.nextHandle) :
    (r.afterCreation chosen routine s).Sound := by
  have unknown : ¬ r.producer.Live s.id := by
    rw [← sound.producer.find_isSome_iff, sound.find_isSome_iff, id, free]
    exact Bool.false_ne_true
  obtain ⟨-, handles, own, issued⟩ := sound.producer.add left unknown handle
  refine ⟨?_, ?_, handles, own, issued⟩
  · have := sound.links
    simp only [Registry.links, LocalProducer.links] at this
    simp [Registry.links, LocalProducer.links, Registry.afterCreation, LocalProducer.add, this, id]
  · have unused : (r.chooseId chosen).1 ∉ r.pairs.map Prod.fst := by
      rw [← contains_iff_mem, free]
      exact Bool.false_ne_true
    rw [Registry.afterCreation, List.map_append, List.map_singleton, ← List.concat_eq_append]
    exact sound.ids.concat unused

/-- A pair and its scene go together. -/
theorem without (sound : r.Sound) (found : r.find? id = some pair) :
    (r.without id pair.handle).Sound := by
  have linked : (id, pair.handle) ∈ r.links := List.mem_map_of_mem (Table.mem_of_lookup found)
  have ids : (r.links.map Prod.fst).Nodup := by
    simpa [Registry.links, Function.comp_def] using sound.ids
  have handles : (r.links.map Prod.snd).Nodup := by
    rw [sound.links]
    simpa [LocalProducer.links, Function.comp_def] using sound.handles
  constructor
  case links =>
    have left : (r.without id pair.handle).links = r.links.filter fun link => link.1 ≠ id := by
      rw [Registry.links, Registry.links, List.filter_map]
      rfl
    have right : (r.without id pair.handle).producer.links =
        r.producer.links.filter fun link => link.2 ≠ pair.handle := by
      rw [LocalProducer.links, LocalProducer.links, List.filter_map]
      rfl
    rw [left, right, ← sound.links]
    refine List.filter_congr fun link held => ?_
    rw [decide_eq_decide, not_iff_not]
    constructor
    · intro same
      rw [List.inj_on_of_nodup_map ids held linked same]
    · intro same
      rw [List.inj_on_of_nodup_map handles held linked same]
  case ids => exact sound.ids.sublist (List.filter_sublist.map _)
  case handles => exact (sound.producer.release pair.handle).handles
  case own => exact (sound.producer.release pair.handle).own
  case issued => exact (sound.producer.release pair.handle).issued

variable [Routine ρ] (host : Host σ) (w : World σ)

/-! ## What one call keeps -/

theorem create (sound : r.Sound) (left : r.producer.issued.toNat + 1 < 2 ^ 64)
    (chosen : Option SceneId) (settings : SceneSettings) (setup : Setup ρ) :
    let r' := ((r.create chosen settings setup).run host w).1.2
    r'.Sound ∧ r'.producer.issued.toNat ≤ r.producer.issued.toNat + 1 := by
  have count := LocalProducer.toNat_issued_add_one left
  rcases sound.create_cases left chosen settings setup host w with
    ⟨-, refused⟩ | ⟨free, failed | ⟨routine, edits, made⟩⟩
  · rw [refused]
    exact ⟨sound.chooseId chosen, by rw [producer_chooseId]; omega⟩
  · rw [failed]
    exact ⟨sound.afterFailure left chosen, Nat.le_of_eq count⟩
  · rw [made]
    refine ⟨sound.afterCreation left free routine ?_ ?_, Nat.le_of_eq count⟩
    · rw [Scene.id_applyAll, LocalProducer.newScene]
    · rw [Scene.handle_applyAll, LocalProducer.newScene]

theorem setState (sound : r.Sound) (id : SceneId) (kind : Kind) (state : UInt32) :
    let r' := ((r.setState id kind state).run host w).1.2
    r'.Sound ∧ r'.producer.issued = r.producer.issued := by
  cases found : r.find? id with
  | none =>
      rw [setState_of_missing found]
      exact ⟨sound, rfl⟩
  | some pair =>
      by_cases right : Routine.kind pair.routine = kind
      · obtain ⟨s, shown, known, handle⟩ := sound.exists_scene found
        subst right
        rw [run_setState_of_view found shown]
        refine ⟨?_, rfl⟩
        refine (sound.giveBack shown ?_ ?_).replaceRoutine found _
        · rw [Scene.id_applyAll]
        · rw [Scene.handle_applyAll]
      · rw [setState_of_mismatch found right]
        exact ⟨sound, rfl⟩

omit [Routine ρ] in
theorem edit (sound : r.Sound) (id : SceneId) (change : Edit) :
    let r' := (r.edit id change).2
    r'.Sound ∧ r'.producer.issued = r.producer.issued := by
  cases found : r.find? id with
  | none =>
      rw [edit_of_missing found]
      exact ⟨sound, rfl⟩
  | some pair =>
      obtain ⟨s, shown, -, -⟩ := sound.exists_scene found
      rw [edit_of_view found shown]
      exact ⟨sound.giveBack shown (s.id_apply change) (s.handle_apply change), rfl⟩

omit [Routine ρ] in
theorem destroy (sound : r.Sound) (id : SceneId) :
    let r' := ((r.destroy id).run host w).1.2
    r'.Sound ∧ r'.producer.issued = r.producer.issued := by
  cases found : r.find? id with
  | none =>
      rw [run_destroy_of_missing found]
      exact ⟨sound, rfl⟩
  | some pair =>
      rw [sound.run_destroy found]
      exact ⟨sound.without found, rfl⟩

omit [Routine ρ] in
theorem destroyEach (sound : r.Sound) (ids : List SceneId) :
    let r' := ((r.destroyEach ids).run host w).1
    r'.Sound ∧ r'.producer.issued = r.producer.issued := by
  induction ids generalizing r w with
  | nil => exact ⟨sound, rfl⟩
  | cons id rest ih =>
      obtain ⟨kept, issued⟩ := sound.destroy host w id
      simp only [Registry.destroyEach, Action.run_bind]
      obtain ⟨kept', issued'⟩ := ih ((r.destroy id).run host w).2 kept
      exact ⟨kept', issued'.trans issued⟩

/-- One call keeps a registry sound, and issues a handle only where a scene is to be created. -/
theorem perform (sound : r.Sound) (call : Call ρ)
    (left : r.producer.issued.toNat + call.creations < 2 ^ 64) :
    let r' := ((call.perform r).run host w).1.2
    r'.Sound ∧ r'.producer.issued.toNat ≤ r.producer.issued.toNat + call.creations := by
  cases call <;> simp only [Call.perform, Action.run_bind, Action.run_pure]
  case create chosen settings setup => exact sound.create host w left chosen settings setup
  case setState id kind state =>
    obtain ⟨kept, issued⟩ := sound.setState host w id kind state
    exact ⟨kept, Nat.le_of_eq (congrArg UInt64.toNat issued)⟩
  case edit id change =>
    obtain ⟨kept, issued⟩ := sound.edit id change
    exact ⟨kept, Nat.le_of_eq (congrArg UInt64.toNat issued)⟩
  case destroy id =>
    obtain ⟨kept, issued⟩ := sound.destroy host w id
    exact ⟨kept, Nat.le_of_eq (congrArg UInt64.toNat issued)⟩
  case destroyAll =>
    obtain ⟨kept, issued⟩ := sound.destroyEach host w (r.pairs.map Prod.fst)
    exact ⟨kept, Nat.le_of_eq (congrArg UInt64.toNat issued)⟩

/-- A run keeps a registry sound, by induction on its calls. -/
theorem performAll (sound : r.Sound) (calls : List (Call ρ))
    (left : r.producer.issued.toNat + Call.creationsAll calls < 2 ^ 64) :
    let r' := ((Call.performAll r calls).run host w).1.2
    r'.Sound ∧ r'.producer.issued.toNat ≤ r.producer.issued.toNat + Call.creationsAll calls := by
  induction calls generalizing r w with
  | nil => exact ⟨sound, Nat.le_refl _⟩
  | cons call rest ih =>
      have total : Call.creationsAll (call :: rest) = call.creations + Call.creationsAll rest :=
        List.sum_cons
      rw [total] at left
      obtain ⟨kept, issued⟩ := sound.perform host w call (by omega)
      simp only [Call.performAll, Action.run_bind, Action.run_pure, total]
      obtain ⟨kept', issued'⟩ := ih ((call.perform r).run host w).2 kept (by omega)
      exact ⟨kept', by omega⟩

end Registry.Sound

/-- Every run leads to a sound registry and issues no more handles than it creates scenes, unless
it creates scenes beyond the last handle. -/
theorem Call.sound_and_issued_after [Routine ρ] (host : Host σ) (w : World σ)
    {calls : List (Call ρ)} (few : creationsAll calls < 2 ^ 64) :
    (after host w calls).Sound ∧
      (after host w calls).producer.issued.toNat ≤ creationsAll calls := by
  have start : (Registry.empty : Registry LocalProducer ρ).producer.issued.toNat = 0 := rfl
  have := Registry.sound_empty.performAll host w calls (by omega)
  rwa [start, Nat.zero_add] at this

theorem Call.sound_after [Routine ρ] (host : Host σ) (w : World σ) {calls : List (Call ρ)}
    (few : creationsAll calls < 2 ^ 64) : (after host w calls).Sound :=
  (sound_and_issued_after host w few).1

namespace Registry

/-- Some run leads to the registry, and has left a handle for one more scene. -/
def Reachable [Routine ρ] (r : Registry LocalProducer ρ) : Prop :=
  ∃ (σ : Type) (host : Host σ) (w : World σ) (calls : List (Call ρ)),
    Call.creationsAll calls + 1 < 2 ^ 64 ∧ r = Call.after host w calls

namespace Reachable

variable [Routine ρ] {r : Registry LocalProducer ρ}

theorem sound (reachable : r.Reachable) : r.Sound := by
  obtain ⟨_, host, w, calls, few, rfl⟩ := reachable
  exact Call.sound_after host w (by omega)

theorem handle_left (reachable : r.Reachable) : r.producer.issued.toNat + 1 < 2 ^ 64 := by
  obtain ⟨_, host, w, calls, few, rfl⟩ := reachable
  have enough : Call.creationsAll calls < 2 ^ 64 := by omega
  have issued := (Call.sound_and_issued_after host w enough).2
  omega

end Reachable

end Registry

end SceneBench
