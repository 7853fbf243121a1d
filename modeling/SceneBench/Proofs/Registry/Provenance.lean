import SceneBench.Proofs.Registry.Numbering
import Mathlib.Data.List.Induction

/-!
# Where a counted identity was before

The counter passes every identity that it gives out, so none is counted twice. Identities that
callers choose leave the counter alone, and a registry forgets them together with their scenes. When
the counter comes to such a number later, it is given out like any other. So an identity can come
back, but only in this way: a caller chose it, and its scene was destroyed before the counter came
there.
-/

namespace SceneBench.Call

variable {σ π ρ : Type}

/-- A call that takes the scene of an identity off a registry, if there is one. -/
def Destroys (id : SceneId) : Call ρ → Prop
  | destroy id' => id' = id
  | destroyAll => True
  | create .. | setState .. | edit .. => False

variable [Producer π] [Routine ρ]

/-- What is registered stays so until it is destroyed. -/
theorem contains_perform_of_contains {r : Registry π ρ} {id : SceneId} {call : Call ρ}
    (used : r.contains id = true) (spared : ¬ call.Destroys id) (host : Host σ) (w : World σ) :
    ((call.perform r).run host w).1.2.contains id = true := by
  rw [Registry.contains_iff_mem] at used ⊢
  cases call <;> simp only [perform, Action.run_bind, Action.run_pure]
  case create chosen settings setup =>
    rcases (r.create_counts host w chosen settings setup).2 with ⟨-, same⟩ | ⟨-, pair, more⟩
    · rw [same]
      exact used
    · rw [more, List.map_append]
      exact List.mem_append_left _ used
  case setState id' kind state =>
    rw [(r.setState_counts host w id' kind state).2]
    exact used
  case edit id' change =>
    rw [(r.edit_counts id' change).2]
    exact used
  case destroy id' =>
    cases found : r.find? id' with
    | none =>
        rw [Registry.run_destroy_of_missing found]
        exact used
    | some pair =>
        obtain ⟨entry, held, rfl⟩ := List.mem_map.mp used
        rw [Registry.run_destroy_eq found]
        refine List.mem_map_of_mem (List.mem_filter.mpr ⟨held, ?_⟩)
        simpa using fun same => spared same.symm
  case destroyAll => exact absurd trivial spared

variable (p : π) (host : Host σ) (w : World σ) {calls earlier later : List (Call ρ)}
  {settings : SceneSettings} {setup : Setup ρ} {id : SceneId}

theorem reached_concat (calls : List (Call ρ)) (call : Call ρ) :
    (reached p host w (calls ++ [call])).1 =
      ((call.perform (reached p host w calls).1).run host (reached p host w calls).2).1.2 := by
  rw [reached_append, follow_cons, follow_nil]

/-- What is registered at the end of a run, some call has asked to be created. -/
theorem exists_identity? (used : (reached p host w calls).1.contains id = true) :
    ∃ before call after, calls = before ++ call :: after ∧
      call.identity? (reached p host w before).1 = some id := by
  induction calls using List.reverseRecOn with
  | nil => cases used
  | append_singleton calls call ih =>
      rw [reached_concat] at used
      rcases call.contains_perform _ host _ used with earlier | now
      · obtain ⟨before, namer, after, split, named⟩ := ih earlier
        refine ⟨before, namer, after ++ [call], ?_, named⟩
        rw [split, List.append_assoc, List.cons_append]
      · exact ⟨calls, call, [], rfl, now⟩

/-- What is not registered any more has been destroyed. -/
theorem exists_destroys (between : List (Call ρ))
    (used : (reached p host w earlier).1.contains id = true)
    (gone : (reached p host w (earlier ++ between)).1.contains id = false) :
    ∃ call ∈ between, call.Destroys id := by
  induction between using List.reverseRecOn with
  | nil =>
      rw [List.append_nil, used] at gone
      cases gone
  | append_singleton between call ih =>
      by_cases destroyed : call.Destroys id
      · exact ⟨call, by simp, destroyed⟩
      · cases still : (reached p host w (earlier ++ between)).1.contains id with
        | false =>
            obtain ⟨destroyer, member, destroys⟩ := ih still
            exact ⟨destroyer, List.mem_append_left _ member, destroys⟩
        | true =>
            have kept := contains_perform_of_contains still destroyed host
              (reached p host w (earlier ++ between)).2
            rw [← reached_concat, List.append_assoc, gone] at kept
            cases kept

/-- The counter is past an identity from the time it was counted. -/
theorem lt_nextId_of_counted (between : List (Call ρ))
    (few : creationsAll (earlier ++ create none settings setup :: between) + 1 < 2 ^ 32) :
    (reached p host w earlier).1.allocate.1.value <
      (reached p host w (earlier ++ create none settings setup :: between)).1.nextId := by
  have split : earlier ++ create none settings setup :: between =
      earlier ++ [create none settings setup] ++ between := by simp
  rw [split] at few ⊢
  have up := nextId_le_reached_append p host w (earlier ++ [create none settings setup]) between few
  have here : creationsAll (earlier ++ [create none settings setup]) ≤ 2 ^ 32 - 2 := by
    rw [creationsAll_append] at few
    omega
  obtain ⟨named, -, room, counts⟩ := counted_reached_of_create p host w here rfl
  have past : (counter (reached p host w earlier).1 (create none settings setup)).toNat =
      (reached p host w earlier).1.allocate.1.value.toNat + 1 := counts.nextId_allocate room
  rw [nextId_reached_concat, UInt32.le_iff_toNat_le, past] at up
  rw [UInt32.lt_iff_toNat_lt]
  omega

/-- No identity that an earlier creation has counted is counted here. -/
theorem counted_ne (few : creationsAll calls ≤ 2 ^ 32 - 2)
    (here : calls = earlier ++ create none settings setup :: later) {before between : List (Call ρ)}
    {settings' : SceneSettings} {setup' : Setup ρ}
    (split : earlier = before ++ create none settings' setup' :: between) :
    (reached p host w before).1.allocate.1 ≠ (reached p host w earlier).1.allocate.1 := by
  obtain ⟨named, length, room, counts⟩ := counted_reached_of_create p host w few here
  have behind : (reached p host w before).1.allocate.1.value <
      (reached p host w earlier).1.nextId := by
    subst split
    exact lt_nextId_of_counted p host w between (by omega)
  have ahead := (counts.allocate (by omega)).1.1.1
  rw [UInt32.lt_iff_toNat_lt] at behind
  rw [UInt32.le_iff_toNat_le] at ahead
  intro same
  rw [same] at behind
  omega

/-- The identity of a counted creation that comes off was not the identity of an earlier counted
one. If it was registered at any earlier time, then a caller had chosen it before that time, and has
destroyed its scene since. -/
theorem chosen_and_destroyed (few : creationsAll calls ≤ 2 ^ 32 - 2)
    (here : calls = earlier ++ create none settings setup :: later)
    (ok : (((reached p host w earlier).1.create none settings setup).run host
      (reached p host w earlier).2).1.1 = .ok id) :
    (∀ before settings' setup' between,
      earlier = before ++ create none settings' setup' :: between →
        (((reached p host w before).1.create none settings' setup').run host
          (reached p host w before).2).1.1 ≠ .ok id) ∧
    ∀ before between, earlier = before ++ between →
      (reached p host w before).1.contains id = true →
        (∃ settings' setup', create (some id) settings' setup' ∈ before) ∧
          ∃ call ∈ between, call.Destroys id := by
  -- a creation that comes off has the identity that was counted for it
  have counted {before : List (Call ρ)} {settings' : SceneSettings} {setup' : Setup ρ}
      (ok : (((reached p host w before).1.create none settings' setup').run host
        (reached p host w before).2).1.1 = .ok id) :
      (reached p host w before).1.allocate.1 = id := by
    rcases ((reached p host w before).1.create_counts host _ none settings' setup').2 with
      ⟨⟨e, failed⟩, -⟩ | ⟨made, -⟩
    · rw [failed] at ok
      cases ok
    · exact Except.ok.inj (made.symm.trans ok)
  have unused : (reached p host w earlier).1.contains id = false := by
    obtain ⟨named, -, room, counts⟩ := counted_reached_of_create p host w few here
    rw [← counted ok]
    exact (counts.allocate (by omega)).1.1.2
  constructor
  · intro before settings' setup' between split again
    exact counted_ne p host w few here split ((counted again).trans (counted ok).symm)
  · intro before between split used
    constructor
    · obtain ⟨first, namer, rest, asked, named⟩ := exists_identity? p host w used
      cases namer with
      | create chosen settings' setup' =>
          cases chosen with
          | some id' =>
              obtain rfl : id' = id := Option.some.inj named
              exact ⟨settings', setup', by simp [asked]⟩
          | none =>
              have again :
                  earlier = first ++ create none settings' setup' :: (rest ++ between) := by
                rw [split, asked, List.append_assoc, List.cons_append]
              have same : (reached p host w first).1.allocate.1 = id := Option.some.inj named
              exact absurd (same.trans (counted ok).symm) (counted_ne p host w few here again)
      | setState | edit | destroy | destroyAll => cases named
    · subst split
      exact exists_destroys p host w between used unused

/-- Walls under a chosen identity, which are destroyed before the counter comes to it. -/
def chosenFirst : List (Call StandardRoutine) :=
  [createKind (some ⟨1⟩) .walls 0 .zero {}, destroy ⟨1⟩]

/-- The identity that is counted then was chosen and destroyed before. -/
theorem chosen_and_destroyed_walls :
    let grid : Setup StandardRoutine := StandardRoutine.setup .boxGrid 0 .zero
    let at' := reached ({} : LocalProducer) Disk.host ⟨.fresh, []⟩ chosenFirst
    creationsAll (chosenFirst ++ [create none {} grid]) ≤ 2 ^ 32 - 2 ∧
      ((at'.1.create none {} grid).run Disk.host at'.2).1.1 = .ok ⟨1⟩ ∧
      ∃ call ∈ [(destroy ⟨1⟩ : Call StandardRoutine)], call.Destroys ⟨1⟩ := by
  intro grid at'
  have few : creationsAll (chosenFirst ++ [create none {} grid]) ≤ 2 ^ 32 - 2 := by decide
  have ok : ((at'.1.create none {} grid).run Disk.host at'.2).1.1 = .ok ⟨1⟩ := rfl
  have past := chosen_and_destroyed ({} : LocalProducer) Disk.host ⟨.fresh, []⟩ few rfl ok
  exact ⟨few, ok, (past.2 (chosenFirst.take 1) [destroy ⟨1⟩] rfl rfl).2⟩

/-- An identity that was registered before is counted all the same. -/
theorem counted_though_registered :
    let calls := chosenFirst ++ [createKind none .boxGrid 0 .zero {}]
    let at' := reached ({} : LocalProducer) Disk.host ⟨.fresh, []⟩ chosenFirst
    creationsAll calls ≤ 2 ^ 32 - 2 ∧
      (reached ({} : LocalProducer) Disk.host ⟨.fresh, []⟩ (calls.take 1)).1.contains ⟨1⟩ = true ∧
      ((at'.1.create none {} (StandardRoutine.setup .boxGrid 0 .zero)).run Disk.host at'.2).1.1 =
        .ok ⟨1⟩ := by
  exact ⟨by decide, rfl, rfl⟩

end SceneBench.Call
