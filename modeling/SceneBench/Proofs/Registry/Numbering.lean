import SceneBench.Proofs.Registry.Counting
import SceneBench.Storage.Disk.Host

/-!
# How a run numbers its scenes

A creation that does not choose an identity is given the next one. Along any run these identities
are the least free ones, and each is larger than all that were given before, so that none is given
twice, whatever has become of its scene. The counter behind them is moved by such creations only,
and it exceeds the number of creations by one at most; in a run of fewer creations than there are
words it cannot overflow.
-/

namespace SceneBench

variable {σ π ρ : Type}

namespace Call

section Following

variable [Producer π] [Routine ρ]

/-- Where calls lead, registry and world together. -/
def follow (host : Host σ) (calls : List (Call ρ)) (at' : Registry π ρ × World σ) :
    Registry π ρ × World σ :=
  let done := (performAll at'.1 calls).run host at'.2
  (done.1.2, done.2)

@[simp] theorem follow_nil (host : Host σ) (at' : Registry π ρ × World σ) :
    follow host [] at' = at' := rfl

@[simp] theorem follow_cons (host : Host σ) (call : Call ρ) (calls : List (Call ρ))
    (at' : Registry π ρ × World σ) :
    follow host (call :: calls) at' =
      follow host calls
        (((call.perform at'.1).run host at'.2).1.2, ((call.perform at'.1).run host at'.2).2) := by
  simp only [follow, performAll, Action.run_bind, Action.run_pure]

theorem follow_append (host : Host σ) (calls further : List (Call ρ))
    (at' : Registry π ρ × World σ) :
    follow host (calls ++ further) at' = follow host further (follow host calls at') := by
  induction calls generalizing at' with
  | nil => rfl
  | cons call calls ih => rw [List.cons_append, follow_cons, follow_cons, ih]

/-- Where calls lead from a registry without scenes over some producer. -/
def reached (p : π) (host : Host σ) (w : World σ) (calls : List (Call ρ)) :
    Registry π ρ × World σ :=
  follow host calls ({ producer := p }, w)

variable (p : π) (host : Host σ) (w : World σ)

theorem reached_append (calls further : List (Call ρ)) :
    reached p host w (calls ++ further) = follow host further (reached p host w calls) :=
  follow_append host calls further _

/-- Along a run the identities that were named keep bounding the counter, which only ever moves
up; by induction on the calls. -/
theorem counted_follow {named : List SceneId} {counted : Nat} (calls : List (Call ρ))
    (at' : Registry π ρ × World σ) (counts : at'.1.Counted named counted)
    (few : named.length + creationsAll calls + 1 < 2 ^ 32) :
    (∃ named' : List SceneId, named'.length = named.length + creationsAll calls ∧
        (follow host calls at').1.Counted named' (counted + countingsAll calls)) ∧
      at'.1.nextId ≤ (follow host calls at').1.nextId := by
  induction calls generalizing named counted at' with
  | nil => exact ⟨⟨named, rfl, counts⟩, UInt32.le_refl _⟩
  | cons call calls ih =>
      have total : creationsAll (call :: calls) = call.creations + creationsAll calls :=
        List.sum_cons
      have total' : countingsAll (call :: calls) = call.countings + countingsAll calls :=
        List.sum_cons
      rw [total] at few
      obtain ⟨after, up⟩ := counts.perform call (by omega) host at'.2
      have length := call.length_identity? at'.1
      rw [follow_cons, total, total', ← Nat.add_assoc, ← Nat.add_assoc]
      obtain ⟨⟨named', length', counts'⟩, up'⟩ := ih (_, _) after (by
        rw [List.length_append]
        omega)
      refine ⟨⟨named', ?_, counts'⟩, UInt32.le_trans up up'⟩
      rw [length', List.length_append, length]

theorem counted_reached (calls : List (Call ρ)) (few : creationsAll calls + 1 < 2 ^ 32) :
    ∃ named : List SceneId, named.length = creationsAll calls ∧
      (reached p host w calls).1.Counted named (countingsAll calls) := by
  have start := Registry.Counted.new (ρ := ρ) p
  obtain ⟨named, length, counts⟩ :=
    (counted_follow host calls (_, w) start (by simpa using few)).1
  rw [List.length_nil, Nat.zero_add] at length
  rw [Nat.zero_add] at counts
  exact ⟨named, length, counts⟩

theorem nextId_reached_concat (calls : List (Call ρ)) (call : Call ρ) :
    (reached p host w (calls ++ [call])).1.nextId = call.counter (reached p host w calls).1 := by
  rw [reached_append, follow_cons, follow_nil, nextId_perform]

/-- The counter never goes back. -/
theorem nextId_le_reached_append (calls further : List (Call ρ))
    (few : creationsAll (calls ++ further) + 1 < 2 ^ 32) :
    (reached p host w calls).1.nextId ≤ (reached p host w (calls ++ further)).1.nextId := by
  rw [creationsAll_append] at few
  obtain ⟨named, length, counts⟩ := counted_reached p host w calls (by omega)
  rw [reached_append]
  exact (counted_follow host further _ counts (by omega)).2

/-- Within a run of few creations there is room before each of them. -/
theorem counted_reached_of_create {calls earlier later : List (Call ρ)}
    {chosen : Option SceneId} {settings : SceneSettings} {setup : Setup ρ}
    (few : creationsAll calls ≤ 2 ^ 32 - 2)
    (here : calls = earlier ++ create chosen settings setup :: later) :
    ∃ named : List SceneId, named.length = creationsAll earlier ∧ named.length + 2 < 2 ^ 32 ∧
      (reached p host w earlier).1.Counted named (countingsAll earlier) := by
  have total : creationsAll calls = creationsAll earlier + (1 + creationsAll later) := by
    rw [here, creationsAll_append]
    exact congrArg _ List.sum_cons
  obtain ⟨named, length, counts⟩ := counted_reached p host w earlier (by omega)
  exact ⟨named, length, by omega, counts⟩

end Following

variable [Producer π] [Routine ρ]

/-- How the creations of a run that do not choose an identity come by one. -/
structure CountsUp (p : π) (host : Host σ) (w : World σ) (calls : List (Call ρ)) : Prop where
  /-- Such a creation is given the least free identity from the counter on and leaves the counter
  one above it, whatever becomes of it. -/
  least : ∀ earlier settings setup later,
    calls = earlier ++ create none settings setup :: later →
      let r := (reached p host w earlier).1
      let id := r.allocate.1
      let done := ((r.create none settings setup).run host (reached p host w earlier).2).1
      IsLeast (r.freeFrom r.nextId) id.value ∧ 1 ≤ id.value.toNat ∧
        done.2.nextId.toNat = id.value.toNat + 1 ∧ ∀ id', done.1 = .ok id' → id' = id
  /-- The search for it ends there without going beyond the words, and so does the step of the
  counter past it. -/
  ends : ∀ earlier settings setup later,
    calls = earlier ++ create none settings setup :: later →
      let r := (reached p host w earlier).1
      r.SearchesTo r.nextId r.allocate.1.value ∧ r.allocate.1.value.toNat + 1 < 2 ^ 32
  /-- What is counted later is larger. -/
  increasing : ∀ earlier settings setup between settings' setup' later,
    calls = earlier ++ create none settings setup ::
      (between ++ create none settings' setup' :: later) →
    (reached p host w earlier).1.allocate.1.value <
      (reached p host w (earlier ++ create none settings setup :: between)).1.allocate.1.value
  /-- No other call moves the counter. -/
  kept : ∀ earlier call later, calls = earlier ++ call :: later →
    (∀ settings setup, call ≠ create none settings setup) →
      (reached p host w (earlier ++ [call])).1.nextId = (reached p host w earlier).1.nextId
  bound : ∀ earlier later, calls = earlier ++ later →
    (reached p host w earlier).1.nextId.toNat ≤ creationsAll earlier + 1
  /-- Without chosen identities the counted ones are the first numbers. -/
  dense : ∀ earlier settings setup later,
    calls = earlier ++ create none settings setup :: later →
      (∀ id settings setup, create (some id) settings setup ∉ earlier) →
        (reached p host w earlier).1.allocate.1.value.toNat = countingsAll earlier + 1

/-- Whatever is called, and whatever producer and operating system do, identities are counted up
without a repetition, and the counter stays within the number of creations. -/
theorem counts_up (p : π) (host : Host σ) (w : World σ) (calls : List (Call ρ))
    (few : creationsAll calls ≤ 2 ^ 32 - 2) : CountsUp p host w calls where
  least earlier settings setup later here := by
    obtain ⟨named, -, room, counts⟩ := counted_reached_of_create p host w few here
    obtain ⟨least, -⟩ := counts.allocate (by omega)
    obtain ⟨counter, answer⟩ := (reached p host w earlier).1.create_counts host
      (reached p host w earlier).2 none settings setup
    dsimp only
    refine ⟨least, ?_, ?_, fun id' ok => ?_⟩
    · have above := UInt32.le_iff_toNat_le.mp least.1.1
      have := counts.counted
      omega
    · rw [← counts.nextId_allocate room]
      exact congrArg UInt32.toNat counter
    · rcases answer with ⟨⟨e, failed⟩, -⟩ | ⟨made, -⟩
      · exact absurd (failed.symm.trans ok) (by simp)
      · exact (Except.ok.inj (made.symm.trans ok)).symm
  ends earlier settings setup later here := by
    obtain ⟨named, -, room, counts⟩ := counted_reached_of_create p host w few here
    obtain ⟨least, small⟩ := counts.allocate (by omega)
    exact ⟨Registry.searchesTo_of_isLeast least, by omega⟩
  increasing earlier settings setup between settings' setup' later here := by
    -- the counter is past the first identity at once, and never comes back to it
    have behind : calls = earlier ++ [create none settings setup] ++ between ++
        create none settings' setup' :: later := by simpa using here
    rw [show earlier ++ create none settings setup :: between =
      earlier ++ [create none settings setup] ++ between by simp]
    obtain ⟨named, -, room, counts⟩ := counted_reached_of_create p host w few here
    obtain ⟨named', length', room', counts'⟩ := counted_reached_of_create p host w few behind
    have past := counts.nextId_allocate room
    have up := nextId_le_reached_append p host w (earlier ++ [create none settings setup])
      between (by omega)
    rw [nextId_reached_concat] at up
    have next := (counts'.allocate (by omega)).1.1.1
    rw [UInt32.le_iff_toNat_le] at up next
    rw [UInt32.lt_iff_toNat_lt]
    exact Nat.lt_of_lt_of_le (Nat.lt_of_lt_of_eq (Nat.lt_succ_self _) past.symm)
      (Nat.le_trans up next)
  kept earlier call later here other := by
    rw [nextId_reached_concat]
    cases call with
    | create chosen settings setup =>
        cases chosen with
        | some id => rfl
        | none => exact absurd rfl (other settings setup)
    | setState => rfl
    | edit => rfl
    | destroy => rfl
    | destroyAll => rfl
  bound earlier later here := by
    have total : creationsAll calls = creationsAll earlier + creationsAll later := by
      rw [here, creationsAll_append]
    obtain ⟨named, length, counts⟩ := counted_reached p host w earlier (by omega)
    rw [← length]
    exact counts.bound
  dense earlier settings setup later here counted := by
    obtain ⟨named, length, room, counts⟩ := counted_reached_of_create p host w few here
    obtain ⟨least, small⟩ := counts.allocate (by omega)
    have above := UInt32.le_iff_toNat_le.mp least.1.1
    have all := countingsAll_eq_creationsAll counted
    have := counts.counted
    omega

/-- Three identities are chosen and three are counted between and beyond them, the first of these
for walls that cannot be set up, and the last after the scene before it was destroyed. -/
theorem counts_up_between :
    let calls :=
      [ createKind (some ⟨1⟩) .boxGrid 0 .zero {},
        createKind (some ⟨2⟩) .boxGrid 0 .zero {},
        createKind (some ⟨4⟩) .boxGrid 0 .zero {},
        createKind none .walls 99 .zero {},
        createKind none .fractal 0 .zero {},
        destroy ⟨5⟩,
        createKind none .fractal 0 .zero {} ]
    let earlier := calls.take 4
    creationsAll calls ≤ 2 ^ 32 - 2 ∧
      CountsUp ({} : LocalProducer) Disk.host ⟨.fresh, []⟩ calls ∧
      (reached ({} : LocalProducer) Disk.host ⟨.fresh, []⟩ earlier).1.nextId.toNat ≤ 5 := by
  intro calls earlier
  have few : creationsAll calls ≤ 2 ^ 32 - 2 := by decide
  have counts := counts_up ({} : LocalProducer) Disk.host ⟨.fresh, []⟩ calls few
  exact ⟨few, counts, counts.bound earlier (calls.drop 4) rfl⟩

end Call

end SceneBench
