import SceneBench.Proofs.Registry.Numbering
import SceneBench.Proofs.Registry.Recorded

/-!
# The handles of a run, accounted for

A producer may issue one handle many times, so a handle is counted and not merely known. The account
of a list of dealings says which handles are outstanding after it: each as often as it was issued
and not released since. An account can be kept of every run of calls, and what is outstanding
between two calls are the handles that the pairs hold.
-/

namespace SceneBench

variable {σ π ρ : Type}

/-- What a dealing does to the handles that are outstanding. None but an issue may be about a handle
that is not. -/
inductive Dealing.Moves : List Handle → Dealing → List Handle → Prop
  | issued (held : List Handle) (h : Handle) : Moves held (.issued h) (held ++ [h])
  | borrowed {held : List Handle} {h : Handle} (holds : h ∈ held) : Moves held (.borrowed h) held
  | returned {held : List Handle} {h : Handle} (holds : h ∈ held) : Moves held (.returned h) held
  | released (ahead : List Handle) (h : Handle) (behind : List Handle) :
    Moves (ahead ++ h :: behind) (.released h) (ahead ++ behind)

/-- The handles that are outstanding after dealings, one after the other. -/
inductive Account : List Dealing → List Handle → Prop
  | opened : Account [] []
  | step {dealings held d held'} (before : Account dealings held) (moves : d.Moves held held') :
    Account (dealings ++ [d]) held'

namespace Dealing.Moves

variable {held held' : List Handle} {d : Dealing}

theorem issued_or_mem (moves : d.Moves held held') : d = .issued d.handle ∨ d.handle ∈ held := by
  cases moves with
  | issued => exact .inl rfl
  | borrowed holds => exact .inr holds
  | returned holds => exact .inr holds
  | released ahead h behind => exact .inr (List.mem_append_right _ List.mem_cons_self)

theorem balance (moves : d.Moves held held') (h : Handle) :
    [d].count (.released h) + held'.count h = [d].count (.issued h) + held.count h := by
  cases moves with
  | issued h' => simp [List.count_singleton, Nat.add_comm]
  | borrowed => simp
  | returned => simp
  | released ahead h' behind =>
      simp only [List.count_append, List.count_cons, List.count_nil]
      simp
      omega

end Dealing.Moves

namespace Account

variable {dealings before after : List Dealing} {d : Dealing} {held : List Handle} {h : Handle}

/-! ## Keeping an account -/

/-- Every outstanding handle can be released in turn. -/
theorem releaseEach (account : Account dealings held) :
    Account (dealings ++ held.map .released) [] := by
  induction held generalizing dealings with
  | nil => rwa [List.map_nil, List.append_nil]
  | cons h rest ih =>
      rw [List.map_cons, List.append_cons]
      exact ih (account.step (.released [] h rest))

/-- What a call does by the rules leaves the handles outstanding that the pairs hold. -/
theorem append {call : Call ρ} {reply : Reply} {links links' : List (SceneId × Handle)}
    {more : List Dealing} (account : Account dealings (links.map Prod.snd))
    (deals : call.Deals links reply more links') :
    Account (dealings ++ more) (links'.map Prod.snd) := by
  have last (h : Handle) : h ∈ links.map Prod.snd ++ [h] := by simp
  have gone (h : Handle) := Dealing.Moves.released (links.map Prod.snd) h []
  rw [List.append_nil] at gone
  cases deals with
  | refused => rwa [List.append_nil]
  | unasked => rwa [List.append_nil]
  | ignored => rwa [List.append_nil]
  | unreachable e h =>
      have undone := ((account.step (.issued _ h)).step (.borrowed (last h))).step (gone h)
      simpa using undone
  | undone e h =>
      have undone := (((account.step (.issued _ h)).step (.borrowed (last h))).step
        (.returned (last h))).step (gone h)
      simpa using undone
  | made h new =>
      have made := ((account.step (.issued _ h)).step (.borrowed (last h))).step
        (.returned (last h))
      simpa using made
  | missed visit holds => exact account.step (.borrowed (List.mem_map_of_mem holds))
  | visited visit holds =>
      have holds := List.mem_map_of_mem (f := Prod.snd) holds
      simpa using (account.step (.borrowed holds)).step (.returned holds)
  | destroyed holds =>
      subst holds
      rw [List.map_append, List.map_cons] at account
      rw [List.map_append]
      exact account.step (.released ..)
  | cleared =>
      have cleared := account.releaseEach
      rwa [List.map_map] at cleared

/-! ## What an account tells -/

/-- A handle was issued as often as it was released or is outstanding. -/
theorem balance (account : Account dealings held) (h : Handle) :
    dealings.count (.released h) + held.count h = dealings.count (.issued h) := by
  induction account with
  | opened => rfl
  | step before moves ih =>
      have moved := moves.balance h
      rw [List.count_append, List.count_append]
      omega

/-- At the time of a dealing its handle was outstanding, unless it was just issued. -/
theorem outstanding (account : Account dealings held) (split : dealings = before ++ d :: after) :
    d = .issued d.handle ∨ ∃ held, Account before held ∧ d.handle ∈ held := by
  induction account generalizing after with
  | opened => simp at split
  | step account moves ih =>
      rcases List.eq_nil_or_concat after with rfl | ⟨after, last, rfl⟩
      · obtain ⟨rfl, same⟩ := List.append_inj' split rfl
        obtain rfl := List.singleton_inj.mp same
        exact moves.issued_or_mem.imp_right fun holds => ⟨_, account, holds⟩
      · rw [List.concat_eq_append, ← List.cons_append, ← List.append_assoc] at split
        exact ih (List.append_inj' split rfl).1

/-- A handle that was issued once and is outstanding was not released. -/
theorem not_released (account : Account dealings held) (once : dealings.count (.issued h) ≤ 1)
    (holds : h ∈ held) : .released h ∉ dealings := by
  have balance := account.balance h
  have := List.count_pos_iff.mpr holds
  rw [← List.count_eq_zero]
  omega

/-- A handle that was issued once is not used any more after it was released. -/
theorem unused_after_release (account : Account dealings held)
    (once : dealings.count (.issued h) ≤ 1) (split : dealings = before ++ .released h :: after) :
    ∀ d ∈ after, d.handle ≠ h := by
  rintro d used rfl
  obtain ⟨between, behind, rfl⟩ := List.append_of_mem used
  rw [← List.cons_append, ← List.append_assoc] at split
  have most : (before ++ .released d.handle :: between).count (.issued d.handle) +
      (d :: behind).count (.issued d.handle) ≤ 1 := by
    rwa [← List.count_append, ← split]
  rcases account.outstanding split with again | ⟨held', account', holds⟩
  · -- Issued before the release and once more after it, the handle was issued twice.
    rw [List.append_assoc, List.cons_append] at split
    rcases account.outstanding split with issue | ⟨held', account', holds⟩
    · cases issue
    · have balance := account'.balance d.handle
      have held : 0 < held'.count d.handle := List.count_pos_iff.mpr holds
      have twice : 0 < (d :: behind).count (.issued d.handle) :=
        List.count_pos_iff.mpr (by rw [← again]; exact List.mem_cons_self)
      rw [List.count_append] at most
      omega
  · exact account'.not_released (by omega) holds (by simp)

end Account

/-! ## Runs -/

namespace Registry

variable {r : Registry (Recorded π) ρ}

/-- The dealings of a registry have an account, and what is outstanding is what its pairs hold. -/
structure Accounted (r : Registry (Recorded π) ρ) : Prop where
  ids : (r.links.map Prod.fst).Nodup
  account : Account r.dealings (r.links.map Prod.snd)

theorem accounted_new (p : π) : Accounted ({ producer := { inner := p } } : Registry _ ρ) where
  ids := List.nodup_nil
  account := .opened

namespace Accounted

variable [Producer π] [Routine ρ] (host : Host σ) (w : World σ)

theorem perform (accounted : r.Accounted) (call : Call ρ) :
    ((call.perform r).run host w).1.2.Accounted := by
  obtain ⟨-, dealings, more, deals⟩ := r.recounts_perform host w accounted.ids call
  constructor
  case ids => exact deals.nodup accounted.ids
  case account =>
    rw [more]
    exact accounted.account.append deals

/-- A run stays on account, and the record makes no difference to it; by induction on its calls. -/
theorem performAll (accounted : r.Accounted) (calls : List (Call ρ)) :
    let done := (Call.performAll r calls).run host w
    done.1.2.Accounted ∧
      (Call.performAll r.bare calls).run host w = ((done.1.1, done.1.2.bare), done.2) := by
  induction calls generalizing r w with
  | nil => exact ⟨accounted, rfl⟩
  | cons call rest ih =>
      have same := (r.recounts_perform host w accounted.ids call).same
      obtain ⟨kept, same'⟩ := ih ((call.perform r).run host w).2 (accounted.perform host w call)
      simp only [Call.performAll, Action.run_bind, Action.run_pure, same, same']
      exact ⟨kept, trivial⟩

end Accounted

/-- Looking at a scene asks the producer about a handle that a pair holds, and about no other: it
comes to the same whatever is answered about other handles. -/
theorem scene_of_views [asked : Producer π] (r : Registry π ρ) (id : SceneId)
    (other : Producer π)
    (same : ∀ h ∈ r.links.map Prod.snd, other.view r.producer h = asked.view r.producer h) :
    @scene π ρ other r id = @scene π ρ asked r id := by
  unfold scene
  cases found : r.find? id with
  | none => rfl
  | some pair =>
      have holds : pair.handle ∈ r.links.map Prod.snd :=
        List.mem_map_of_mem (List.mem_map_of_mem (Table.mem_of_lookup found))
      simp only [Option.bind_eq_bind, Option.bind_some, same _ holds]

end Registry

namespace Call

/-- What is true of the dealings with a producer at a point between two calls. -/
structure Orderly [asked : Producer π] [Routine ρ] (r : Registry (Recorded π) ρ) (host : Host σ)
    (w : World σ) : Prop where
  /-- A handle was released as often as it was issued and is not held by a pair. -/
  balance : ∀ h, r.dealings.count (.released h) + (r.links.map Prod.snd).count h =
    r.dealings.count (.issued h)
  /-- A handle that was issued once and that a pair holds was not released. -/
  kept : ∀ h ∈ r.links.map Prod.snd, r.dealings.count (.issued h) ≤ 1 →
    .released h ∉ r.dealings
  /-- A handle that was issued once is not used any more after it was released. -/
  spent : ∀ h, r.dealings.count (.issued h) ≤ 1 →
    ∀ before after, r.dealings = before ++ .released h :: after → ∀ d ∈ after, d.handle ≠ h
  /-- Whatever is called next has its dealings by the rules. They are about handles that pairs
  hold, or else about one that the call was just issued. -/
  next : ∀ call : Call ρ,
    let done := (call.perform r).run host w
    ∃ dealings, done.1.2.dealings = r.dealings ++ dealings ∧
      call.Deals r.links done.1.1 dealings done.1.2.links ∧
      ((∀ d ∈ dealings, d.handle ∈ r.links.map Prod.snd) ∨
        ∃ h rest, dealings = .issued h :: rest ∧ ∀ d ∈ rest, d.handle = h)
  /-- Looking at a scene asks about no handle but those that pairs hold. -/
  views : ∀ (id : SceneId) (other : Producer π),
    (∀ h ∈ r.links.map Prod.snd, other.view r.bare.producer h = asked.view r.bare.producer h) →
      @Registry.scene π ρ other r.bare id = @Registry.scene π ρ asked r.bare id
  /-- Once every scene is destroyed, each handle was released as often as it was issued. -/
  cleared :
    let cleared := (r.destroyAll.run host w).1
    cleared.pairs = [] ∧
      ∀ h, cleared.dealings.count (.released h) = cleared.dealings.count (.issued h)

/-- Towards any producer and with any set-ups, a run has the answers, the pairs and the world that
it has without a record of its dealings, and by this record each handle that was issued is released
once, and none is used that is not outstanding. -/
theorem handles_accounted [Producer π] [Routine ρ] (p : π) (host : Host σ) (w : World σ)
    (calls : List (Call ρ)) :
    let done := (performAll ({ producer := { inner := p } } : Registry (Recorded π) ρ) calls).run
      host w
    (performAll { producer := p } calls).run host w = ((done.1.1, done.1.2.bare), done.2) ∧
      Orderly done.1.2 host done.2 := by
  intro done
  obtain ⟨accounted, same⟩ := (Registry.accounted_new p).performAll host w calls
  refine ⟨same, ?_⟩
  constructor
  case balance => exact accounted.account.balance
  case kept => exact fun h holds once => accounted.account.not_released once holds
  case spent => exact fun h once before after => accounted.account.unused_after_release once
  case next =>
    intro call
    obtain ⟨-, dealings, more, deals⟩ :=
      done.1.2.recounts_perform host done.2 accounted.ids call
    exact ⟨dealings, more, deals, deals.handles⟩
  case views => exact done.1.2.bare.scene_of_views
  case cleared =>
    have cleared := accounted.perform host done.2 .destroyAll
    simp only [perform, Action.run_bind, Action.run_pure] at cleared
    have ids := accounted.ids
    rw [Registry.keys_links] at ids
    have none : (done.1.2.destroyAll.run host done.2).1.pairs = [] := by
      rw [Registry.run_destroyAll_eq ids]
    refine ⟨none, fun h => ?_⟩
    have balance := cleared.account.balance h
    rwa [Registry.links, none] at balance

end Call

/-- A producer that issues one handle for every scene, shows no scene and knows none to release. -/
structure Careless where

instance : Producer Careless where
  create p _ _ := (.ok ⟨7⟩, p)
  view _ _ := none
  borrow p h := (some { id := ⟨0⟩, handle := h, settings := {} }, p)
  giveBack p _ _ := p
  release p _ := (false, p)

open Call in
/-- Two scenes hold its one handle, and a third one cannot be set up: the handle is issued three
times, and released once for each. -/
example :
    let p : Recorded Careless := { inner := {} }
    let calls := [createKind none .boxGrid 0 .zero {}, createKind none .walls 99 .zero {},
      createKind none .boxGrid 0 .zero {}, destroyAll]
    (reached p Disk.host ⟨.fresh, []⟩ calls).1.dealings =
      [.issued ⟨7⟩, .borrowed ⟨7⟩, .returned ⟨7⟩,
        .issued ⟨7⟩, .borrowed ⟨7⟩, .returned ⟨7⟩, .released ⟨7⟩,
        .issued ⟨7⟩, .borrowed ⟨7⟩, .returned ⟨7⟩, .released ⟨7⟩, .released ⟨7⟩] := by
  rfl

end SceneBench
