import SceneBench.Proofs.Registry.Calls
import SceneBench.Proofs.Registry.Identities
import SceneBench.Storage.Disk.Host

/-!
# Creations that fail

A creation that fails leaves all pairs and all scenes as they were, however far it got. There are
two ways to fail. An identity in use is refused at once; that asks nothing of anybody. Otherwise a
scene is made and the set-up is run on it, and then the failure is the set-up's own: the scene
is gone again, and of the creation there remains a handle that was issued, and a number that was
counted. The identity is as free as before.
-/

namespace SceneBench.Registry

variable {σ ρ : Type} [Routine ρ] {r : Registry LocalProducer ρ} {chosen : Option SceneId}
  {settings : SceneSettings} {setup : Setup ρ} {host : Host σ} {w : World σ} {e : SceneError}

/-- A failed creation was refused, or its set-up failed. -/
theorem Sound.failed_create_cases (sound : r.Sound)
    (left : r.producer.issued.toNat + 1 < 2 ^ 64)
    (failed : ((r.create chosen settings setup).run host w).1.1 = .error e) :
    let id := (r.chooseId chosen).1
    let r' := ((r.create chosen settings setup).run host w).1.2
    r.contains id = true ∧ e = .duplicateScene id ∧ r' = (r.chooseId chosen).2 ∨
      r.contains id = false ∧ r' = r.afterFailure chosen ∧
        ((setup (r.producer.newScene id settings)).run host w).1.1 = .error e := by
  intro id r'
  cases free : r.contains id with
  | true =>
      refine .inl ⟨rfl, ?_⟩
      rw [create_of_contains free] at failed
      refine ⟨(Except.error.inj failed).symm, ?_⟩
      simp only [r', create_of_contains free, Action.run_pure]
  | false =>
      refine .inr ⟨rfl, ?_⟩
      have run := sound.run_create left free settings setup host w
      simp only [r', run] at failed ⊢
      generalize (setup (r.producer.newScene (r.chooseId chosen).1 settings)).run host w = built
        at failed ⊢
      obtain ⟨⟨result, edits⟩, after⟩ := built
      cases result with
      | error e' => exact ⟨rfl, congrArg Except.error (Except.error.inj failed)⟩
      | ok routine => cases failed

/-- Under a free identity the answer of a creation is that of its set-up. -/
theorem Sound.create_answer (sound : r.Sound) (left : r.producer.issued.toNat + 1 < 2 ^ 64)
    {id : SceneId} (free : r.contains id = false) (settings : SceneSettings) (setup : Setup ρ)
    (host : Host σ) (w : World σ) :
    ((r.create (some id) settings setup).run host w).1.1 =
      ((setup (r.producer.newScene id settings)).run host w).1.1.map fun _ => id := by
  replace free : r.contains (r.chooseId (some id)).1 = false := free
  have run := sound.run_create left free settings setup host w
  simp only [run]
  show _ = (((setup (r.producer.newScene (r.chooseId (some id)).1 settings)).run host w).1.1.map _)
  generalize (setup (r.producer.newScene (r.chooseId (some id)).1 settings)).run host w = built
  obtain ⟨⟨result, edits⟩, after⟩ := built
  cases result with
  | error e => rfl
  | ok routine => rfl

/-- A creation that fails changes no pair and no live scene. Either an identity in use was refused,
which asks nothing of the operating system or of any producer; or the set-up failed, on a new scene
under an identity that was free, and stays so for another creation. A counted identity is never
refused, unless there is none left to count to. -/
theorem Reachable.failed_create (reachable : r.Reachable)
    (failed : ((r.create chosen settings setup).run host w).1.1 = .error e) :
    let r' := ((r.create chosen settings setup).run host w).1.2
    let id := (r.chooseId chosen).1
    (r'.pairs = r.pairs ∧ r'.producer.scenes = r.producer.scenes) ∧
    ((∃ used, chosen = some used ∧ r.contains used = true ∧ e = .duplicateScene used ∧ r' = r ∧
        ∀ (π : Type) [Producer π] (q : Registry π ρ), q.contains used = true →
          q.create chosen settings setup = pure (.error e, q)) ∨
      (chosen = none ∧ ∀ id', r.contains id' = true) ∨
      (r.contains id = false ∧
        ((setup (r.producer.newScene id settings)).run host w).1.1 = .error e ∧
        r' = { r with
          nextId := if chosen.isSome then r.nextId else id.value + 1
          producer := { r.producer with issued := r.producer.issued + 1 } } ∧
        r'.contains id = false ∧
        (r'.producer.issued.toNat + 1 < 2 ^ 64 →
          ∀ (τ : Type) (host' : Host τ) (w' : World τ) (settings' : SceneSettings)
            (setup' : Setup ρ),
            ((r'.create (some id) settings' setup').run host' w').1.1 =
              ((setup' (r'.producer.newScene id settings')).run host' w').1.1.map
                fun _ => id))) := by
  have sound := reachable.sound
  have left := reachable.handle_left
  intro r' id
  rcases sound.failed_create_cases left failed with ⟨used, named, refused⟩ | ⟨free, undone, own⟩
  · replace refused : r' = (r.chooseId chosen).2 := refused
    refine ⟨⟨by rw [refused, pairs_chooseId], by rw [refused, producer_chooseId]⟩, ?_⟩
    cases chosen with
    | none =>
        refine .inr (.inl ⟨rfl, fun id' => ?_⟩)
        cases free : r.contains id' with
        | true => rfl
        | false => rw [← used, ← contains_allocate sound.ids free]; rfl
    | some chosenId =>
        refine .inl ⟨chosenId, rfl, used, named, refused, fun π _ q held => ?_⟩
        replace held : q.contains (q.chooseId (some chosenId)).1 = true := held
        rw [named]
        exact create_of_contains held settings setup
  · replace undone : r' = r.afterFailure chosen := undone
    have kept : r'.contains id = false := by
      rw [undone]
      exact free
    refine ⟨by rw [undone]; exact ⟨rfl, rfl⟩, .inr (.inr ⟨free, own, ?_, kept, ?_⟩)⟩
    · rw [undone]
      cases chosen with
      | none => rfl
      | some chosenId => rfl
    · intro more τ host' w' settings' setup'
      have sound' : r'.Sound := by
        rw [undone]
        exact sound.afterFailure left chosen
      exact sound'.create_answer more kept settings' setup' host' w'

/-- Walls that are asked for in a state they do not have leave a grid as it was. -/
theorem Reachable.failed_create_walls :
    let r := Call.after Disk.host ⟨.fresh, []⟩ [Call.createKind none .boxGrid 2 .zero {}]
    let setup := StandardRoutine.setup .walls 99 .zero
    let failed := (r.create none {} setup).run Disk.host ⟨.fresh, []⟩
    r.Reachable ∧ failed.1.1 = .error (.unknownState .walls 99) ∧
      failed.1.2.pairs = r.pairs ∧ failed.1.2.producer.scenes = r.producer.scenes := by
  intro r setup failed
  have reachable : r.Reachable := ⟨_, Disk.host, ⟨.fresh, []⟩, _, by decide, rfl⟩
  have refused : failed.1.1 = .error (.unknownState .walls 99) := rfl
  exact ⟨reachable, refused, (reachable.failed_create refused).1⟩

end SceneBench.Registry
