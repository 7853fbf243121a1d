import SceneBench.Proofs.Content.Kinds
import SceneBench.Proofs.Registry.Calls
import SceneBench.Proofs.Routine.Entering
import SceneBench.Storage.Disk.Host

/-!
# Changes of state

A change of state concerns one scene. It is refused when there is no such scene, when the caller is
wrong about its kind, and when the kind does not have the state; all of this is known before
anything is tried. What can go wrong after that is content that does not come back from its file.
A change that fails leaves the registry as it was, and one that comes off leaves every other scene
as it was.
-/

namespace SceneBench.Registry

variable {σ : Type} {id : SceneId} {pair : Pair StandardRoutine} {s : Scene} {state : UInt32}
  {boxes : List BoxRecord}

/-- The registry after a scene was given new content along with a new state. -/
def moved (r : SceneRegistry LocalProducer) (id : SceneId) (pair : Pair StandardRoutine)
    (s : Scene) (state : UInt32) (boxes : List BoxRecord) : SceneRegistry LocalProducer :=
  { r with
    producer := r.producer.giveBack pair.handle { s with boxes, flushes := s.flushes + 1 }
    pairs := Table.replace r.pairs id { pair with routine := pair.routine.withState state } }

/-- One scene has entered a state and shows other boxes as one more frame. All other scenes, all
names and all counters are what they were. -/
structure Moved (r r' : SceneRegistry LocalProducer) (id : SceneId) (state : UInt32)
    (boxes : List BoxRecord) : Prop where
  nextId : r'.nextId = r.nextId
  issued : r'.producer.issued = r.producer.issued
  ids : r'.pairs.map Prod.fst = r.pairs.map Prod.fst
  handles : r'.producer.scenes.map Prod.fst = r.producer.scenes.map Prod.fst
  target : ∃ pair s, r.find? id = some pair ∧ r.producer.view pair.handle = some s ∧
    r'.find? id = some { pair with routine := pair.routine.withState state } ∧
    r'.producer.view pair.handle = some { s with boxes, flushes := s.flushes + 1 } ∧
    ∀ h, h ≠ pair.handle → r'.producer.view h = r.producer.view h
  others : ∀ id', id' ≠ id → r'.find? id' = r.find? id'

variable {r : SceneRegistry LocalProducer}

theorem moved_moved (found : r.find? id = some pair)
    (shown : r.producer.view pair.handle = some s) (state : UInt32) (boxes : List BoxRecord) :
    r.Moved (r.moved id pair s state boxes) id state boxes where
  nextId := rfl
  issued := rfl
  ids := Table.keys_replace ..
  handles := Table.keys_replace ..
  target := by
    refine ⟨pair, s, found, shown, ?_, ?_, fun h other => ?_⟩
    · rw [find?, moved, Table.lookup_replace, if_pos rfl, show r.pairs.lookup id = _ from found]
      rfl
    · refine (Table.lookup_replace ..).trans ?_
      rw [if_pos rfl, show r.producer.scenes.lookup pair.handle = _ from shown]
      rfl
    · refine (Table.lookup_replace ..).trans ?_
      rw [if_neg other]
      rfl
  others id' other := by
    rw [find?, moved, Table.lookup_replace, if_neg other]
    rfl

theorem Moved.kind_eq {r' : SceneRegistry LocalProducer} (change : r.Moved r' id state boxes) :
    r'.kind id = r.kind id := by
  obtain ⟨pair, s, before, -, after, -⟩ := change.target
  rw [Registry.kind, Registry.kind, before, after]
  exact congrArg Except.ok (pair.routine.kind_withState state)

theorem Moved.state_eq {r' : SceneRegistry LocalProducer} (change : r.Moved r' id state boxes) :
    r'.state id = .ok state := by
  obtain ⟨pair, s, -, -, after, -⟩ := change.target
  rw [Registry.state, after]
  exact congrArg Except.ok (pair.routine.state_withState state)

/-- A scene that is given back as it was, to the routine that it had, makes no difference. -/
theorem Sound.unmoved (sound : r.Sound) (found : r.find? id = some pair)
    (shown : r.producer.view pair.handle = some s) :
    { r with
      producer := r.producer.giveBack pair.handle s
      pairs := Table.replace r.pairs id pair } = r := by
  have scenes : r.producer.giveBack pair.handle s = r.producer := by
    show LocalProducer.mk (Table.replace r.producer.scenes pair.handle s) _ = _
    rw [Table.replace_self sound.handles shown]
  rw [scenes, Table.replace_self sound.ids found]

/-- A state that the kind does not have is refused. -/
theorem Sound.run_setState_of_unknown (sound : r.Sound) (found : r.find? id = some pair)
    (unknown : pair.routine.kind.content state = none) (host : Host σ) (w : World σ) :
    (r.setState id pair.routine.kind state).run host w =
      ((.error (.unknownState pair.routine.kind state), r), w) := by
  obtain ⟨s, shown, -, -⟩ := sound.exists_scene found
  rw [show pair.routine.kind = Routine.kind pair.routine from rfl,
    run_setState_of_view found shown,
    show Routine.enter pair.routine s state = pair.routine.enter s state from rfl,
    StandardRoutine.enter_of_unknown unknown]
  exact Prod.ext (Prod.ext rfl (sound.unmoved found shown)) rfl

/-- In a state that the kind has, all depends on the content. -/
theorem Sound.run_setState_of_known (sound : r.Sound) (found : r.find? id = some pair)
    (shown : r.producer.view pair.handle = some s)
    (known : pair.routine.kind.content state = some boxes) (host : Host σ) (w : World σ) :
    (r.setState id pair.routine.kind state).run host w =
      let prepared := (pair.routine.prepare s.id state boxes).run host w
      match prepared.1 with
      | .error e => ((.error e, r), prepared.2)
      | .ok content =>
        ((.ok (), r.moved id pair s state content), prepared.2.note (.sceneMoved id state)) := by
  rw [show pair.routine.kind = Routine.kind pair.routine from rfl,
    run_setState_of_view found shown,
    show Routine.enter pair.routine s state = pair.routine.enter s state from rfl,
    StandardRoutine.run_enter_of_known known]
  dsimp only
  generalize (pair.routine.prepare s.id state boxes).run host w = prepared
  obtain ⟨result, after⟩ := prepared
  cases result with
  | error e => exact Prod.ext (Prod.ext rfl (sound.unmoved found shown)) rfl
  | ok content => rfl

/-- In a state that the kind has, only content in a file may not come back. Then nothing has
changed, and otherwise the scene shows the content. -/
theorem Sound.setState_of_known (sound : r.Sound) (found : r.find? id = some pair)
    (known : pair.routine.kind.content state = some boxes) (host : Host σ) (w : World σ) :
    let done := (r.setState id pair.routine.kind state).run host w
    (∃ shown, done.1.1 = .ok () ∧ (pair.routine.kind ≠ .fileLoading → shown = boxes) ∧
        r.Moved done.1.2 id state shown) ∨
      pair.routine.kind = .fileLoading ∧ ∃ e, done.1.1 = .error e ∧ e.OfContent ∧ done.1.2 = r := by
  obtain ⟨s, shown, -, -⟩ := sound.exists_scene found
  obtain ⟨built, ofContent⟩ := pair.routine.run_prepare s.id state boxes host w
  rw [sound.run_setState_of_known found shown known]
  dsimp only
  generalize (pair.routine.prepare s.id state boxes).run host w = prepared at built ofContent ⊢
  obtain ⟨result, after⟩ := prepared
  cases result with
  | ok content =>
      refine .inl ⟨content, rfl, fun other => ?_, moved_moved found shown state content⟩
      exact Except.ok.inj (built other)
  | error e =>
      have file : pair.routine.kind = .fileLoading := by
        by_contra other
        cases built other
      exact .inr ⟨file, e, rfl, ofContent e rfl, rfl⟩

/-- A change of state comes off exactly when it should, apart from content that has to come back
from a file. A change that is refused asks nothing of anybody, one that fails changes nothing, and
one that comes off changes only state, boxes and frame count of its scene. -/
theorem Reachable.setState_outcome (reachable : r.Reachable) (id : SceneId) (kind : Kind)
    (state : UInt32) (host : Host σ) (w : World σ) :
    let done := (r.setState id kind state).run host w
    (r.kind id = .error (.unknownScene id) → done = ((.error (.unknownScene id), r), w)) ∧
    (∀ actual, r.kind id = .ok actual → actual ≠ kind →
      done = ((.error (.kindMismatch id kind actual), r), w)) ∧
    (r.kind id = .ok kind → kind.states ≤ state.toNat →
      done = ((.error (.unknownState kind state), r), w)) ∧
    (r.kind id = .ok kind → state.toNat < kind.states →
      (done.1.1 = .ok () ∨ kind = .fileLoading ∧ ∃ e, done.1.1 = .error e ∧ e.OfContent) ∧
      (done.1.1 = .ok () →
        ∃ shown, (kind ≠ .fileLoading → kind.Shows state shown) ∧
          r.Moved done.1.2 id state shown ∧
          done.1.2.kind id = .ok kind ∧ done.1.2.state id = .ok state)) ∧
    (∀ e, done.1.1 = .error e → done.1.2 = r) := by
  have sound := reachable.sound
  intro done
  cases found : r.find? id with
  | none =>
      have refused : done = ((.error (.unknownScene id), r), w) := by
        simp only [done, setState_of_missing found, Action.run_pure]
      have missing : r.kind id = .error (.unknownScene id) := by rw [Registry.kind, found]
      simp [refused, missing]
  | some pair =>
      have actual : r.kind id = .ok pair.routine.kind := by
        rw [Registry.kind, found]
        rfl
      by_cases right : pair.routine.kind = kind
      case neg =>
        have refused : done = ((.error (.kindMismatch id kind pair.routine.kind), r), w) := by
          simp only [done, setState_of_mismatch found right, Action.run_pure]
          rfl
        simp [refused, actual, right]
      subst right
      cases known : pair.routine.kind.content state with
      | none =>
          have refused : done = ((.error (.unknownState pair.routine.kind state), r), w) :=
            sound.run_setState_of_unknown found known host w
          have unknown := Kind.content_eq_none_iff.mp known
          simp [refused, actual, Nat.not_lt.mpr unknown]
      | some boxes =>
          have shows := Kind.content_eq_some_iff.mp known
          have few := Kind.exists_shows_iff.mp ⟨boxes, shows⟩
          refine ⟨by simp [actual], by simp [actual], by simp [Nat.not_le.mpr few], ?_⟩
          rcases sound.setState_of_known found known host w with
            ⟨shown, ok, built, moved⟩ | ⟨file, e, failed, ofContent, kept⟩
          · refine ⟨?_, fun e failed => absurd (ok.symm.trans failed) (by simp)⟩
            intro _ _
            refine ⟨.inl ok, fun _ => ?_⟩
            refine ⟨shown, fun other => ?_, moved, moved.kind_eq.trans actual, moved.state_eq⟩
            exact built other ▸ shows
          · refine ⟨?_, fun _ _ => kept⟩
            intro _ _
            refine ⟨.inr ⟨file, e, failed, ofContent⟩, fun ok => ?_⟩
            exact absurd (ok.symm.trans failed) (by simp)

/-- A grid of boxes is moved to its empty state. -/
theorem Reachable.setState_outcome_grid :
    let r := Call.after Disk.host ⟨.fresh, []⟩ [Call.createKind none .boxGrid 3 .zero {}]
    let done := (r.setState ⟨1⟩ .boxGrid 2).run Disk.host ⟨.fresh, []⟩
    r.Reachable ∧ done.1.1 = .ok () ∧ r.Moved done.1.2 ⟨1⟩ 2 [] := by
  intro r done
  have reachable : r.Reachable := ⟨_, Disk.host, ⟨.fresh, []⟩, _, by decide, rfl⟩
  have registered : r.kind ⟨1⟩ = .ok .boxGrid := rfl
  obtain ⟨-, -, -, known, -⟩ :=
    reachable.setState_outcome ⟨1⟩ .boxGrid 2 Disk.host ⟨.fresh, []⟩
  obtain ⟨comes, change⟩ := known registered (by decide)
  have ok : done.1.1 = .ok () := comes.resolve_right (by simp)
  obtain ⟨shown, built, moved, -, -⟩ := change ok
  have empty := Kind.content_eq_some_iff.mpr (built (by decide))
  obtain rfl : [] = shown := Option.some.inj empty
  exact ⟨reachable, ok, moved⟩

end SceneBench.Registry
