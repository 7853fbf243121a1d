import SceneBench.Proofs.Plan.Creating
import SceneBench.Proofs.Storage.WholeFile

/-!
# What a plan comes to

Once all scenes exist, every transition moves one of them, so that after any number of transitions
each scene shows the content of the state that the last transition naming it has asked for. A run
that gets through all steps sums this up scene by scene, and any other run ends with the first
fault.
-/

namespace SceneBench

variable {σ : Type} {storage : StorageSettings} {placed : List Placed} {past : List Transition}
  {r : SceneRegistry LocalProducer} {host : Host σ} {w : World σ}

/-! ## What transitions do to what is expected -/

namespace Placed

variable {p : Placed} {t : Transition}

theorem stateAfter_concat_of_eq (past : List Transition) (named : p.id = t.scene) :
    p.stateAfter (past ++ [t]) = t.state := by
  simp [stateAfter, List.filter_append, named]

theorem stateAfter_concat_of_ne (past : List Transition) (other : p.id ≠ t.scene) :
    p.stateAfter (past ++ [t]) = p.stateAfter past := by
  simp [stateAfter, List.filter_append, Ne.symm other]

theorem framesAfter_concat_of_eq (past : List Transition) (named : p.id = t.scene) :
    p.framesAfter (past ++ [t]) = p.framesAfter past + 1 := by
  simp [framesAfter, named, Nat.add_assoc]

theorem framesAfter_concat_of_ne (past : List Transition) (other : p.id ≠ t.scene) :
    p.framesAfter (past ++ [t]) = p.framesAfter past := by
  simp [framesAfter, Ne.symm other]

theorem position_viewpoint (p : Placed) : p.request.viewpoint.position = p.request.camera := by
  unfold SceneRequest.viewpoint
  split
  · unfold Camera.lookingAt
    dsimp only
    split <;> rfl
  all_goals rfl

/-- A scene is summed up as it is shown. -/
theorem ShownIn.capture (shown : p.ShownIn r storage past) :
    Summary.capture r p.id = .ok (p.summary past) := by
  obtain ⟨s, shows', camera, content, frames⟩ := shown
  rw [shows'.capture, summary, Summary.ofScene, StandardRoutine.kind_withState,
    StandardRoutine.state_withState, kind_routine, camera, position_viewpoint, content, frames]
  rfl

end Placed

namespace Plan

/-- The registry holds all scenes of a plan, each as some transitions have left it. -/
structure Driven (storage : StorageSettings) (placed : List Placed) (past : List Transition)
    (r : SceneRegistry LocalProducer) : Prop where
  sound : r.Sound
  ids : r.pairs.map Prod.fst = placed.map Placed.id
  shown : ∀ p ∈ placed, p.ShownIn r storage past

theorem Created.driven (created : Created storage placed r) : Driven storage placed [] r :=
  ⟨created.sound, created.ids, created.shown⟩

namespace Driven

theorem nodup (driven : Driven storage placed past r) : (placed.map Placed.id).Nodup :=
  driven.ids ▸ driven.sound.ids

/-- Moving one scene leaves every scene as one more transition leaves it. -/
theorem moved (driven : Driven storage placed past r) {t : Transition} {boxes : List BoxRecord}
    (known : t.kind.content t.state = some boxes) {r' : SceneRegistry LocalProducer}
    (sound : r'.Sound) (moved : r.Moved r' t.scene t.state boxes)
    (kind : ∀ p ∈ placed, p.id = t.scene → p.request.kind = t.kind) :
    Driven storage placed (past ++ [t]) r' where
  sound := sound
  ids := moved.ids.trans driven.ids
  shown p held := by
    obtain ⟨s, shows', camera, content, frames⟩ := driven.shown p held
    by_cases named : p.id = t.scene
    · refine ⟨{ s with boxes, flushes := s.flushes + 1 }, ?_, camera, ?_, ?_⟩
      · rw [named] at shows' ⊢
        rw [Placed.stateAfter_concat_of_eq past named]
        have after := moved.shows shows'
        rwa [StandardRoutine.withState_withState] at after
      · rw [Placed.stateAfter_concat_of_eq past named, kind p held named, known]
      · rw [Placed.framesAfter_concat_of_eq past named, ← frames]
    · refine ⟨s, ?_, camera, ?_, ?_⟩
      · rw [Placed.stateAfter_concat_of_ne past named]
        exact moved.shows_other driven.sound shows' named
      · rw [Placed.stateAfter_concat_of_ne past named, content]
      · rw [Placed.framesAfter_concat_of_ne past named, frames]

/-- An identity that no scene of the plan has is not registered. -/
theorem find?_eq_none (driven : Driven storage placed past r) {id : SceneId}
    (missing : placed.find? (fun p => p.id = id) = none) : r.find? id = none := by
  rw [← Registry.contains_eq_false_iff, ← Bool.not_eq_true, Registry.contains_iff_mem, driven.ids]
  intro used
  obtain ⟨p, held, named⟩ := List.mem_map.mp used
  simpa [named] using List.find?_eq_none.mp missing p held

/-- A scene of the plan is registered, with a routine of its kind that still has its file. -/
theorem exists_pair (driven : Driven storage placed past r) {p : Placed} (held : p ∈ placed) :
    ∃ pair s, r.find? p.id = some pair ∧ r.producer.view pair.handle = some s ∧
      pair.routine.kind = p.request.kind ∧ pair.routine.jobs = (p.routine storage).jobs := by
  obtain ⟨s, ⟨h, found, shown⟩, -⟩ := driven.shown p held
  refine ⟨_, s, found, shown, ?_, StandardRoutine.jobs_withState _ _⟩
  exact (StandardRoutine.kind_withState _ _).trans (p.kind_routine storage)

/-- A transition without a fault moves its scene. -/
theorem run_setState_of_known (driven : Driven storage placed past r) {p : Placed}
    (held : p ∈ placed) {state : UInt32} {boxes : List BoxRecord}
    (known : p.request.kind.content state = some boxes)
    (served : host.DoesAll w.state ((p.routine storage).jobs boxes)) :
    let out := (r.setState p.id p.request.kind state).run host w
    out.1.1 = .ok () ∧ Driven storage placed (past ++ [⟨p.id, p.request.kind, state⟩]) out.1.2 ∧
      out.2.state = host.afterAll w.state ((p.routine storage).jobs boxes) := by
  obtain ⟨pair, s, found, shown, kind, jobs⟩ := driven.exists_pair held
  have sound := (driven.sound.setState host w p.id p.request.kind state).1
  rw [← kind] at known
  rw [← jobs] at served ⊢
  have run := driven.sound.run_setState_of_known found shown known host w
  obtain ⟨ok, after⟩ := StandardRoutine.run_prepare_of_served s.id state served
  rw [kind] at run known
  simp only [run, ok] at sound ⊢
  refine ⟨trivial, driven.moved known sound ?_ ?_, after⟩
  · exact Registry.moved_moved found shown state boxes
  · intro q held' named
    rw [List.inj_on_of_nodup_map driven.nodup held' held named]

/-- A transition moves its scene or fails with its fault. -/
theorem run_setState (driven : Driven storage placed past r) {t : Transition}
    (served : host.DoesAll w.state (t.step storage placed).jobs) :
    let out := (r.setState t.scene t.kind t.state).run host w
    match (t.step storage placed).fault? with
    | some e => ∃ cause, out.1.1 = .error cause ∧ e = .notMoved t.scene t.state cause
    | none => out.1.1 = .ok () ∧ Driven storage placed (past ++ [t]) out.1.2 ∧
        out.2.state = host.afterAll w.state (t.step storage placed).jobs := by
  obtain ⟨id, asked, state⟩ := t
  unfold Transition.step StandardRoutine.enterJobs at served ⊢
  cases named : placed.find? fun p => p.id = id with
  | none =>
      simp only [Registry.setState_of_missing (driven.find?_eq_none named), Action.run_pure]
      exact ⟨_, rfl, rfl⟩
  | some p =>
      have held := List.mem_of_find?_eq_some named
      obtain rfl : p.id = id := by simpa using List.find?_some named
      obtain ⟨pair, s, found, shown, kind, -⟩ := driven.exists_pair held
      simp only [named, Placed.kind_routine] at served ⊢
      by_cases right : p.request.kind = asked
      case neg =>
        have wrong : Routine.kind pair.routine ≠ asked := fun same => right (kind.symm.trans same)
        simp only [ne_eq, right, not_false_eq_true, if_true,
          Registry.setState_of_mismatch found wrong, Action.run_pure]
        exact ⟨_, rfl, by rw [← kind]; rfl⟩
      subst right
      simp only [ne_eq, not_true_eq_false, if_false] at served ⊢
      cases known : p.request.kind.content state with
      | none =>
          have unknown : pair.routine.kind.content state = none := by rw [kind, known]
          have refused := driven.sound.run_setState_of_unknown found unknown host w
          rw [kind] at refused
          simp only [if_pos (Kind.content_eq_none_iff.mp known), refused]
          exact ⟨_, rfl, rfl⟩
      | some boxes =>
          have few := Kind.exists_content_iff.mp ⟨boxes, known⟩
          simp only [known, if_neg (Nat.not_le.mpr few), Option.elim_some] at served ⊢
          exact driven.run_setState_of_known held known served

/-- All transitions are made, or the first fault ends it; by induction on those to come. -/
theorem run_makeTransitions (driven : Driven storage placed past r) (further : List Transition)
    (served : host.DoesAll w.state (PlanStep.asked (further.map (·.step storage placed)))) :
    let out := (makeTransitions further r).run host w
    match (further.map (·.step storage placed)).findSome? PlanStep.fault? with
    | some e => out.1.1 = .error e
    | none => out.1.1 = .ok () ∧ Driven storage placed (past ++ further) out.1.2 := by
  induction further generalizing past r w with
  | nil => exact ⟨rfl, by rwa [List.append_nil]⟩
  | cons t further ih =>
      rw [List.map_cons, PlanStep.asked, Host.doesAll_append] at served
      have one := driven.run_setState served.1
      simp only [List.map_cons, List.findSome?_cons, makeTransitions, Action.run_bind]
      generalize (r.setState t.scene t.kind t.state).run host w = out at one ⊢
      obtain ⟨⟨result, r'⟩, w'⟩ := out
      cases fault : (t.step storage placed).fault? with
      | some e =>
          rw [fault] at one
          obtain ⟨cause, answer, rfl⟩ := one
          obtain rfl : result = .error cause := answer
          rfl
      | none =>
          simp only [fault] at one
          obtain ⟨rfl, driven', state⟩ := one
          simp only [fault, Option.isSome_none, Bool.false_eq_true, if_false] at served ⊢
          rw [← state] at served
          have all := ih driven' served.2
          rwa [List.append_assoc] at all

end Driven

/-- All scenes are summed up. -/
theorem mapM_capture (shown : ∀ p ∈ placed, p.ShownIn r storage past) :
    (placed.map Placed.id).mapM (Summary.capture r) =
      .ok (placed.map fun p => p.summary past) := by
  induction placed with
  | nil => rfl
  | cons p placed ih =>
      rw [List.forall_mem_cons] at shown
      rw [List.map_cons, List.mapM_cons, shown.1.capture, ih shown.2]
      rfl

/-- What a plan is expected to come to. -/
def outcome (plan : Plan) (placed : List Placed) : Except RunFailure (List Summary) :=
  match plan.fault? placed with
  | some e => .error e
  | none => .ok (placed.map fun p => p.summary plan.transitions)

/-- Carried out from an empty registry, a plan comes to what was expected. -/
theorem run_drive {plan : Plan} (few : plan.scenes.length < 2 ^ 32 - 1)
    (assigned : Placed.Assigned placed) (requests : placed.map Placed.request = plan.scenes)
    (served : host.DoesAll w.state (plan.jobs placed)) :
    ((plan.drive (.empty : SceneRegistry LocalProducer)).run host w).1.1 =
      plan.outcome placed := by
  have count : placed.length < 2 ^ 32 - 1 := by
    rwa [← requests, List.length_map] at few
  rw [jobs, steps, PlanStep.asked_append, Host.doesAll_append] at served
  have created := (Created.empty plan.storage).run_createScenes assigned count served.1
  rw [outcome, fault?, steps, List.findSome?_append, drive, ← requests]
  simp only [Action.run_bind]
  generalize (createScenes plan.storage (placed.map Placed.request) .empty).run host w = out
    at created ⊢
  obtain ⟨⟨result, r⟩, w'⟩ := out
  cases fault : (Placed.creations plan.storage [] placed).findSome? PlanStep.fault? with
  | some e =>
      simp only [fault] at created
      obtain rfl : result = .error e := created
      rfl
  | none =>
      simp only [fault, Option.isSome_none, Bool.false_eq_true, if_false] at served
      simp only [fault, List.nil_append] at created
      obtain ⟨rfl, created, state⟩ := created
      rw [← state] at served
      have moved := created.driven.run_makeTransitions plan.transitions served.2
      simp only [Action.run_bind, Option.none_or]
      generalize (makeTransitions plan.transitions r).run host w' = out at moved ⊢
      obtain ⟨⟨result, r'⟩, w''⟩ := out
      cases fault' : (plan.transitions.map (·.step plan.storage placed)).findSome?
          PlanStep.fault? with
      | some e =>
          simp only [fault'] at moved
          obtain rfl : result = .error e := moved
          rfl
      | none =>
          simp only [fault', List.nil_append] at moved
          obtain ⟨rfl, driven⟩ := moved
          simp only [Action.run_pure, mapM_capture driven.shown]
          rfl

/-- A plan comes to what was expected; that its scenes are destroyed in the end makes no
difference to it. -/
theorem run_eq_outcome {plan : Plan} (few : plan.scenes.length < 2 ^ 32 - 1)
    (assigned : Placed.Assigned placed) (requests : placed.map Placed.request = plan.scenes)
    (served : host.DoesAll w.state (plan.jobs placed)) :
    (plan.run.run host w).1 = plan.outcome placed := by
  rw [← run_drive few assigned requests served]
  simp only [run, Action.run_bind, Action.run_pure]
  rfl

/-- A plan with fewer than `2 ^ 32 - 1` scenes has exactly one way to give identities to them. If
the operating system does what its content files need, the plan is carried out exactly when nothing
is wrong with it, and then there is one summary for each scene, in order and under identities of
their own: it tells of the kind and the place that were asked for, and of the state, content and
number of frames that all transitions have brought about. Otherwise the run ends with the first
fault. -/
theorem run_outcome (plan : Plan) (few : plan.scenes.length < 2 ^ 32 - 1) :
    ∃ placed, Placed.Assigned placed ∧ placed.map Placed.request = plan.scenes ∧
      (∀ other, Placed.Assigned other → other.map Placed.request = plan.scenes →
        other = placed) ∧
      ∀ (σ : Type) (host : Host σ) (w : World σ), host.DoesAll w.state (plan.jobs placed) →
        let outcome := (plan.run.run host w).1
        ((∃ summaries, outcome = .ok summaries) ↔ plan.Acceptable placed) ∧
        (∀ summaries, outcome = .ok summaries →
          (placed.map Placed.id).Nodup ∧
            (summaries = placed.map fun p => p.summary plan.transitions) ∧
            ∀ p ∈ placed, ∃ boxes, p.request.kind.Shows (p.stateAfter plan.transitions) boxes ∧
              (p.summary plan.transitions).Tells boxes) ∧
        ∀ e, outcome = .error e → plan.fault? placed = some e := by
  obtain ⟨placed, assigned, requests⟩ := Placed.exists_assigned plan.scenes (by omega)
  refine ⟨placed, assigned, requests, ?_, ?_⟩
  · exact fun other assigned' requests' => assigned.unique assigned' (requests'.trans requests.symm)
  · intro σ host w served
    dsimp only
    rw [run_eq_outcome few assigned requests served, ← fault?_eq_none_iff assigned requests,
      outcome]
    cases fault : plan.fault? placed with
    | some e => simp
    | none =>
        have acceptable := (fault?_eq_none_iff assigned requests).mp fault
        have ids : (placed.map Placed.id).Nodup :=
          Placed.nodup_ids_of_new fun earlier p later here => acceptable.id_notMem assigned here
        refine ⟨by simp, ?_, by simp⟩
        rintro summaries ⟨⟩
        refine ⟨ids, rfl, fun p held => ?_⟩
        have few := acceptable.stateAfter_lt ids requests held
        obtain ⟨boxes, shows⟩ := Kind.exists_shows_iff.mpr few
        exact ⟨boxes, shows, Placed.tells_summary shows⟩

/-- A plan over a new disk: a counted identity has to pass over a chosen one, and one scene keeps
its content in a file. -/
theorem run_outcome_mixed :
    let plan : Plan :=
      { scenes :=
          [ { kind := .boxGrid, id := some ⟨1⟩ },
            { kind := .fractal },
            { kind := .fileLoading, id := some ⟨10⟩ } ]
        transitions := [⟨⟨10⟩, .fileLoading, 1⟩, ⟨⟨1⟩, .boxGrid, 2⟩] }
    plan.scenes.length < 2 ^ 32 - 1 ∧
      ∃ summaries, (plan.run.run Disk.host ⟨.fresh, []⟩).1 = .ok summaries ∧
        summaries.map (fun s => (s.id, s.state, s.flushes)) =
          [(⟨1⟩, 2, 2), (⟨2⟩, 0, 1), (⟨10⟩, 1, 2)] := by
  intro plan
  have few : plan.scenes.length < 2 ^ 32 - 1 := by decide
  refine ⟨few, ?_⟩
  obtain ⟨placed, -, -, unique, carried⟩ := run_outcome plan few
  let grid : Placed := ⟨{ kind := .boxGrid, id := some ⟨1⟩ }, ⟨1⟩⟩
  let sponge : Placed := ⟨{ kind := .fractal }, ⟨2⟩⟩
  let row : Placed := ⟨{ kind := .fileLoading, id := some ⟨10⟩ }, ⟨10⟩⟩
  have second : IsLeast (Placed.countable [grid]) 2 := by
    refine ⟨⟨by decide, by simp [grid], by simp [grid]⟩, fun n countable => ?_⟩
    have positive : 1 ≤ n := countable.1
    have other : 1 ≠ n := countable.2.2 grid List.mem_cons_self ⟨1⟩ rfl
    show 2 ≤ n
    omega
  have one : Placed.Assigned [grid] := Placed.Assigned.nil.next (Placed.fits_of_id_eq rfl rfl)
  have two : Placed.Assigned [grid, sponge] :=
    one.next (Placed.fits_of_isLeast (p := sponge) rfl second)
  have assigned : Placed.Assigned [grid, sponge, row] :=
    two.next (Placed.fits_of_id_eq rfl rfl)
  obtain rfl := unique _ assigned rfl
  have served : Disk.host.DoesAll .fresh (plan.jobs [grid, sponge, row]) := by
    obtain ⟨cube, first⟩ : ∃ boxes, Content.fileLoading 0 = some boxes := ⟨_, rfl⟩
    obtain ⟨cubes, last⟩ : ∃ boxes, Content.fileLoading 1 = some boxes := ⟨_, rfl⟩
    have jobs : plan.jobs [grid, sponge, row] =
        .directory ⟨"scenes"⟩ :: (Option.elim (Content.fileLoading 0) [] (row.routine {}).jobs) ++
          Option.elim (Content.fileLoading 1) [] (row.routine {}).jobs := rfl
    rw [jobs, first, last]
    let made := Disk.fresh.put ["scenes"] (.directory [])
    let old := made.put ["scenes", "scene_10.bin"] (.leaf (.file (encodeRecords cube)))
    let new := old.put ["scenes", "scene_10.bin"] (.leaf (.file (encodeRecords cubes)))
    have file : row.routine {} = .fileLoading 0 ⟨"scenes/scene_10.bin"⟩ := by decide
    have directory : (StorageJob.directory ⟨"scenes"⟩).after Disk.host .fresh = made := rfl
    have stored : (StorageJob.content ⟨"scenes/scene_10.bin"⟩ cube).DoneBy Disk.host made ∧
        (StorageJob.content ⟨"scenes/scene_10.bin"⟩ cube).after Disk.host made = old :=
      Disk.does_content rfl rfl
    have restored : (StorageJob.content ⟨"scenes/scene_10.bin"⟩ cubes).DoneBy Disk.host old ∧
        (StorageJob.content ⟨"scenes/scene_10.bin"⟩ cubes).after Disk.host old = new :=
      Disk.does_content rfl rfl
    rw [file]
    refine ⟨rfl, ?_⟩
    rw [directory]
    refine ⟨stored.1, ?_⟩
    rw [stored.2]
    exact ⟨restored.1, trivial⟩
  obtain ⟨accepted, summed, -⟩ := carried Disk Disk.host ⟨.fresh, []⟩ served
  obtain ⟨summaries, ok⟩ := accepted.mpr ((fault?_eq_none_iff assigned rfl).mp rfl)
  refine ⟨summaries, ok, ?_⟩
  rw [(summed summaries ok).2.1]
  rfl

end Plan

end SceneBench
