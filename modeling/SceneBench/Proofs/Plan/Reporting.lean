import SceneBench.Proofs.Plan.Arguments
import SceneBench.Proofs.Plan.CleanUp
import SceneBench.Proofs.Plan.ContentFiles
import SceneBench.Proofs.Plan.SummaryFiles

/-!
# What a run of the program leaves

Nothing is printed, and no summary is written, before a plan was carried out with success. Then the
summaries are of different scenes, so that each has a file of its own, and they go to the directory
that the arguments name or else to that of the plan.
-/

namespace SceneBench

variable {σ : Type} {host : Host σ} {w : World σ}

/-! ## Summaries of a plan -/

theorem Summary.id_eq_of_capture {r : SceneRegistry LocalProducer} {id : SceneId} {s : Summary}
    (captured : capture r id = .ok s) : s.id = id := by
  obtain ⟨scene, -, captured⟩ := exists_of_bind_eq_ok captured
  obtain ⟨kind, -, captured⟩ := exists_of_bind_eq_ok captured
  obtain ⟨state, -, captured⟩ := exists_of_bind_eq_ok captured
  cases captured
  rfl

theorem Summary.ids_eq_of_mapM_capture {r : SceneRegistry LocalProducer} {ids : List SceneId}
    {summaries : List Summary} (captured : ids.mapM (capture r) = .ok summaries) :
    summaries.map Summary.id = ids := by
  induction ids generalizing summaries with
  | nil =>
      cases captured
      rfl
  | cons id rest ih =>
      rw [List.mapM_cons] at captured
      obtain ⟨s, first, captured⟩ := exists_of_bind_eq_ok captured
      obtain ⟨more, others, captured⟩ := exists_of_bind_eq_ok captured
      cases captured
      rw [List.map_cons, ih others, id_eq_of_capture first]

/-- The summaries of a plan that was carried out are of different scenes. -/
theorem Plan.nodup_ids_of_run {plan : Plan} {summaries : List Summary}
    (ok : (plan.run.run host w).1 = .ok summaries) : (summaries.map Summary.id).Nodup := by
  have driven : ((plan.drive .empty).run host w).1.1 = .ok summaries := by
    rw [← ok]
    simp only [Plan.run, Action.run_bind, Action.run_pure]
    rfl
  have holds := plan.holds_drive host w
  obtain ⟨made, named⟩ := plan.holds_createScenes host w
  rw [run_drive_eq] at driven holds
  dsimp only at driven holds made named
  generalize (createScenes plan.storage plan.scenes .empty).run host w = created
    at driven holds made named
  obtain ⟨⟨result, r⟩, w'⟩ := created
  cases result with
  | error e => cases driven
  | ok ids =>
      dsimp only at driven holds
      generalize (makeTransitions plan.transitions r).run host w' = moved at driven holds
      obtain ⟨⟨result, r'⟩, w''⟩ := moved
      cases result with
      | error e => cases driven
      | ok done =>
          dsimp only at driven holds
          cases captured : ids.mapM (Summary.capture r') with
          | error e =>
              rw [captured] at driven
              cases driven
          | ok all =>
              rw [captured] at driven
              cases driven
              rw [Summary.ids_eq_of_mapM_capture captured, ← (named ids rfl).2, ← holds.ids]
              exact holds.sound.ids

/-! ## What is asked -/

/-- No file of a summary is asked to be replaced. -/
def Question.NoSummary (questions : List Question) : Prop :=
  ∀ file content, .replaceFile file content ∈ questions →
    ∀ directory (s : Summary), file ≠ s.file directory

theorem Question.NoSummary.append {first second : List Question} (none' : NoSummary first)
    (none'' : NoSummary second) : NoSummary (first ++ second) := fun file content asked =>
  (List.mem_append.mp asked).elim (none' file content) (none'' file content)

theorem Plan.asks_load (file : Path) : (Plan.load file).OnlyAsks Question.IsLook := by
  have looks : (Files.pathExists file).OnlyAsks Question.IsLook := by
    refine ⟨trivial, fun told => ?_⟩
    cases told <;> trivial
  apply looks.bind
  intro there _
  split
  · exact (Files.asks_readText file).bind fun _ _ => Action.onlyAsks_pure _
  · trivial

theorem Plan.noSummary_load (file : Path) (host : Host σ) (s : σ) :
    Question.NoSummary ((Plan.load file).asked host s) := fun _ _ asked =>
  absurd ((Plan.asks_load file).asked host s _ asked) id

theorem Plan.noSummary_run (plan : Plan) (host : Host σ) (s : σ) :
    Question.NoSummary (plan.run.asked host s) := by
  intro file content asked directory summary same
  obtain ⟨id, named⟩ := plan.asks_run.asked host s _ asked
  exact summary.file_ne_contentFile directory plan.storage id (same.symm.trans named)

namespace Summary

/-- To make a directory or look at something, or to write the file of one of some summaries. -/
def IsWriting (directory : Path) (summaries : List Summary) : Question → Prop
  | .replaceFile file content =>
    ∃ s ∈ summaries, file = s.file directory ∧ content = Utf8.encode s.document.pretty
  | q => q.IsMaking (directory :: directory.parents)

theorem asks_writeEach (directory : Path) {all summaries : List Summary}
    (listed : ∀ s ∈ summaries, s ∈ all) :
    (writeEach directory summaries).OnlyAsks (IsWriting directory all) := by
  induction summaries with
  | nil => trivial
  | cons s rest ih =>
      obtain ⟨first, others⟩ := List.forall_mem_cons.mp listed
      have one : (Files.writeText (s.file directory) s.document.pretty).OnlyAsks
          (IsWriting directory all) := by
        refine ⟨⟨s, first, rfl, rfl⟩, fun answer => ?_⟩
        rcases answer with (e | e) | done <;> trivial
      apply one.bind
      intro answer _
      cases answer with
      | error e => trivial
      | ok done => exact (Action.onlyAsks_say _).bind fun _ _ => ih others

theorem asks_writeAll (directory : Path) (summaries : List Summary) :
    (writeAll directory summaries).OnlyAsks (IsWriting directory summaries) := by
  have made : (Files.createDirectories directory).OnlyAsks (IsWriting directory summaries) := by
    apply (Files.asks_createDirectories directory).mono _ fun _ _ => trivial
    intro q making
    cases q with
    | replaceFile => exact False.elim making
    | inspect | makeDirectory | removeTree | openFile | currentDirectory | changeDirectory =>
        exact making
  apply made.bind
  intro answer _
  cases answer with
  | error e => trivial
  | ok done => exact asks_writeEach directory fun _ listed => listed

end Summary

theorem Files.run_writeText_of_ok {p : Path} {text : String} {s s' : σ} {log : List Notice}
    (written : host.replaceFile p (Utf8.encode text) s = (.ok (), s')) :
    (writeText p text).run host ⟨s, log⟩ = (.ok (), ⟨s', log⟩) := by
  simp only [writeText, writeBytes, Action.run, written, Action.run_pure]

namespace Summary

variable {directory : Path} {s : Summary} {rest summaries : List Summary} {v v' : σ}
  {log : List Notice}

theorem run_writeAll_of_ok
    (made : (Files.createDirectories directory).run host w = (.ok (), ⟨v, log⟩)) :
    (writeAll directory summaries).run host w =
      (writeEach directory summaries).run host ⟨v, log⟩ := by
  simp only [writeAll, Action.run_bind, made]

/-- Where the first file is written the others are next. -/
theorem run_writeEach_cons
    (stored : host.replaceFile (s.file directory) (Utf8.encode s.document.pretty) v =
      (.ok (), v')) :
    (writeEach directory (s :: rest)).run host ⟨v, log⟩ =
      (writeEach directory rest).run host ⟨v', log ++ [.summaryWritten (s.file directory)]⟩ := by
  simp only [writeEach, Action.run_bind, Files.run_writeText_of_ok stored]
  rfl

end Summary

namespace CommandLine

/-! ## The program -/

/-- Somebody who asked for a plan to be carried out is left with the outcome and the questions of a
run, and the state that it ends in. -/
structure Reports (host : Host σ) (i : Invocation) (w : World σ) (outcome : Outcome)
    (asked : List Question) (final : σ) : Prop where
  /-- Unless there is a plan and it was carried out, nothing is printed and no summary is
  written. -/
  silent : (∀ plan w₁ summaries w₂, (Plan.load i.plan).run host w = (.ok plan, w₁) →
      plan.run.run host w₁ ≠ (.ok summaries, w₂)) →
    outcome.output = "" ∧ outcome.code = 1 ∧ Question.NoSummary asked
  /-- When it was, the summaries are printed, and all that is written after that are the files of
  the summaries in the directory that was asked for, if there is one. -/
  written : ∀ plan w₁ summaries w₂, (Plan.load i.plan).run host w = (.ok plan, w₁) →
    plan.run.run host w₁ = (.ok summaries, w₂) →
      (summaries.map Summary.id).Nodup ∧
      outcome.output = String.join (summaries.map Summary.shown) ∧
      ∃ before after, asked = before ++ after ∧ Question.NoSummary before ∧
        match i.output <|> plan.output with
        | none => after = [] ∧ outcome.code = 0 ∧ final = w₂.state
        | some directory =>
          let kept := (Summary.writeAll directory summaries).run host w₂
          (∀ q ∈ after, Summary.IsWriting directory summaries q) ∧
            (outcome.code = 0 ↔ kept.1 = .ok ()) ∧ final = kept.2.state

/-- The questions that end a run in which a plan was carried out. -/
theorem run_carryOut_of_ok {i : Invocation} {plan : Plan} {summaries : List Summary}
    {w₁ w₂ : World σ} (loaded : (Plan.load i.plan).run host w = (.ok plan, w₁))
    (ran : plan.run.run host w₁ = (.ok summaries, w₂)) :
    ∃ after, (carryOut i).asked host w.state =
        (Plan.load i.plan).asked host w.state ++ plan.run.asked host w₁.state ++ after ∧
      ((carryOut i).run host w).1.output = String.join (summaries.map Summary.shown) ∧
      match i.output <|> plan.output with
      | none => after = [] ∧ ((carryOut i).run host w).1.code = 0 ∧
          ((carryOut i).run host w).2.state = w₂.state
      | some directory =>
        let kept := (Summary.writeAll directory summaries).run host w₂
        (∀ q ∈ after, Summary.IsWriting directory summaries q) ∧
          (((carryOut i).run host w).1.code = 0 ↔ kept.1 = .ok ()) ∧
          ((carryOut i).run host w).2.state = kept.2.state := by
  simp only [carryOut, Action.run_bind, Action.asked_bind, loaded, ran]
  cases chosen : i.output <|> plan.output with
  | none => exact ⟨[], by simp, rfl, rfl, rfl, rfl⟩
  | some directory =>
      have asks := (Summary.asks_writeAll directory summaries).asked host w₂.state
      simp only [Action.run_bind, Action.asked_bind]
      rcases kept : (Summary.writeAll directory summaries).run host w₂ with ⟨answer, w₃⟩
      refine ⟨(Summary.writeAll directory summaries).asked host w₂.state, ?_, ?_, asks, ?_, ?_⟩
      · cases answer <;> simp
      · cases answer <;> rfl
      · cases answer with
        | error e => exact iff_of_false Nat.one_ne_zero fun ok => by cases ok
        | ok done => exact iff_of_true rfl rfl
      · cases answer <;> rfl

theorem reports (host : Host σ) (i : Invocation) (w : World σ) :
    Reports host i w ((carryOut i).run host w).1 ((carryOut i).asked host w.state)
      ((carryOut i).run host w).2.state := by
  have looked := Plan.noSummary_load i.plan host w.state
  have nothing : Question.NoSummary [] := fun _ _ none' => nomatch none'
  rcases loaded : (Plan.load i.plan).run host w with ⟨answer, w₁⟩
  cases answer with
  | error e =>
      constructor
      · intro _
        simp only [carryOut, Action.run_bind, Action.asked_bind, loaded]
        exact ⟨rfl, rfl, looked.append nothing⟩
      · intro plan w₁ summaries w₂ there
        cases loaded.symm.trans there
  | ok plan =>
      have worked := plan.noSummary_run host w₁.state
      rcases ran : plan.run.run host w₁ with ⟨result, w₂⟩
      cases result with
      | error e =>
          constructor
          · intro _
            simp only [carryOut, Action.run_bind, Action.asked_bind, loaded, ran]
            exact ⟨rfl, rfl, looked.append (worked.append nothing)⟩
          · intro plan' w₁' summaries w₂' there done
            cases loaded.symm.trans there
            cases ran.symm.trans done
      | ok summaries =>
          obtain ⟨after, asked, printed, ended⟩ := run_carryOut_of_ok loaded ran
          constructor
          · intro never
            exact absurd ran (never plan w₁ summaries w₂ loaded)
          · intro plan' w₁' summaries' w₂' there done
            cases loaded.symm.trans there
            cases ran.symm.trans done
            have distinct := Plan.nodup_ids_of_run (congrArg Prod.fst ran)
            exact ⟨distinct, printed, _, after, asked, looked.append worked, ended⟩

/-- No summary is lost, mixed up with another or written early. Whatever fails on a disk, the files
of summaries of different scenes are written one by one and touch nothing else, where neither a link
nor a device has the place of one. A plan is carried out for exactly those arguments that spell so,
and the directory they name is that of the output option. Whatever a host answers, such a run prints
nothing and writes no summary before the plan is carried out. -/
theorem summaries_kept :
    (∀ (host : Host Disk) (w : World Disk) (directory : Path) (summaries : List Summary),
      Disk.MayFail host → w.state.Standing → (summaries.map Summary.id).Nodup →
        let made := (Files.createDirectories directory).run host w
        let out := (Summary.writeAll directory summaries).run host w
        Summary.WrittenInto directory summaries w.state made.2.state out.2.state made.1 out.1) ∧
    (∀ arguments i, read arguments = .ok (.carryOut i) ↔ Asks arguments i) ∧
    ∀ {σ : Type} (host : Host σ) (w : World σ) (arguments : List String) (i : Invocation),
      Asks arguments i →
        let out := (program arguments).run host w
        Reports host i w out.1 ((program arguments).asked host w.state) out.2.state := by
  refine ⟨?_, fun _ _ => read_eq_carryOut_iff, ?_⟩
  · intro host w directory summaries fails standing distinct
    exact Summary.writtenInto fails standing distinct directory
  · intro σ host w arguments i asks
    have same : program arguments = carryOut i := by rw [program, read_eq_carryOut_iff.mpr asks]
    rw [same]
    exact reports host i w

/-- The summary of a scene without boxes. -/
def bare (id : UInt32) : Summary where
  id := ⟨id⟩
  kind := .walls
  state := 0
  boxes := 0
  movingBoxes := 0
  bounds := none
  camera := .zero
  forward := .zero
  flushes := 0

/-- Two summaries are written into a directory that is missing, and a plan is missing as well. -/
theorem summaries_kept_missing :
    Disk.MayFail Disk.host ∧ Disk.fresh.Standing ∧
      ([bare 1, bare 10].map Summary.id).Nodup ∧
      (∃ d d', Summary.WrittenInto ⟨"out"⟩ [bare 1, bare 10] .fresh d d' (.ok ()) (.ok ())) ∧
      read ["plan.json", "-oout"] = .ok (.carryOut ⟨⟨"plan.json"⟩, some ⟨"out"⟩, false⟩) ∧
      Asks ["plan.json", "-oout"] ⟨⟨"plan.json"⟩, some ⟨"out"⟩, false⟩ ∧
      ∃ outcome asked final, Reports Disk.host ⟨⟨"plan.json"⟩, some ⟨"out"⟩, false⟩ ⟨.fresh, []⟩
        outcome asked final := by
  have distinct : ([bare 1, bare 10].map Summary.id).Nodup := by decide
  have spelled : ["-oout"] ∈ outputOptions "out" := .tail _ (.head _)
  have asks : Asks ["plan.json", "-oout"] ⟨⟨"plan.json"⟩, some ⟨"out"⟩, false⟩ :=
    (asks_output spelled (.inr (by simp)) (by simp) (by simp) (.inr (by simp)) (by simp)).2
  have understood := (summaries_kept.2.1 _ _).mpr asks
  have written := summaries_kept.1 Disk.host ⟨.fresh, []⟩ ⟨"out"⟩ [bare 1, bare 10]
    Disk.mayFail_host Disk.standing_fresh distinct
  have reported := summaries_kept.2.2 Disk.host ⟨.fresh, []⟩ _ _ asks
  let d := Disk.fresh.put ["out"] (.directory [])
  let one (c : List UInt8) := d.put ["out", "scene_1.json"] (.leaf (.file c))
  let two (c c' : List UInt8) := (one c).put ["out", "scene_10.json"] (.leaf (.file c'))
  have made : (Files.createDirectories ⟨"out"⟩).run Disk.host ⟨.fresh, []⟩ = (.ok (), ⟨d, []⟩) :=
    rfl
  have first (c : List UInt8) :
      Disk.host.replaceFile ((bare 1).file ⟨"out"⟩) c d = (.ok (), one c) := rfl
  have second (c c' : List UInt8) :
      Disk.host.replaceFile ((bare 10).file ⟨"out"⟩) c' (one c) = (.ok (), two c c') := rfl
  have out : ((Summary.writeAll ⟨"out"⟩ [bare 1, bare 10]).run Disk.host ⟨.fresh, []⟩).1 =
      .ok () := by
    rw [Summary.run_writeAll_of_ok made, Summary.run_writeEach_cons (first _),
      Summary.run_writeEach_cons (second _ _)]
    rfl
  simp only [made, out] at written
  exact ⟨Disk.mayFail_host, Disk.standing_fresh, distinct, ⟨_, _, written⟩, understood, asks, _, _,
    _, reported⟩

/-- Nothing fails, but a summary is not kept where the null device has the place of its file. And
where the path of a directory leads up again, a directory is made in which it does not lie. -/
theorem taken_by_device_and_made_besides :
    let d := Disk.fresh.put ["out", "scene_1.json"] (.leaf (.device .null))
    let taken := (Summary.writeAll ⟨"out"⟩ [bare 1]).run Disk.host ⟨d, []⟩
    let besides := (Summary.writeAll ⟨"a/../b"⟩ [bare 1]).run Disk.host ⟨.fresh, []⟩
    (d.Standing ∧ d.get? ["out", "scene_1.json"] = some (.leaf (.device .null)) ∧
      taken.1 = .ok () ∧ taken.2.state = d ∧
      d.follow .visit ((bare 1).file ⟨"out"⟩) =
        .ok (.leaf ["out", "scene_1.json"] (.device .null))) ∧
    Disk.fresh.Standing ∧ besides.1 = .ok () ∧
      besides.2.state.follow .visit ⟨"a/../b"⟩ = .ok (.directory ⟨["b"], []⟩) ∧
      Disk.fresh.get? ["a"] = none ∧ besides.2.state.get? ["a"] = some .directory := by
  intro d taken besides
  have nothing (c : List UInt8) :
      Disk.host.replaceFile ((bare 1).file ⟨"out"⟩) c d = (.ok (), d) := rfl
  have there : (Files.createDirectories ⟨"out"⟩).run Disk.host ⟨d, []⟩ = (.ok (), ⟨d, []⟩) := rfl
  have taken_eq : taken = (.ok (), ⟨d, [.summaryWritten ((bare 1).file ⟨"out"⟩)]⟩) :=
    (Summary.run_writeAll_of_ok there).trans (Summary.run_writeEach_cons (nothing _))
  let made := (Disk.fresh.put ["a"] (.directory [])).put ["b"] (.directory [])
  let kept (c : List UInt8) := made.put ["b", "scene_1.json"] (.leaf (.file c))
  have two : (Files.createDirectories ⟨"a/../b"⟩).run Disk.host ⟨.fresh, []⟩ =
      (.ok (), ⟨made, []⟩) := rfl
  have stored (c : List UInt8) :
      Disk.host.replaceFile ((bare 1).file ⟨"a/../b"⟩) c made = (.ok (), kept c) := rfl
  have besides_eq : besides = (.ok (), ⟨kept (Utf8.encode (bare 1).document.pretty),
      [.summaryWritten ((bare 1).file ⟨"a/../b"⟩)]⟩) :=
    (Summary.run_writeAll_of_ok two).trans (Summary.run_writeEach_cons (stored _))
  rw [taken_eq, besides_eq]
  exact ⟨⟨rfl, rfl, rfl, rfl, rfl⟩, rfl, rfl, rfl, rfl, rfl⟩

end CommandLine

end SceneBench
