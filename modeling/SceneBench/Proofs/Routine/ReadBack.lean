import SceneBench.Proofs.Record.Format
import SceneBench.Proofs.Routine.Entering
import SceneBench.Proofs.Storage.Keeping
import SceneBench.Proofs.Storage.ReadingLoop
import SceneBench.Proofs.Storage.WholeFile

/-!
# Content that was read back

A routine with a content file shows records only after a complete passage through the file: they
were written, the file was found to be a regular one of some size, and the bytes that were read are
as many as that and the records that are shown. Everything else leaves the scene and the routine as
they were. So whatever the operating system does, nothing half read is ever shown, and if it keeps
files then what is shown is the content of the state.
-/

namespace SceneBench

variable {σ : Type} {host : Host σ} {w : World σ} {file : Path} {boxes shown : List BoxRecord}

/-! ## Readings of files -/

/-- The host has no part in what is noted. -/
theorem Action.state_sayAll (notices : List Notice) (w : World σ) :
    ((sayAll notices).run host w).2.state = w.state := by
  induction notices generalizing w with
  | nil => rfl
  | cons notice rest ih => exact ih _

namespace Files

/-- Where a file has a size and can be opened, so many bytes are asked for. -/
theorem run_readBytes_of_opened {size : Nat} {stream : Stream} {s₁ s₂ : σ}
    (told : host.inspect file w.state = (.ok ⟨.regular, size⟩, s₁))
    (opened : host.openFile file s₁ = (.ok stream, s₂)) :
    ((readBytes file).run host w).1 = .ok (readUpTo stream size).reading ∧
      ((readBytes file).run host w).2.state = s₂ := by
  simp only [readBytes, Files.size, Action.run_bind, Action.run, told, if_true, Action.run_pure,
    opened, readStream]
  split <;> simp [Action.state_sayAll, Action.say, Action.run]

/-- There is a reading only where a file has a size and can be opened. -/
theorem exists_of_readBytes {reading : Reading}
    (read : ((readBytes file).run host w).1 = .ok reading) :
    ∃ size stream s₁ s₂, host.inspect file w.state = (.ok ⟨.regular, size⟩, s₁) ∧
      host.openFile file s₁ = (.ok stream, s₂) ∧ (readUpTo stream size).reading = reading ∧
      ((readBytes file).run host w).2.state = s₂ := by
  rcases told : host.inspect file w.state with ⟨answer, s₁⟩
  cases answer with
  | error e => simp [readBytes, Files.size, Action.run, told] at read
  | ok found =>
      obtain ⟨kind, size⟩ := found
      by_cases regular : kind = .regular
      · subst regular
        rcases opened : host.openFile file s₁ with ⟨answer, s₂⟩
        cases answer with
        | error e => simp [readBytes, Files.size, Action.run, told, opened] at read
        | ok stream =>
            obtain ⟨result, state⟩ := run_readBytes_of_opened told opened
            exact ⟨size, stream, s₁, s₂, rfl, opened, Except.ok.inj (result.symm.trans read), state⟩
      · simp [readBytes, Files.size, Action.run, told, regular] at read

end Files

/-! ## Passages through a file -/

/-- Content was written to a file, and records were read back from it: all the bytes that the file
was then said to have. -/
def ReadBack (host : Host σ) (file : Path) (boxes shown : List BoxRecord) (s s' : σ) : Prop :=
  ∃ s₁ s₂ size stream,
    host.replaceFile file (encodeRecords boxes) s = (.ok (), s₁) ∧
    host.inspect file s₁ = (.ok ⟨.regular, size⟩, s₂) ∧
    host.openFile file s₂ = (.ok stream, s') ∧
    (readUpTo stream size).reading = ⟨encodeRecords shown, .complete⟩ ∧
    (encodeRecords shown).length = size

/-- What comes back from a host that keeps files is what was written, and it stays there. -/
theorem Host.Keeps.readBack {holds : σ → Path → List UInt8 → Prop} (keeps : host.Keeps holds)
    {s s' : σ} (back : ReadBack host file boxes shown s s') :
    holds s' file (encodeRecords boxes) ∧ shown = boxes := by
  obtain ⟨s₁, s₂, size, stream, replaced, told, opened, read, whole⟩ := back
  obtain ⟨size_eq, there⟩ := keeps.inspected (keeps.stored replaced told) told
  obtain ⟨gives, stays⟩ := keeps.opened there opened
  have front : encodeRecords shown <+: encodeRecords boxes := by
    have bytes : (readUpTo stream size).bytes = encodeRecords shown := by
      rw [Filled.reading_eq] at read
      exact congrArg Reading.bytes read
    rw [← bytes]
    exact gives.fill_prefix _
  have same := front.eq_of_length (whole.trans size_eq)
  have decoded := decodeRecords?_eq_some_iff.mpr same
  rw [decodeRecords?_encodeRecords] at decoded
  exact ⟨stays, (Option.some.inj decoded).symm⟩

/-- Where a disk takes content and finds it under the same path, it is read back. -/
theorem Disk.readBack {d d' : Disk} {a : Address}
    (written : d.replaceFile file (encodeRecords boxes) = (.ok (), d'))
    (found : d'.follow .visit file = .ok (.leaf a (.file (encodeRecords boxes)))) :
    ReadBack Disk.host file boxes boxes d d' := by
  obtain ⟨stream, filled⟩ := Stream.readUpTo_ofBytes (encodeRecords boxes)
  refine ⟨d', d', _, _, written, Disk.inspect_of_follow found, Disk.openFile_of_follow found, ?_,
    rfl⟩
  rw [filled]
  rfl

namespace ContentFile

/-- Saving is the one replacement, and its fault is what went wrong there. -/
theorem run_save {answer : Except ReplaceFault Unit} {s₁ : σ}
    (replaced : host.replaceFile file (encodeRecords boxes) w.state = (answer, s₁)) :
    (save file boxes).run host w = (answer.mapError (saveFault file), { w with state := s₁ }) := by
  rw [save_eq, Action.run, replaced]
  rfl

/-- Decoding is a matter of the bytes alone. -/
theorem state_decode (reading : Reading) :
    ((decode file reading).run host w).2.state = w.state := by
  unfold decode
  split <;> rfl

/-- Content is loaded exactly when a complete reading is made of it. -/
theorem run_load_eq_ok_iff :
    ((load file).run host w).1 = .ok shown ↔
      ((Files.readBytes file).run host w).1 = .ok ⟨encodeRecords shown, .complete⟩ := by
  simp only [load, Action.run_bind]
  generalize (Files.readBytes file).run host w = read
  obtain ⟨result, after⟩ := read
  cases result with
  | error e => simp
  | ok reading =>
      obtain ⟨bytes, ending⟩ := reading
      simp only [run_decode_eq_ok_iff, Except.ok.injEq, Reading.mk.injEq]
      exact and_comm.trans (and_congr_left' eq_comm)

theorem state_load :
    ((load file).run host w).2.state = ((Files.readBytes file).run host w).2.state := by
  simp only [load, Action.run_bind]
  generalize (Files.readBytes file).run host w = read
  obtain ⟨result, after⟩ := read
  cases result with
  | error e => rfl
  | ok reading => exact state_decode reading

end ContentFile

namespace StandardRoutine

/-- Content goes through a file exactly when it is written and read back. -/
theorem run_throughFile_eq_ok_iff {id : SceneId} {s' : σ} :
    (((throughFile id file boxes).run host w).1 = .ok shown ∧
        ((throughFile id file boxes).run host w).2.state = s') ↔
      ReadBack host file boxes shown w.state s' := by
  rcases replaced : host.replaceFile file (encodeRecords boxes) w.state with ⟨answer, s₁⟩
  have saved := ContentFile.run_save replaced
  cases answer with
  | error fault =>
      constructor
      · rintro ⟨ok, -⟩
        rw [throughFile, Action.run_bind, saved] at ok
        cases ok
      · rintro ⟨s₁', s₂, size, stream, ok, -⟩
        rw [replaced] at ok
        cases ok
  | ok done =>
      have through : ((throughFile id file boxes).run host w).1 =
            ((ContentFile.load file).run host { w with state := s₁ }).1 ∧
          ((throughFile id file boxes).run host w).2.state =
            ((ContentFile.load file).run host { w with state := s₁ }).2.state := by
        change _ = (Except.ok (), _) at saved
        simp only [throughFile, Action.run_bind, saved]
        generalize (ContentFile.load file).run host { w with state := s₁ } = loaded
        obtain ⟨result, after⟩ := loaded
        cases result <;> exact ⟨rfl, rfl⟩
      rw [through.1, through.2, ContentFile.run_load_eq_ok_iff, ContentFile.state_load]
      constructor
      · rintro ⟨read, rfl⟩
        obtain ⟨size, stream, s₁', s₂, told, opened, reading, state⟩ :=
          Files.exists_of_readBytes read
        have whole := length_of_complete (congrArg Reading.ending reading)
        rw [reading] at whole
        rw [state]
        exact ⟨s₁, s₁', size, stream, replaced, told, opened, reading, whole⟩
      · rintro ⟨s₁', s₂, size, stream, ok, told, opened, reading, -⟩
        obtain rfl : s₁ = s₁' := congrArg Prod.snd (replaced.symm.trans ok)
        rw [← reading]
        exact Files.run_readBytes_of_opened told opened

/-- Entering a state of which the content goes through a file never shows anything half read.

A turn that succeeds has written the content of the state and read all of the file back, and shows
the records that were read; if the host keeps files, the file is left with the content of the state
and that is what is shown. Whenever content is written and read back the turn succeeds. A turn that
fails changes neither the scene nor the routine, and one into a state without content asks for
nothing. -/
theorem enter_fileLoading (last : UInt32) (file : Path) (scene : Scene) (state : UInt32)
    (host : Host σ) (w : World σ) :
    let r := fileLoading last file
    let entered := (r.enter scene state).run host w
    let turn := entered.1
    let after := scene.applyAll turn.edits
    (turn.result = .ok () →
      ∃ boxes, Content.fileLoading state = some boxes ∧
        turn.routine = .fileLoading state file ∧
        after = { scene with boxes := after.boxes, flushes := scene.flushes + 1 } ∧
        ReadBack host file boxes after.boxes w.state entered.2.state ∧
        ∀ holds, host.Keeps holds →
          holds entered.2.state file (encodeRecords boxes) ∧ after.boxes = boxes) ∧
    (∀ boxes, Content.fileLoading state = some boxes →
      ∀ shown s', ReadBack host file boxes shown w.state s' →
        turn.result = .ok () ∧ after.boxes = shown ∧ entered.2.state = s') ∧
    (∀ e, turn.result = .error e → after = scene ∧ turn.routine = r) ∧
    (Content.fileLoading state = none →
      turn.result = .error (.unknownState .fileLoading state) ∧ entered.2 = w) := by
  intro r
  dsimp only
  cases known : Content.fileLoading state with
  | none =>
      rw [enter_of_unknown (r := r) known scene, Action.run_pure]
      exact ⟨nofun, nofun, fun e failed => ⟨rfl, rfl⟩, fun unknown => ⟨rfl, rfl⟩⟩
  | some boxes =>
      have passage (shown : List BoxRecord) (s' : σ) :
          (((throughFile scene.id file boxes).run host w).1 = .ok shown ∧
              ((throughFile scene.id file boxes).run host w).2.state = s') ↔
            ReadBack host file boxes shown w.state s' :=
        run_throughFile_eq_ok_iff
      rw [run_enter_of_known (r := r) known,
        show r.prepare scene.id state boxes = throughFile scene.id file boxes from rfl]
      generalize (throughFile scene.id file boxes).run host w = through at passage ⊢
      obtain ⟨result, w'⟩ := through
      match result with
      | .error e =>
          refine ⟨nofun, ?_, fun e' failed => ⟨rfl, rfl⟩, nofun⟩
          rintro boxes' ⟨⟩ shown s' back
          exact nomatch ((passage shown s').mpr back).1
      | .ok shown =>
          have back := (passage shown w'.state).mp ⟨rfl, rfl⟩
          refine ⟨fun ok => ⟨boxes, rfl, rfl, rfl, back, ?_⟩, ?_, nofun, nofun⟩
          · intro holds keeps
            exact keeps.readBack back
          · rintro boxes' ⟨⟩ shown' s' back'
            obtain ⟨same, state⟩ := (passage shown' s').mpr back'
            exact ⟨rfl, Except.ok.inj same, state⟩

/-- A file that held more than the content of a state holds nothing but that afterwards, and the
scene shows it. -/
theorem enter_fileLoading_shorter :
    let d := Disk.fresh.put ["tmp", "a.bin"] (.leaf (.file (List.replicate 100 7)))
    let scene : Scene := { id := ⟨1⟩, handle := ⟨1⟩, settings := {} }
    let entered := ((fileLoading 1 ⟨"/tmp/a.bin"⟩).enter scene 0).run Disk.host ⟨d, []⟩
    ∃ cube, Content.fileLoading 0 = some [cube] ∧ entered.1.result = .ok () ∧
      (scene.applyAll entered.1.edits).boxes = [cube] ∧
      entered.2.state.Holds ⟨"/tmp/a.bin"⟩ cube.encode := by
  intro d scene
  dsimp only
  obtain ⟨cube, content⟩ : ∃ cube, Content.fileLoading 0 = some [cube] := ⟨_, rfl⟩
  have written (bytes : List UInt8) : d.replaceFile ⟨"/tmp/a.bin"⟩ bytes =
      (.ok (), d.put ["tmp", "a.bin"] (.leaf (.file bytes))) := rfl
  have found (bytes : List UInt8) :
      (d.put ["tmp", "a.bin"] (.leaf (.file bytes))).follow .visit ⟨"/tmp/a.bin"⟩ =
        .ok (.leaf ["tmp", "a.bin"] (.file bytes)) := rfl
  have back := Disk.readBack (written (encodeRecords [cube])) (found (encodeRecords [cube]))
  obtain ⟨succeeds, passes, -, -⟩ :=
    enter_fileLoading 1 ⟨"/tmp/a.bin"⟩ scene 0 Disk.host ⟨d, []⟩
  obtain ⟨ok, -, -⟩ := passes [cube] content [cube] _ back
  obtain ⟨boxes, content', -, -, -, kept⟩ := succeeds ok
  obtain rfl : [cube] = boxes := Option.some.inj (content.symm.trans content')
  obtain ⟨holds, shown⟩ := kept Disk.Holds Disk.keeps
  refine ⟨cube, content, ok, shown, ?_⟩
  rwa [encodeRecords, List.flatMap_singleton] at holds

end StandardRoutine

end SceneBench
