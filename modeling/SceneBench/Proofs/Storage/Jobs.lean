import SceneBench.Record.Encoding
import SceneBench.Storage.Files

/-!
# What content files need of an operating system

Scene content that goes through a file needs two things of the operating system: that a directory
is there, and that what was written to a file is read back from it as it was. Both are jobs, and
whether a host does a job is a question about its answers from the state that it is in when the job
comes up. The log of a world plays no part in any of this.
-/

namespace SceneBench

variable {α σ : Type}

/-- What an action comes to depends on the state of the host alone. -/
theorem Action.run_congr (a : Action α) (host : Host σ) {w w' : World σ}
    (same : w.state = w'.state) :
    (a.run host w).1 = (a.run host w').1 ∧ (a.run host w).2.state = (a.run host w').2.state := by
  obtain ⟨s, log⟩ := w
  obtain ⟨s', log'⟩ := w'
  obtain rfl : s = s' := same
  induction a generalizing s log log' with
  | done value => exact ⟨rfl, rfl⟩
  | note notice next ih => exact ih s _ _
  | inspect path next ih => exact ih _ _ _ _
  | makeDirectory path next ih => exact ih _ _ _ _
  | removeTree path next ih => exact ih _ _ _ _
  | replaceFile path content next ih => exact ih _ _ _ _
  | openFile path next ih => exact ih _ _ _ _
  | currentDirectory next ih => exact ih _ _ _ _
  | changeDirectory path next ih => exact ih _ _ _ _

/-- One thing that content files need. -/
inductive StorageJob where
  | directory (path : Path)
  | content (file : Path) (boxes : List BoxRecord)

namespace StorageJob

/-- A host in a state does the job: the directory is there, or all bytes that were written come back
and the reading is complete. -/
def DoneBy (host : Host σ) (s : σ) : StorageJob → Prop
  | directory path => ((Files.createDirectories path).run host ⟨s, []⟩).1 = .ok ()
  | content file boxes =>
    let written := (Files.writeBytes file (encodeRecords boxes)).run host ⟨s, []⟩
    written.1 = .ok () ∧
      ((Files.readBytes file).run host written.2).1 = .ok ⟨encodeRecords boxes, .complete⟩

/-- The state of a host after a job. -/
def after (host : Host σ) (s : σ) : StorageJob → σ
  | directory path => ((Files.createDirectories path).run host ⟨s, []⟩).2.state
  | content file boxes =>
    let written := (Files.writeBytes file (encodeRecords boxes)).run host ⟨s, []⟩
    ((Files.readBytes file).run host written.2).2.state

variable {host : Host σ} {w : World σ}

theorem run_directory {path : Path} (done : (directory path).DoneBy host w.state) :
    let made := (Files.createDirectories path).run host w
    made.1 = .ok () ∧ made.2.state = (directory path).after host w.state := by
  have same : w.state = (World.mk w.state []).state := rfl
  obtain ⟨answer, state⟩ := (Files.createDirectories path).run_congr host same
  exact ⟨answer.trans done, state⟩

theorem run_content {file : Path} {boxes : List BoxRecord}
    (done : (content file boxes).DoneBy host w.state) :
    let written := (Files.writeBytes file (encodeRecords boxes)).run host w
    let read := (Files.readBytes file).run host written.2
    written.1 = .ok () ∧ read.1 = .ok ⟨encodeRecords boxes, .complete⟩ ∧
      read.2.state = (content file boxes).after host w.state := by
  obtain ⟨stored, back⟩ := done
  have same : w.state = (World.mk w.state []).state := rfl
  obtain ⟨answer, state⟩ := (Files.writeBytes file (encodeRecords boxes)).run_congr host same
  obtain ⟨answer', state'⟩ := (Files.readBytes file).run_congr host state
  exact ⟨answer.trans stored, answer'.trans back, state'⟩

end StorageJob

namespace Host

variable {host : Host σ} {s : σ}

/-- The state of a host after several jobs. -/
def afterAll (host : Host σ) (s : σ) (jobs : List StorageJob) : σ :=
  jobs.foldl (StorageJob.after host) s

/-- A host does several jobs one after the other. -/
def DoesAll (host : Host σ) : σ → List StorageJob → Prop
  | _, [] => True
  | s, job :: rest => job.DoneBy host s ∧ host.DoesAll (job.after host s) rest

theorem afterAll_append (jobs jobs' : List StorageJob) :
    host.afterAll s (jobs ++ jobs') = host.afterAll (host.afterAll s jobs) jobs' :=
  List.foldl_append

theorem doesAll_append {jobs jobs' : List StorageJob} :
    host.DoesAll s (jobs ++ jobs') ↔
      host.DoesAll s jobs ∧ host.DoesAll (host.afterAll s jobs) jobs' := by
  induction jobs generalizing s with
  | nil => simp [DoesAll, afterAll]
  | cons job jobs ih =>
      rw [List.cons_append, DoesAll, DoesAll, ih, and_assoc]
      rfl

end Host

end SceneBench
