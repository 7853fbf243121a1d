import SceneBench.Proofs.Storage.Carrying
import SceneBench.Proofs.Storage.Jobs

/-!
# Files on a disk are read whole

A file on a disk delivers its bytes, and the room that is read into is made to its size. So the
reading is complete, and a disk keeps content wherever it lets a file be written that a path then
leads to.
-/

namespace SceneBench

/-- A file is read completely into room of its size. -/
theorem Stream.readUpTo_ofBytes (content : List UInt8) :
    ∃ s, readUpTo (ofBytes content) content.length = ⟨content, none, s⟩ :=
  (carries_ofBytes content).readUpTo_eq

namespace Disk

variable {d : Disk} {p : Path} {a : Address} {content : List UInt8}
  (found : d.follow .visit p = .ok (.leaf a (.file content)))
include found

/-! Where a path leads to a file, a disk answers questions about it and stays as it is. -/

theorem inspect_of_follow : host.inspect p d = (.ok ⟨.regular, content.length⟩, d) := by
  show (d.inspect p, d) = _
  rw [inspect, found]

theorem openFile_of_follow : host.openFile p d = (.ok (.ofBytes content), d) := by
  show (d.openFile p, d) = _
  rw [openFile, found]

/-- The content of the file is read completely. -/
theorem run_readBytes_of_follow (log : List Notice) :
    (Files.readBytes p).run host ⟨d, log⟩ = (.ok ⟨content, .complete⟩, ⟨d, log⟩) :=
  servedBy_host.run_readBytes found log

end Disk

/-- A disk that takes the bytes of content, and finds them under the same path, keeps content. -/
theorem Disk.does_content {d d' : Disk} {file : Path} {a : Address} {boxes : List BoxRecord}
    (written : d.replaceFile file (encodeRecords boxes) = (.ok (), d'))
    (found : d'.follow .visit file = .ok (.leaf a (.file (encodeRecords boxes)))) :
    (StorageJob.content file boxes).DoneBy Disk.host d ∧
      (StorageJob.content file boxes).after Disk.host d = d' := by
  have stored : (Files.writeBytes file (encodeRecords boxes)).run Disk.host ⟨d, []⟩ =
      (.ok (), ⟨d', []⟩) := by
    have answer : Disk.host.replaceFile file (encodeRecords boxes) d = (.ok (), d') := written
    simp only [Files.writeBytes, Action.run, answer, Action.run_pure]
  have read := Disk.run_readBytes_of_follow found []
  simp only [StorageJob.DoneBy, StorageJob.after, stored, read, true_and]

end SceneBench
