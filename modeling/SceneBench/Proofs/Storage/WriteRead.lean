import SceneBench.Proofs.Storage.Carrying
import SceneBench.Proofs.Storage.EncodedText
import SceneBench.Proofs.Storage.Standing

/-!
# What is written is what is read

What was written to a file is its content from then on, whatever the file held before, and nothing
else on the disk has changed. Both ways to read come to it, bytes as they are and text decoded; so
text, which is encoded when it is written, comes back as it was. Where there is no file the readers
have nothing to give, and what could not be opened for writing is left as it was.
-/

namespace SceneBench.Disk

variable {host : Host Disk} {d : Disk} {p : Path} {content : List UInt8}

/-- What is written whole under a path of a disk is read whole there. -/
structure FilesWhole (host : Host Disk) (d : Disk) (p : Path) : Prop where
  /-- Bytes that were written to a file are read back, and are all that changed on the disk. -/
  stored : ∀ {content log w}, (Files.writeBytes p content).run host ⟨d, log⟩ = (.ok (), w) →
    w.state.Regular p →
      (Files.readBytes p).run host w = (.ok ⟨content, .complete⟩, w) ∧
        w.state.here = d.here ∧ ∃ a, w.state.follow .visit p = .ok (.leaf a (.file content)) ∧
          w.state.get? a = some (.leaf (.file content)) ∧
          ∀ b, b ≠ a → w.state.get? b = d.get? b
  /-- What cannot be opened is left as it was, with everything else. -/
  unopened : ∀ {content log w e}, (Files.writeBytes p content).run host ⟨d, log⟩ =
    (.error (.opening p e), w) → w.state = d
  /-- Text that was written to a file is read back. -/
  text : ∀ {text log w}, (Files.writeText p text).run host ⟨d, log⟩ = (.ok (), w) →
    w.state.Regular p → (Files.readText p).run host w = (text, w)
  /-- The text of a file is what its bytes say when they are decoded. -/
  agree : d.Regular p → ∃ a content, d.follow .visit p = .ok (.leaf a (.file content)) ∧ ∀ log,
    (Files.readBytes p).run host ⟨d, log⟩ = (.ok ⟨content, .complete⟩, ⟨d, log⟩) ∧
      (Files.readText p).run host ⟨d, log⟩ = (Utf8.decodeLossy content, ⟨d, log⟩)
  /-- What is missing, or is a directory, has no text and no size. -/
  noFile : (∃ e, d.inspect p = .error e) ∨ (∃ size, d.inspect p = .ok ⟨.directory, size⟩) →
    ∀ log, ((Files.readText p).run host ⟨d, log⟩).1 = "" ∧
      ∃ e, ((Files.readBytes p).run host ⟨d, log⟩).1 = .error (.sizeQuery p e)
  /-- Reading changes nothing. -/
  unchanged : ∀ log, ((Files.readText p).run host ⟨d, log⟩).2.state = d ∧
    ((Files.readBytes p).run host ⟨d, log⟩).2.state = d

/-- Writing whole content is one replacement. -/
theorem ServedBy.run_writeBytes (served : ServedBy host) (p : Path) (content : List UInt8)
    (w : World Disk) :
    (Files.writeBytes p content).run host w =
      ((w.state.replaceFile p content).1.mapError
        (fun | .opening e => .opening p e | .writing e => .writing p e),
      { w with state := (w.state.replaceFile p content).2 }) := by
  rw [Files.writeBytes, Action.run, served.replaceFile]
  rcases w.state.replaceFile p content with ⟨answer, d'⟩
  cases answer with
  | error fault => cases fault <;> rfl
  | ok _ => rfl

/-- Content that a file has taken is at its address, and nothing else changed. -/
theorem Standing.stored (standing : d.Standing) {d' : Disk}
    (written : d.replaceFile p content = (.ok (), d')) (regular : d'.Regular p) :
    d'.here = d.here ∧ ∃ a, d'.follow .visit p = .ok (.leaf a (.file content)) ∧
      d'.get? a = some (.leaf (.file content)) ∧ ∀ b, b ≠ a → d'.get? b = d.get? b := by
  obtain ⟨arrival, followed, ⟨a, target, rfl⟩ | ⟨rfl, a, device, rfl⟩⟩ :=
    exists_of_replaceFile written
  · obtain ⟨proper, leads⟩ := leads_of_follow (by decide) followed
    have stands := leads.stands (standing.start p)
    refine ⟨rfl, a, (leads.put target).follow_eq proper, ?_, fun b other => ?_⟩
    · rw [stands.get?_put target rfl, if_pos rfl]
      rfl
    · rw [stands.get?_put target rfl, if_neg other]
  · obtain ⟨proper, leads⟩ := leads_of_follow (by decide) followed
    exact absurd regular (not_regular_of_device (leads.follow_eq proper))

/-- Whatever a host's way to deliver files, what is written under a path is what is read there. -/
theorem files_whole (served : ServedBy host) (standing : d.Standing) (p : Path) :
    FilesWhole host d p where
  stored {content log w} written regular := by
    obtain ⟨d', log'⟩ := w
    rw [served.run_writeBytes] at written
    rcases replaced : d.replaceFile p content with ⟨answer, d''⟩
    rw [replaced] at written
    cases answer with
    | error fault => cases written
    | ok _ =>
        cases written
        obtain ⟨here, a, found, kept, others⟩ := standing.stored replaced regular
        exact ⟨served.run_readBytes found _, here, a, found, kept, others⟩
  unopened {content log w e} failed := by
    rw [served.run_writeBytes] at failed
    rcases replaced : d.replaceFile p content with ⟨answer, d''⟩
    rw [replaced] at failed
    cases answer with
    | error fault =>
        obtain ⟨-, rfl⟩ := Prod.mk.inj failed
        exact eq_of_replaceFile replaced
    | ok _ => cases failed
  text {text log w} written regular := by
    obtain ⟨d', log'⟩ := w
    rw [Files.writeText, served.run_writeBytes] at written
    rcases replaced : d.replaceFile p (Utf8.encode text) with ⟨answer, d''⟩
    rw [replaced] at written
    cases answer with
    | error fault => cases written
    | ok _ =>
        cases written
        obtain ⟨-, a, found, -⟩ := standing.stored replaced regular
        rw [served.run_readText found, Utf8.decodeLossy_encode]
  agree regular := by
    obtain ⟨a, content, found⟩ := exists_of_regular regular
    refine ⟨a, content, found, fun log => ?_⟩
    exact ⟨served.run_readBytes found log, served.run_readText found log⟩
  noFile other log := by
    refine ⟨served.readText_of_not_file other log, served.readBytes_of_not_regular ?_ log⟩
    rintro ⟨size, regular⟩
    rcases other with ⟨e, told⟩ | ⟨size, told⟩ <;> cases told.symm.trans regular
  unchanged log := by
    have looks (q : Question) (d' : Disk) (look : q.IsLook) (same : d' = d) :
        host.after d' q = d := (served.after_look q d' look).trans same
    exact ⟨(Files.asks_readText p).state_run looks rfl,
      (Files.asks_readBytes p).state_run looks rfl⟩

/-- A host of a disk that is interrupted before every read, and delivers one byte at a time. -/
def haltingHost : Host Disk where
  inspect := Disk.host.inspect
  makeDirectory := Disk.host.makeDirectory
  removeTree := Disk.host.removeTree
  replaceFile := Disk.host.replaceFile
  openFile p d :=
    match d.follow .visit p with
    | .ok (.leaf _ (.file content)) =>
      (.ok ⟨content.flatMap fun byte => [.failed ⟨.interrupted, ""⟩, .bytes [byte]], .endOfFile⟩, d)
    | _ => (d.openFile p, d)
  currentDirectory := Disk.host.currentDirectory
  changeDirectory := Disk.host.changeDirectory

theorem servedBy_haltingHost : ServedBy haltingHost where
  inspect _ _ := rfl
  replaceFile _ _ _ := rfl
  openFile {p d a content} found := by
    have opened : haltingHost.openFile p d =
        (.ok ⟨content.flatMap fun byte => [.failed ⟨.interrupted, ""⟩, .bytes [byte]],
          .endOfFile⟩, d) := by
      simp only [haltingHost, found]
    refine ⟨_, opened, ?_⟩
    clear found opened
    induction content with
    | nil => exact .ended
    | cons byte rest ih => exact .interrupted rfl (.piece (List.cons_ne_nil byte []) ih)
  openOther {p d} other := by
    simp only [haltingHost]

/-- A disk with a file that a link leads to. -/
def linked : Disk where
  root := [("new", .directory [("notes", .leaf (.link ⟨"../old"⟩))]),
    ("old", .leaf (.file [78, 79, 84, 69, 83]))]
  here := ⟨["new"], []⟩

/-- Text is written over a longer file through a link, and comes back byte by byte. -/
theorem files_whole_linked :
    ServedBy haltingHost ∧ linked.Standing ∧ FilesWhole haltingHost linked ⟨"notes"⟩ ∧
      ∃ w, (Files.writeText ⟨"notes"⟩ "né").run haltingHost ⟨linked, []⟩ = (.ok (), w) ∧
        (Files.readText ⟨"notes"⟩).run haltingHost w = ("né", w) ∧
        w.state.get? ["old"] = some (.leaf (.file [110, 195, 169])) := by
  have standing : linked.Standing := by rfl
  have whole : FilesWhole haltingHost linked ⟨"notes"⟩ :=
    files_whole servedBy_haltingHost standing ⟨"notes"⟩
  have bytes : Utf8.encode "né" = [110, 195, 169] := by
    rw [Utf8.encode_eq]
    rfl
  have replaced : linked.replaceFile ⟨"notes"⟩ [110, 195, 169] =
      (.ok (), linked.put ["old"] (.leaf (.file [110, 195, 169]))) := by
    rfl
  have written : (Files.writeText ⟨"notes"⟩ "né").run haltingHost ⟨linked, []⟩ =
      (.ok (), ⟨linked.put ["old"] (.leaf (.file [110, 195, 169])), []⟩) := by
    rw [Files.writeText, bytes, servedBy_haltingHost.run_writeBytes, replaced]
    rfl
  exact ⟨servedBy_haltingHost, standing, whole, _, written, whole.text written ⟨3, by rfl⟩, by rfl⟩

end SceneBench.Disk
