import SceneBench.Proofs.Storage.Asking
import SceneBench.Proofs.Storage.ReadingLoop
import SceneBench.Storage.Disk.Host
import SceneBench.Storage.Files

/-!
# Two ways to read a file

Bytes are read by a loop into room of the size that was told, text by reading to the end of the
file. If the file delivers its content at all, in pieces of any size and with any interruptions,
both come to all of it. So on a host that answers for a disk they agree about every file; and where
there is none, they say so and look no further.
-/

namespace SceneBench

/-! ## Two ways to read -/

/-- Readers that answer alike deliver alike. -/
theorem Delivers.congr {ρ : Type} [ChunkReader ρ] {reader reader' : ρ} {data : List UInt8}
    (delivers : Delivers reader data)
    (same : ∀ room, ChunkReader.readChunk reader' room = ChunkReader.readChunk reader room) :
    Delivers reader' data := by
  cases delivers with
  | ended ends =>
      apply Delivers.ended
      intro room room'
      rw [same, ends room room']
  | next piece rest delivers further =>
      apply Delivers.next piece rest
      · intro room room'
        rw [same]
        exact delivers room room'
      · intro room room'
        rw [same]
        exact further room room'

namespace Stream

/-- Reading delivers all of some content and then comes to the end of the file, in pieces of any
size and with any interruptions. -/
inductive Carries : Stream → List UInt8 → Prop
  | ended : Carries ⟨[], .endOfFile⟩ []
  | nothing {answers : List ReadAnswer} {thereafter : StreamEnd} :
      Carries ⟨.bytes [] :: answers, thereafter⟩ []
  | interrupted {error : OsError} {answers : List ReadAnswer} {thereafter : StreamEnd}
      {content : List UInt8} (again : error.kind = .interrupted)
      (further : Carries ⟨answers, thereafter⟩ content) :
      Carries ⟨.failed error :: answers, thereafter⟩ content
  | piece {available : List UInt8} {answers : List ReadAnswer} {thereafter : StreamEnd}
      {content : List UInt8} (some' : available ≠ [])
      (further : Carries ⟨answers, thereafter⟩ content) :
      Carries ⟨.bytes available :: answers, thereafter⟩ (available ++ content)

variable {s : Stream} {content : List UInt8}

theorem carries_ofBytes (content : List UInt8) : (ofBytes content).Carries content := by
  cases content with
  | nil => exact .nothing
  | cons byte rest =>
      have whole := Carries.piece (List.cons_ne_nil byte rest) .ended
      rwa [List.append_nil] at whole

/-- An interruption is not noticed by who reads. -/
theorem readChunk_interrupted {error : OsError} (again : error.kind = .interrupted)
    (answers : List ReadAnswer) (thereafter : StreamEnd) (room : Room) :
    readChunk ⟨.failed error :: answers, thereafter⟩ room =
      readChunk ⟨answers, thereafter⟩ room := by
  simp [readChunk, skipInterrupted, again]

/-- The loop is delivered all of the content. -/
theorem Carries.delivers (carries : s.Carries content) : Delivers s content := by
  induction carries with
  | ended => exact delivers_nil
  | @nothing answers thereafter =>
      apply Delivers.ended
      intro room room'
      have nothing :
          (Stream.mk (.bytes [] :: answers) thereafter).skipInterrupted.read room.length =
          (.ok [], ⟨answers, thereafter⟩) := by
        simp [skipInterrupted, read]
      show (readChunk _ room).1 = _
      rw [readChunk, nothing]
      simp [room']
  | interrupted again further ih => exact ih.congr (readChunk_interrupted again _ _)
  | piece some' further ih => exact delivers_cons some' ih

/-- In room of its size the loop reads all of the content. -/
theorem Carries.readUpTo_eq (carries : s.Carries content) :
    ∃ t, readUpTo s content.length = ⟨content, none, t⟩ := by
  obtain ⟨bytes, early⟩ := carries.delivers.fill (.blank content.length)
  rcases filled : readUpTo s content.length with ⟨taken, ending, t⟩
  rw [readUpTo] at filled
  rw [filled, Room.length_blank] at bytes early
  rw [List.take_length] at bytes
  rw [if_pos (Nat.le_refl _)] at early
  dsimp only at bytes early
  exact ⟨t, by rw [bytes, early]⟩

/-- Reading as a whole comes to the same; what was delivered before is kept. -/
theorem Carries.collect (carries : s.Carries content) {t : Stream}
    (same : t.thereafter = s.thereafter) (before : List UInt8) :
    readWhole.collect t before s.answers = .ok (before ++ content) := by
  induction carries generalizing before with
  | ended =>
      rw [readWhole.collect, same]
      simp
  | nothing =>
      rw [readWhole.collect]
      simp
  | interrupted again further ih =>
      rw [readWhole.collect, if_pos again]
      exact ih same before
  | piece some' further ih =>
      rw [readWhole.collect, if_neg (by simpa using some'), ih same, List.append_assoc]

theorem Carries.readWhole (carries : s.Carries content) : s.readWhole = .ok content :=
  carries.collect rfl []

end Stream

namespace Disk

variable {host : Host Disk} {d : Disk} {p : Path} {content : List UInt8} {log : List Notice}

/-! ## Hosts of a disk -/

/-- A host whose state is a disk and that answers as the disk does, except that it delivers the
content of a file in its own way. -/
structure ServedBy (host : Host Disk) : Prop where
  inspect : ∀ p d, host.inspect p d = (d.inspect p, d)
  replaceFile : ∀ p content d, host.replaceFile p content d = d.replaceFile p content
  openFile : ∀ {p d a content}, d.follow .visit p = .ok (.leaf a (.file content)) →
    ∃ s, host.openFile p d = (.ok s, d) ∧ s.Carries content
  openOther : ∀ {p d}, (∀ a content, d.follow .visit p ≠ .ok (.leaf a (.file content))) →
    host.openFile p d = (d.openFile p, d)

theorem servedBy_host : ServedBy Disk.host where
  inspect _ _ := rfl
  replaceFile _ _ _ := rfl
  openFile {p d a content} found := by
    refine ⟨.ofBytes content, ?_, Stream.carries_ofBytes content⟩
    show (d.openFile p, d) = _
    rw [Disk.openFile, found]
  openOther _ := rfl

/-- A path leads to a regular file. -/
def Regular (d : Disk) (p : Path) : Prop := ∃ size, d.inspect p = .ok ⟨.regular, size⟩

theorem exists_of_regular (regular : d.Regular p) :
    ∃ a content, d.follow .visit p = .ok (.leaf a (.file content)) := by
  obtain ⟨size, told⟩ := regular
  rw [inspect] at told
  split at told
  · cases told
  · cases told
  · next a content found => exact ⟨a, content, found⟩
  · cases told
  · cases told

theorem not_regular_of_device {a : Address} {device : Device}
    (found : d.follow .visit p = .ok (.leaf a (.device device))) : ¬ d.Regular p := by
  intro regular
  obtain ⟨a', content, file⟩ := exists_of_regular regular
  cases found.symm.trans file

namespace ServedBy

/-! ## Reading a file -/

/-- The loop reads a file to its end. -/
theorem run_readBytes (served : ServedBy host) {a : Address}
    (found : d.follow .visit p = .ok (.leaf a (.file content))) (log : List Notice) :
    (Files.readBytes p).run host ⟨d, log⟩ = (.ok ⟨content, .complete⟩, ⟨d, log⟩) := by
  obtain ⟨s, opened, carries⟩ := served.openFile found
  obtain ⟨t, filled⟩ := carries.readUpTo_eq
  have told : host.inspect p d = (.ok ⟨.regular, content.length⟩, d) := by
    rw [served.inspect, Disk.inspect, found]
  have read (w : World Disk) : (Files.readStream s content.length).run host w =
      (⟨content, .complete⟩, w) := by
    rw [Files.readStream, filled]
    rfl
  simp only [Files.readBytes, Files.size, Action.run_bind, Action.run, told, if_true,
    Action.run_pure, opened, read]
  rfl

/-- Read as text, a file is its content decoded. -/
theorem run_readText (served : ServedBy host) {a : Address}
    (found : d.follow .visit p = .ok (.leaf a (.file content))) (log : List Notice) :
    (Files.readText p).run host ⟨d, log⟩ = (Utf8.decodeLossy content, ⟨d, log⟩) := by
  obtain ⟨s, opened, carries⟩ := served.openFile found
  have whole : (Except.ok s >>= Stream.readWhole) = .ok content := carries.readWhole
  simp only [Files.readText, Action.run, opened, whole, Action.run_pure]

/-! ## Where there is no file -/

/-- Where there is nothing, or a directory, there is no text. -/
theorem readText_of_not_file (served : ServedBy host)
    (other : (∃ e, d.inspect p = .error e) ∨ ∃ size, d.inspect p = .ok ⟨.directory, size⟩)
    (log : List Notice) : ((Files.readText p).run host ⟨d, log⟩).1 = "" := by
  have plain (a : Address) (content : List UInt8) :
      d.follow .visit p ≠ .ok (.leaf a (.file content)) := by
    intro found
    rw [Disk.inspect, found] at other
    rcases other with ⟨e, told⟩ | ⟨size, told⟩ <;> cases told
  have silent : ∃ e, (d.openFile p >>= Stream.readWhole) = .error e := by
    rw [Disk.openFile]
    rw [Disk.inspect] at other
    match followed : d.follow .visit p with
    | .error e => exact ⟨e, rfl⟩
    | .ok (.directory q) => exact ⟨.isADirectory, rfl⟩
    | .ok (.leaf a (.file content)) => exact absurd followed (plain a content)
    | .ok (.leaf a (.link goal)) | .ok (.leaf a (.device device)) =>
        rw [followed] at other
        rcases other with ⟨e, told⟩ | ⟨size, told⟩ <;> cases told
    | .ok (.missing q name) => exact ⟨.notFound, rfl⟩
  obtain ⟨e, failed⟩ := silent
  simp only [Files.readText, Action.run, served.openOther plain, failed]
  rfl

/-- Where there is no regular file, there is no size to read up to. -/
theorem readBytes_of_not_regular (served : ServedBy host) (other : ¬ d.Regular p)
    (log : List Notice) :
    ∃ e, ((Files.readBytes p).run host ⟨d, log⟩).1 = .error (.sizeQuery p e) := by
  have size : ∃ e, (Files.size p).run host ⟨d, log⟩ = (.error e, ⟨d, log⟩) := by
    simp only [Files.size, Action.run, served.inspect]
    match told : d.inspect p with
    | .error e => exact ⟨e, rfl⟩
    | .ok ⟨.regular, size⟩ => exact absurd ⟨size, told⟩ other
    | .ok ⟨.directory, _⟩ | .ok ⟨.other, _⟩ => exact ⟨.notARegularFile p, rfl⟩
  obtain ⟨e, failed⟩ := size
  refine ⟨e, ?_⟩
  rw [Files.readBytes, Action.run_bind, failed]
  rfl

/-! ## Readers only look -/

/-- No look changes the disk. -/
theorem after_look (served : ServedBy host) (q : Question) (d : Disk) (look : q.IsLook) :
    host.after d q = d := by
  cases q with
  | inspect p => exact congrArg Prod.snd (served.inspect p d)
  | openFile p =>
      by_cases file : ∃ a content, d.follow .visit p = .ok (.leaf a (.file content))
      · obtain ⟨a, content, found⟩ := file
        obtain ⟨s, opened, -⟩ := served.openFile found
        exact congrArg Prod.snd opened
      · exact congrArg Prod.snd (served.openOther fun a content found => file ⟨a, content, found⟩)
  | makeDirectory | removeTree | replaceFile | currentDirectory | changeDirectory =>
      exact absurd look id

end ServedBy

end Disk

namespace Files

theorem asks_readText (p : Path) : (readText p).OnlyAsks Question.IsLook := by
  refine ⟨trivial, fun opened => ?_⟩
  dsimp only
  split <;> trivial

theorem asks_size (p : Path) : (size p).OnlyAsks Question.IsLook := by
  refine ⟨trivial, fun told => ?_⟩
  cases told <;> trivial

theorem asks_readBytes (p : Path) : (readBytes p).OnlyAsks Question.IsLook := by
  apply (asks_size p).bind
  intro told _
  cases told with
  | error e => trivial
  | ok expected =>
      refine ⟨trivial, fun opened => ?_⟩
      cases opened with
      | error e => trivial
      | ok s =>
          have reads : (readStream s expected).OnlyAsks Question.IsLook :=
            (Action.onlyAsks_sayAll _).bind fun _ _ => Action.onlyAsks_pure _
          apply reads.bind
          intro reading _
          split <;> trivial

end Files

end SceneBench
