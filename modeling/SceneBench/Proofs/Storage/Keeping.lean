import SceneBench.Proofs.Storage.Filling
import SceneBench.Proofs.Storage.Placing
import SceneBench.Storage.Files

/-!
# What is written is kept

A host keeps files if what was written under a path is found there again: its size is told as it
is, and reading delivers it from the beginning, though maybe in pieces, with interruptions, and not
to the end. Nothing is asked of the host but that: writing, asking and reading may still fail. A
complete reading of a file that is kept is then all that was written. Disks keep files.
-/

namespace SceneBench

/-! ## What reads deliver -/

namespace Stream

/-- All bytes that are listed as answers. -/
def bytes (s : Stream) : List UInt8 :=
  s.answers.flatMap fun
    | .bytes available => available
    | .failed _ => []

/-- Reading delivers nothing but the beginning of some content. -/
structure Gives (s : Stream) (content : List UInt8) : Prop where
  bounded : s.thereafter ≠ .zeros
  front : s.bytes <+: content

variable {s next : Stream} {content : List UInt8}

theorem gives_ofBytes (content : List UInt8) : (ofBytes content).Gives content :=
  ⟨nofun, by simp [bytes, ofBytes]⟩

theorem Gives.skipInterrupted (gives : s.Gives content) : s.skipInterrupted.Gives content := by
  obtain ⟨answers, thereafter⟩ := s
  refine ⟨gives.bounded, ?_⟩
  have front := gives.front
  induction answers with
  | nil => exact front
  | cons answer rest ih =>
      match answer with
      | .bytes available => exact front
      | .failed error =>
          by_cases interrupted : error.kind = .interrupted
          · have skipped : Stream.skipInterrupted ⟨.failed error :: rest, thereafter⟩ =
                Stream.skipInterrupted ⟨rest, thereafter⟩ := by
              simp [Stream.skipInterrupted, interrupted]
            rw [skipped]
            exact ih ⟨gives.bounded, front⟩ front
          · have stays : Stream.skipInterrupted ⟨.failed error :: rest, thereafter⟩ =
                ⟨.failed error :: rest, thereafter⟩ := by
              simp [Stream.skipInterrupted, interrupted]
            rw [stays]
            exact front

/-- One read takes its bytes off the content. -/
theorem Gives.read (gives : s.Gives content) {count : Nat} {delivered : List UInt8}
    (read : s.read count = (.ok delivered, next)) :
    delivered.length ≤ count ∧ ∃ rest, content = delivered ++ rest ∧ next.Gives rest := by
  obtain ⟨answers, thereafter⟩ := s
  obtain ⟨bounded, behind, split⟩ := gives
  match answers with
  | [] =>
      obtain ⟨answer, rfl⟩ := Prod.mk.inj read
      match thereafter with
      | .endOfFile =>
          cases answer
          exact ⟨Nat.zero_le _, content, rfl, bounded, List.nil_prefix⟩
      | .isDirectory => cases answer
      | .zeros => exact absurd rfl bounded
  | .failed error :: rest => cases read
  | .bytes available :: rest =>
      simp only [Stream.read] at read
      cases left : available.drop count with
      | nil =>
          rw [left] at read
          obtain ⟨answer, rfl⟩ := Prod.mk.inj read
          cases answer
          refine ⟨List.drop_eq_nil_iff.mp left, _, split.symm.trans ?_, bounded,
            List.prefix_append _ behind⟩
          exact List.append_assoc _ _ _
      | cons first further =>
          rw [left] at read
          obtain ⟨answer, rfl⟩ := Prod.mk.inj read
          cases answer
          refine ⟨List.length_take_le _ _,
            (first :: further) ++ (bytes ⟨rest, thereafter⟩ ++ behind), ?_, bounded, behind,
            List.append_assoc _ _ _⟩
          rw [← left, ← List.append_assoc, List.take_append_drop, ← List.append_assoc]
          exact split.symm

/-- A call that delivers something takes it off the content. -/
theorem Gives.readChunk (gives : s.Gives content) {room : Room} {report : ChunkResult}
    {written : List UInt8} (called : ChunkReader.readChunk s room = (report, written, next))
    (goes : report.early? = none) :
    ∃ rest, content = (room.overwrite written).take report.count ++ rest ∧ next.Gives rest := by
  replace called : Stream.readChunk s room = _ := called
  rw [Stream.readChunk] at called
  rcases one : s.skipInterrupted.read room.length with ⟨answer, after⟩
  rw [one] at called
  match answer with
  | .error error =>
      obtain ⟨rfl, -⟩ := Prod.mk.inj called
      cases goes
  | .ok delivered =>
      dsimp only at called
      split at called
      · obtain ⟨rfl, -⟩ := Prod.mk.inj called
        cases goes
      · obtain ⟨rfl, rfl, rfl⟩ : _ = report ∧ _ = written ∧ _ = next := by
          simpa only [Prod.mk.injEq] using called
        obtain ⟨fits, rest, split, further⟩ := gives.skipInterrupted.read one
        refine ⟨rest, ?_, further⟩
        rw [ChunkResult.count, Room.take_overwrite (List.prefix_refl delivered) fits]
        exact split

/-- Only the beginning of the content is ever read; by induction on the room that is left. -/
theorem Gives.fill_prefix (gives : s.Gives content) (room : Room) :
    (fill s room).bytes <+: content := by
  induction extent : room.length using Nat.strongRecOn generalizing s content room with
  | ind size ih =>
    by_cases none' : room.length = 0
    · rw [fill_of_length_eq_zero s none']
      exact List.nil_prefix
    · rcases called : ChunkReader.readChunk s room with ⟨report, written, next⟩
      cases ends : report.early? with
      | some early =>
          rw [fill_of_early none' called ends]
          exact List.nil_prefix
      | none =>
          obtain ⟨rest, rfl, further⟩ := gives.readChunk called ends
          rw [fill_of_progress none' called ends]
          exact (List.prefix_append_right_inj _).mpr
            (ih _ (extent ▸ length_drop_lt none' ends) further _ rfl)

end Stream

/-! ## Hosts -/

/-- A host keeps files: `holds` tells what is under a path as long as nothing is written there. -/
structure Host.Keeps {σ : Type} (host : Host σ) (holds : σ → Path → List UInt8 → Prop) :
    Prop where
  /-- What was written is there, if it is told to be a regular file. -/
  stored : ∀ {s s' asked file content size},
    host.replaceFile file content s = (.ok (), s') →
      host.inspect file s' = (.ok ⟨.regular, size⟩, asked) → holds s' file content
  /-- It has the size that is told. -/
  inspected : ∀ {s s' file content size}, holds s file content →
    host.inspect file s = (.ok ⟨.regular, size⟩, s') → size = content.length ∧ holds s' file content
  /-- It is what reading delivers. -/
  opened : ∀ {s s' file content stream}, holds s file content →
    host.openFile file s = (.ok stream, s') → stream.Gives content ∧ holds s' file content

namespace Disk

/-- A path leads to a file with such content. -/
def Holds (d : Disk) (p : Path) (content : List UInt8) : Prop :=
  ∃ a, d.follow .visit p = .ok (.leaf a (.file content))

/-- Content that was written without an error is where its path leads, unless a device took it. -/
theorem keeps : host.Keeps Holds where
  stored {d d' asked p content size} written regular := by
    replace written : d.replaceFile p content = (.ok (), d') := written
    replace regular : (d'.inspect p, d') = _ := regular
    obtain ⟨a, found⟩ | ⟨a, device, found⟩ := follow_of_replaceFile written
    · exact ⟨a, found⟩
    · rw [inspect, found] at regular
      cases regular
  inspected {d d' p content size} holds told := by
    obtain ⟨a, found⟩ := holds
    replace told : (d.inspect p, d) = _ := told
    rw [inspect, found] at told
    cases told
    exact ⟨rfl, a, found⟩
  opened {d d' p content stream} holds opened := by
    obtain ⟨a, found⟩ := holds
    replace opened : (d.openFile p, d) = _ := opened
    rw [openFile, found] at opened
    cases opened
    exact ⟨Stream.gives_ofBytes content, a, found⟩

end Disk

end SceneBench
