import SceneBench.Proofs.Storage.Keeping
import SceneBench.Proofs.Storage.ReadingLoop

/-!
# Interrupted reads

Two loops take the answers of the operating system to the reads of an open file: one tries a read
that was interrupted again, and the other one reads on until it has what it wants. Together they
come to what the answers would without the interruptions. That is said here by what the answers
yield, whoever reads and however much at a time: the bytes up to the first answer after which there
are no more, and what this answer was. Neither a stall nor an interruption is among them.
-/

namespace SceneBench

/-- The answer to a read that is tried again. -/
def ReadAnswer.isInterrupted : ReadAnswer → Bool
  | .failed error => decide (error.kind = .interrupted)
  | .bytes _ => false

@[simp] theorem ReadAnswer.isInterrupted_failed (error : OsError) :
    (failed error).isInterrupted = decide (error.kind = .interrupted) := rfl

@[simp] theorem ReadAnswer.isInterrupted_bytes (available : List UInt8) :
    (bytes available).isInterrupted = false := rfl

namespace Stream

variable {s next : Stream} {answers earlier later : List ReadAnswer} {thereafter : StreamEnd}
  {wanted expected : Nat} {room : Room}

/-- The stream whose reads are never interrupted. -/
def undisturbed (s : Stream) : Stream :=
  { s with answers := s.answers.filter fun answer => !answer.isInterrupted }

theorem skipInterrupted_eq (s : Stream) :
    s.skipInterrupted = { s with answers := s.answers.dropWhile ReadAnswer.isInterrupted } := rfl

/-- A call of an open file reads until it is not interrupted. -/
theorem readChunk_eq (s : Stream) (room : Room) :
    s.readChunk room =
      match s.read room.length with
      | (.error error, next) =>
        if error.kind = .interrupted then next.readChunk room else (.failed error, [], next)
      | (.ok bytes, next) =>
        if bytes.isEmpty && room.length ≠ 0 then (.endOfFile, [], next)
        else (.delivered bytes.length, bytes, next) := by
  obtain ⟨answers, thereafter⟩ := s
  match answers with
  | [] =>
      match thereafter with
      | .endOfFile => rfl
      | .isDirectory => rfl
      | .zeros => rfl
  | .bytes available :: rest =>
      have skipped : skipInterrupted ⟨.bytes available :: rest, thereafter⟩ =
          ⟨.bytes available :: rest, thereafter⟩ := rfl
      rw [readChunk, skipped]
      cases left : available.drop room.length <;> simp only [read, left]
  | .failed error :: rest =>
      by_cases again : error.kind = .interrupted
      · simp [readChunk, skipInterrupted_eq, read, again]
      · simp [readChunk, skipInterrupted_eq, read, again]

/-! ## What the answers yield -/

/-- The bytes that can be had, and why there are no more. -/
structure Yield where
  bytes : List UInt8
  ends : EarlyEnd

/-- What answers yield to one who wants no more than so many bytes. -/
def yield (thereafter : StreamEnd) (wanted : Nat) : List ReadAnswer → Yield
  | [] =>
    match thereafter with
    | .endOfFile => ⟨[], .endOfFile⟩
    | .isDirectory => ⟨[], .failed .isADirectory⟩
    | .zeros => ⟨List.replicate wanted 0, .endOfFile⟩
  | .failed error :: rest =>
    if error.kind = .interrupted then yield thereafter wanted rest else ⟨[], .failed error⟩
  | .bytes available :: rest =>
    if available.isEmpty then ⟨[], .endOfFile⟩
    else
      let further := yield thereafter wanted rest
      { further with bytes := available ++ further.bytes }

theorem yield_filter (answers : List ReadAnswer) :
    yield thereafter wanted (answers.filter fun answer => !answer.isInterrupted) =
      yield thereafter wanted answers := by
  induction answers with
  | nil => rfl
  | cons answer rest ih =>
      match answer with
      | .bytes available => simp [yield, ih]
      | .failed error =>
          by_cases again : error.kind = .interrupted
          · simp [yield, again, ih]
          · simp [yield, again]

/-- Nothing ends in a stall, and nothing in an interruption. -/
theorem ending_ends_yield (thereafter : StreamEnd) (wanted : Nat) (answers : List ReadAnswer) :
    (yield thereafter wanted answers).ends.ending ≠ .stalled ∧
      (yield thereafter wanted answers).ends.ending ≠ .failed .interrupted := by
  induction answers with
  | nil => cases thereafter <;> exact ⟨nofun, nofun⟩
  | cons answer rest ih =>
      match answer with
      | .bytes available =>
          rw [yield]
          split
          · exact ⟨nofun, nofun⟩
          · exact ih
      | .failed error =>
          rw [yield]
          split
          · exact ih
          · next other => exact ⟨nofun, fun same => other (ReadEnd.failed.inj same)⟩

/-- Answers that all deliver something, if they are not interruptions, are followed by what is
yielded after them. -/
theorem yield_append (goOn : ∀ answer ∈ earlier, answer.isInterrupted = true ∨
      ∃ available, available ≠ [] ∧ answer = .bytes available) (later : List ReadAnswer) :
    yield thereafter wanted (earlier ++ later) =
      let further := yield thereafter wanted later
      { further with bytes := bytes ⟨earlier, thereafter⟩ ++ further.bytes } := by
  induction earlier with
  | nil => rfl
  | cons answer rest ih =>
      obtain ⟨first, others⟩ := List.forall_mem_cons.mp goOn
      match answer with
      | .failed error =>
          have again : error.kind = .interrupted := by simpa using first
          rw [List.cons_append, yield, if_pos again, ih others]
          rfl
      | .bytes available =>
          have some' : ¬ available.isEmpty = true := by
            simpa using first
          rw [List.cons_append, yield, if_neg some', ih others]
          simp [bytes]

/-- What a stream yields to one who wants no more than so many bytes. -/
def yields (s : Stream) (wanted : Nat) : Yield := yield s.thereafter wanted s.answers

theorem yields_undisturbed (s : Stream) (wanted : Nat) :
    s.undisturbed.yields wanted = s.yields wanted :=
  yield_filter s.answers

theorem yields_resume (piece : List UInt8) (answers : List ReadAnswer) (thereafter : StreamEnd)
    (wanted : Nat) :
    yields ⟨resume piece answers, thereafter⟩ wanted =
      let further := yields ⟨answers, thereafter⟩ wanted
      { further with bytes := piece ++ further.bytes } := by
  match piece with
  | [] => rfl
  | _ :: _ => rfl

/-- A call either tells that there is nothing, or delivers the first of what is yielded; by
induction on the answers, as far as they are interruptions. -/
theorem readChunk_cases (s : Stream) (room' : room.length ≠ 0) (fits : room.length ≤ wanted) :
    (∃ early report next, s.yields wanted = ⟨[], early⟩ ∧ s.readChunk room = (report, [], next) ∧
        report.early? = some early) ∨
      ∃ piece next, piece ≠ [] ∧ piece.length ≤ room.length ∧
        s.readChunk room = (.delivered piece.length, piece, next) ∧
        (next.yields wanted).ends = (s.yields wanted).ends ∧
        (s.yields wanted).bytes.take room.length =
          piece ++ (next.yields wanted).bytes.take (room.length - piece.length) ∧
        (room.length ≤ (s.yields wanted).bytes.length ↔
          room.length - piece.length ≤ (next.yields wanted).bytes.length) := by
  obtain ⟨answers, thereafter⟩ := s
  induction answers with
  | nil =>
      cases thereafter with
      | endOfFile =>
          refine .inl ⟨.endOfFile, .endOfFile, ⟨[], .endOfFile⟩, rfl, ?_, rfl⟩
          simp [readChunk_eq, read, StreamEnd.read, room']
      | isDirectory => exact .inl ⟨_, _, _, rfl, rfl, rfl⟩
      | zeros =>
          refine .inr ⟨List.replicate room.length 0, ⟨[], .zeros⟩, by simpa using room',
            by simp, ?_, rfl, ?_, ?_⟩
          · simp [readChunk_eq, read, StreamEnd.read, room']
          · simp [yields, yield, fits]
          · simp [yields, yield, fits]
  | cons answer rest ih =>
      cases answer with
      | failed error =>
          by_cases again : error.kind = .interrupted
          · have retried : readChunk ⟨.failed error :: rest, thereafter⟩ room =
                readChunk ⟨rest, thereafter⟩ room := by
              rw [readChunk_eq]
              simp [read, again]
            have same : yields ⟨.failed error :: rest, thereafter⟩ wanted =
                yields ⟨rest, thereafter⟩ wanted := by
              simp [yields, yield, again]
            rw [retried, same]
            exact ih
          · refine .inl ⟨.failed error, .failed error, ⟨rest, thereafter⟩, ?_, ?_, rfl⟩
            · simp [yields, yield, again]
            · simp [readChunk_eq, read, again]
      | bytes available =>
          by_cases nothing : available = []
          · refine .inl ⟨.endOfFile, .endOfFile, ⟨rest, thereafter⟩, ?_, ?_, rfl⟩
            · simp [yields, yield, nothing]
            · simp [readChunk_eq, read, nothing, room']
          · have called := readChunk_bytes nothing rest thereafter room'
            have here : yields ⟨.bytes available :: rest, thereafter⟩ wanted =
                let further := yields ⟨rest, thereafter⟩ wanted
                { further with bytes := available ++ further.bytes } := by
              simp [yields, yield, nothing]
            have split (data : List UInt8) : available ++ data =
                available.take room.length ++ (available.drop room.length ++ data) := by
              rw [← List.append_assoc, List.take_append_drop]
            refine .inr ⟨_, _, ?_, List.length_take_le .., called, ?_, ?_, ?_⟩
            · rw [ne_eq, List.take_eq_nil_iff]
              exact not_or.mpr ⟨room', nothing⟩
            · rw [yields_resume, here]
            · rw [yields_resume, here]
              dsimp only
              rw [split, List.take_append, List.take_of_length_le (List.length_take_le ..)]
            · rw [yields_resume, here]
              simp only [List.length_append, List.length_take, List.length_drop]
              omega

/-- As much of what is yielded is read as there is room for; by induction on the room. -/
theorem fill_eq_yields (s : Stream) (room : Room) (fits : room.length ≤ wanted) :
    (fill s room).bytes = (s.yields wanted).bytes.take room.length ∧
      (fill s room).early =
        if room.length ≤ (s.yields wanted).bytes.length then none
        else some (s.yields wanted).ends := by
  induction extent : room.length using Nat.strongRecOn generalizing s room with
  | ind size ih =>
    subst extent
    by_cases none' : room.length = 0
    · rw [fill_of_length_eq_zero s none', none']
      exact ⟨List.take_zero.symm, rfl⟩
    · rcases readChunk_cases s none' fits with ⟨early, report, next, nothing, called, ends⟩ |
        ⟨piece, next, some', inside, called, same, bytes, reach⟩
      · rw [fill_of_early none' called ends, nothing, if_neg (by simpa using none')]
        exact ⟨List.take_nil.symm, rfl⟩
      · have goes : (ChunkResult.delivered piece.length).early? = none := by
          match length : piece.length, List.length_pos_iff.mpr some' with
          | n + 1, _ => rfl
        have left : ((room.overwrite piece).drop piece.length).length =
            room.length - piece.length := by
          rw [Room.length_drop, Room.length_overwrite]
        have less := List.length_pos_iff.mpr some'
        obtain ⟨bytes', early'⟩ := ih (room.length - piece.length) (by omega) next
          ((room.overwrite piece).drop piece.length) (by omega) left
        rw [fill_of_progress none' called goes]
        dsimp only [ChunkResult.count]
        rw [bytes', early', Room.take_overwrite (List.prefix_refl piece) inside, same, bytes]
        simp only [reach, and_self]

/-- The answers of a file that deliver bytes up to here, and after which there are none. -/
structure EndsAfter (s : Stream) (earlier : List ReadAnswer) : Prop where
  goOn : ∀ answer ∈ earlier, answer.isInterrupted = true ∨
    ∃ available, available ≠ [] ∧ answer = .bytes available
  nothing : (∃ later, s.answers = earlier ++ .bytes [] :: later) ∨
    s.answers = earlier ∧ s.thereafter = .endOfFile

/-- Where a file ends that is what was delivered before. -/
theorem EndsAfter.yields_eq (ends : s.EndsAfter earlier) (wanted : Nat) :
    s.yields wanted = ⟨bytes ⟨earlier, .endOfFile⟩, .endOfFile⟩ := by
  obtain ⟨answers, thereafter⟩ := s
  obtain ⟨goOn, ⟨later, rfl⟩ | ⟨rfl, rfl⟩⟩ := ends
  · rw [yields, yield_append goOn]
    simp [yield, bytes]
  · rw [yields, ← List.append_nil answers, yield_append goOn]
    simp [yield]

/-- The reading that comes of what is yielded. -/
theorem reading_eq (s : Stream) (expected : Nat) :
    (readUpTo s expected).reading =
      let all := s.yields expected
      ⟨all.bytes.take expected,
        if expected ≤ all.bytes.length then .complete else all.ends.ending⟩ := by
  obtain ⟨bytes, early⟩ := s.fill_eq_yields (.blank expected)
    (Nat.le_of_eq (Room.length_blank expected))
  rw [Room.length_blank] at bytes early
  rw [Filled.reading_eq, readUpTo, bytes, early]
  dsimp only
  split <;> rfl

end Stream

/-- Reading an open file comes to what its answers yield, and this is the same without the
interruptions. It never stalls and does not fail for an interruption; a read of nothing is the end
of the file, for the call that makes it and for the reading. So a reading is well if and only if it
is complete, and then all bytes that were expected are there. -/
theorem readUpTo_undisturbed (s : Stream) (expected : Nat) :
    let reading := (readUpTo s expected).reading
    let all := s.yields expected
    reading = (readUpTo s.undisturbed expected).reading ∧
      reading = ⟨all.bytes.take expected,
        if expected ≤ all.bytes.length then .complete else all.ends.ending⟩ ∧
      reading.ending ≠ .stalled ∧ reading.ending ≠ .failed .interrupted ∧
      (∀ room next, room.length ≠ 0 → s.read room.length = (.ok [], next) →
        s.readChunk room = (.endOfFile, [], next)) ∧
      (∀ earlier, s.EndsAfter earlier → (Stream.bytes ⟨earlier, .endOfFile⟩).length < expected →
        reading = ⟨Stream.bytes ⟨earlier, .endOfFile⟩, .endOfFile⟩) ∧
      (reading.status = .ok ↔ reading.isComplete = true) ∧
      (reading.isComplete = true ↔ reading.bytes.length = expected) := by
  intro reading all
  have as_yielded : reading = _ := s.reading_eq expected
  obtain ⟨unstalled, uninterrupted⟩ :=
    Stream.ending_ends_yield s.thereafter expected s.answers
  have complete : reading.isComplete = true ↔ reading.ending = .complete := by
    rw [Reading.isComplete, decide_eq_true_eq]
  have stalled : reading.ending ≠ .stalled := by
    rw [as_yielded]
    dsimp only
    split
    · exact nofun
    · exact unstalled
  refine ⟨?_, as_yielded, stalled, ?_, ?_, ?_, ?_, ?_⟩
  · rw [as_yielded, s.undisturbed.reading_eq, s.yields_undisturbed]
  · rw [as_yielded]
    dsimp only
    split
    · exact nofun
    · exact uninterrupted
  · intro room next room' nothing
    rw [Stream.readChunk_eq, nothing]
    simp [room']
  · intro earlier ends less
    rw [as_yielded, ends.yields_eq]
    dsimp only
    rw [List.take_of_length_le (Nat.le_of_lt less), if_neg (Nat.not_le_of_lt less)]
    rfl
  · rw [complete]
    cases ended : reading.ending with
    | stalled => exact absurd ended stalled
    | complete => simp [Reading.status, ended, ReadEnd.status]
    | endOfFile => simp [Reading.status, ended, ReadEnd.status]
    | failed kind => simp [Reading.status, ended, ReadEnd.status]
  · rw [complete]
    exact (readUpTo_comesOf s expected).2.2.1.complete_iff

end SceneBench
