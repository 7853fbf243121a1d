import SceneBench.Proofs.Storage.Filling
import SceneBench.Storage.Stream

/-!
# The reading loop

Whatever a reader does, the loop that reads from it calls it no more often than there are bytes to
be read, gives it only the part of the buffer that is still missing, and keeps what was delivered.
It stops at the first call that says why, and is complete exactly when it got all bytes. So a
reader that delivers some data in pieces is read to the end of the data or to the expected size,
whichever comes first; open files are such readers.
-/

namespace SceneBench

variable {ρ : Type}

/-! ## Readers that deliver data -/

/-- A reader that delivers some data in pieces, one with each call and none of them empty, and is
at its end after that. What it writes behind a piece does not matter. -/
inductive Delivers [ChunkReader ρ] : ρ → List UInt8 → Prop
  | ended {reader : ρ}
      (ends : ∀ room : Room, room.length ≠ 0 →
        (ChunkReader.readChunk reader room).1 = .endOfFile) :
      Delivers reader []
  | next {reader : ρ} {data : List UInt8} (piece rest : Room → List UInt8)
      (delivers : ∀ room : Room, room.length ≠ 0 →
        data = piece room ++ rest room ∧ piece room ≠ [] ∧ (piece room).length ≤ room.length ∧
          (ChunkReader.readChunk reader room).1 = .delivered (piece room).length ∧
          piece room <+: (ChunkReader.readChunk reader room).2.1)
      (further : ∀ room : Room, room.length ≠ 0 →
        Delivers (ChunkReader.readChunk reader room).2.2 (rest room)) :
      Delivers reader data

/-- As much of the data is read as there is room for; by induction on the pieces. -/
theorem Delivers.fill [ChunkReader ρ] {reader : ρ} {data : List UInt8}
    (delivers : Delivers reader data) (room : Room) :
    (fill reader room).bytes = data.take room.length ∧
      (fill reader room).early =
        if room.length ≤ data.length then none else some .endOfFile := by
  induction delivers generalizing room with
  | @ended reader ends =>
      by_cases none' : room.length = 0
      · rw [fill_of_length_eq_zero _ none', none']
        exact ⟨rfl, rfl⟩
      · rcases called : ChunkReader.readChunk reader room with ⟨report, written, next⟩
        have report_eq : report = .endOfFile := by
          rw [← ends room none', called]
        rw [fill_of_early none' called (by rw [report_eq]; rfl), if_neg (by simpa using none')]
        exact ⟨List.take_nil.symm, rfl⟩
  | @next reader data piece rest delivers further ih =>
      by_cases none' : room.length = 0
      · rw [fill_of_length_eq_zero _ none', none']
        exact ⟨List.take_zero.symm, rfl⟩
      · obtain ⟨data_eq, some', fits, reported, front⟩ := delivers room none'
        have behind := ih room none'
        rcases called : ChunkReader.readChunk reader room with ⟨report, written, next⟩
        rw [called] at reported front behind
        dsimp only at reported front behind
        have count : report.count = (piece room).length := by rw [reported]; rfl
        have goes : report.early? = none := by
          rw [reported]
          match length : (piece room).length, List.length_pos_iff.mpr some' with
          | n + 1, _ => rfl
        have taken : (room.overwrite written).take report.count = piece room := by
          rw [count, Room.take_overwrite front fits]
        have left : ((room.overwrite written).drop report.count).length =
            room.length - (piece room).length := by
          rw [Room.length_drop, Room.length_overwrite, count]
        obtain ⟨bytes, early⟩ := behind ((room.overwrite written).drop report.count)
        rw [fill_of_progress none' called goes]
        dsimp only
        have reach : room.length - (piece room).length ≤ (rest room).length ↔
            room.length ≤ (piece room ++ rest room).length := by
          rw [List.length_append]
          omega
        rw [bytes, early, taken, left, data_eq, List.take_append, List.take_of_length_le fits]
        simp only [reach, and_self]

/-! ## Open files -/

namespace Stream

/-- The answers that are left when a piece was delivered up to here. -/
def resume (further : List UInt8) (answers : List ReadAnswer) : List ReadAnswer :=
  match further with
  | [] => answers
  | _ => .bytes further :: answers

/-- A piece is delivered as far as there is room. -/
theorem readChunk_bytes {piece : List UInt8} (some' : piece ≠ []) (answers : List ReadAnswer)
    (thereafter : StreamEnd) {room : Room} (room' : room.length ≠ 0) :
    readChunk ⟨.bytes piece :: answers, thereafter⟩ room =
      (.delivered (piece.take room.length).length, piece.take room.length,
        ⟨resume (piece.drop room.length) answers, thereafter⟩) := by
  have front : piece.take room.length ≠ [] := by
    rw [ne_eq, List.take_eq_nil_iff]
    exact not_or.mpr ⟨room', some'⟩
  have one : (Stream.mk (.bytes piece :: answers) thereafter).skipInterrupted.read room.length =
      (.ok (piece.take room.length),
        ⟨resume (piece.drop room.length) answers, thereafter⟩) := by
    show (match piece.drop room.length with | [] => _ | further => _) = _
    cases rest : piece.drop room.length with
    | nil => rw [List.take_of_length_le (List.drop_eq_nil_iff.mp rest)]; rfl
    | cons first further => rfl
  rw [readChunk, one]
  simp [front]

/-- A file whose next read is answered with a piece delivers the piece first. If there is too little
room for it, it is delivered in parts; so the induction is on the bytes that are left of it. -/
theorem delivers_cons {piece data : List UInt8} {answers : List ReadAnswer}
    {thereafter : StreamEnd} (some' : piece ≠ [])
    (further : Delivers (Stream.mk answers thereafter) data) :
    Delivers (Stream.mk (.bytes piece :: answers) thereafter) (piece ++ data) := by
  induction left : piece.length using Nat.strongRecOn generalizing piece with
  | ind size ih =>
    refine .next (fun room => piece.take room.length)
      (fun room => piece.drop room.length ++ data) (fun room room' => ?_) fun room room' => ?_
    · have called : readChunk _ room = _ := readChunk_bytes some' answers thereafter room'
      refine ⟨?_, ?_, List.length_take_le .., congrArg Prod.fst called, [], ?_⟩
      · rw [← List.append_assoc, List.take_append_drop]
      · rw [ne_eq, List.take_eq_nil_iff]
        exact not_or.mpr ⟨room', some'⟩
      · exact (List.append_nil _).trans (congrArg (·.2.1) called).symm
    · have called : readChunk _ room = _ := readChunk_bytes some' answers thereafter room'
      show Delivers (readChunk _ room).2.2 _
      rw [called]
      cases rest : piece.drop room.length with
      | nil => exact further
      | cons byte more =>
          have less := congrArg List.length rest
          rw [List.length_drop] at less
          have some'' := List.length_pos_iff.mpr some'
          exact ih _ (by omega) (List.cons_ne_nil byte more) rfl

/-- A file that has nothing to be read is at its end. -/
theorem delivers_nil : Delivers (Stream.mk [] .endOfFile) [] := by
  refine .ended fun room room' => ?_
  show (readChunk ⟨[], .endOfFile⟩ room).1 = _
  have ended : (Stream.mk [] .endOfFile).skipInterrupted.read room.length =
      (.ok [], ⟨[], .endOfFile⟩) := rfl
  rw [readChunk, ended]
  simp [room']

/-- A file whose reads are answered in pieces, none of them empty, delivers the pieces. -/
theorem delivers (pieces : List (List UInt8)) (some' : ∀ piece ∈ pieces, piece ≠ []) :
    Delivers (Stream.mk (pieces.map .bytes) .endOfFile) pieces.flatten := by
  induction pieces with
  | nil => exact delivers_nil
  | cons piece more ih =>
      obtain ⟨first, others⟩ := List.forall_mem_cons.mp some'
      exact delivers_cons first (ih others)

end Stream

/-! ## The loop -/

/-- A reading of so many bytes, as it comes of the calls that were made for it. -/
structure Reading.ComesOf (r : Reading) (expected : Nat) (calls : List ReadCall) : Prop where
  /-- There are no more calls than bytes to be read. -/
  few : calls.length ≤ expected
  /-- Each call is given the end of the buffer that earlier calls have not delivered yet. -/
  given : ∀ earlier call later, calls = earlier ++ call :: later →
    let before := (Buffer.blank expected).afterAll earlier
    call.given = before.missing ∧ before.bytes.length = expected ∧
      call.given.length = expected - before.delivered ∧ call.left.length = call.given.length
  /-- What earlier calls have delivered is not changed by later ones. -/
  kept : ∀ earlier between later, calls = earlier ++ (between ++ later) →
    let before := (Buffer.blank expected).afterAll earlier
    (before.afterAll between).bytes.take before.delivered = before.bytes.take before.delivered
  /-- In the end the front of the buffer is read. -/
  buffer : let final := (Buffer.blank expected).afterAll calls
    r.bytes = final.bytes.take final.delivered ∧ r.bytes.length = final.delivered
  /-- It is made of the bytes that each call delivered. -/
  bytes : r.bytes = calls.flatMap ReadCall.front
  complete_iff : r.ending = .complete ↔ r.bytes.length = expected
  /-- Each call goes on from the one before it, except that the last one says why the reading is
  not complete. -/
  ending : r.ending = .complete ∧ (∀ call ∈ calls, call.report.ending? = none) ∨
    ∃ earlier last, calls = earlier ++ [last] ∧ last.report.ending? = some r.ending ∧
      ∀ call ∈ earlier, call.report.ending? = none

theorem EarlyEnd.ending_ne_complete (early : EarlyEnd) : early.ending ≠ .complete := by
  cases early <;> exact nofun

theorem Fills.comesOf [ChunkReader ρ] {reader : ρ} {expected : Nat} {calls : List ReadCall}
    {f : Filled ρ} (fills : Fills reader (.blank expected) calls f) :
    f.reading.ComesOf expected calls := by
  have size : (Buffer.blank expected).bytes.length = expected := List.length_replicate
  have fits : (Buffer.blank expected).delivered ≤ (Buffer.blank expected).bytes.length :=
    Nat.zero_le _
  have serves : (Buffer.blank expected).Serves calls := fills.serves fits rfl
  have ends := fills.ends
  rw [Room.length_blank] at ends
  rw [Filled.reading_eq]
  constructor
  case few => simpa using fills.length_calls_le
  case given =>
    rintro earlier call later rfl before
    obtain ⟨first, given, left, -, -⟩ := serves.split
    have length := (first.length_afterAll fits).1
    rw [size] at length
    refine ⟨given, length, ?_, left.trans (congrArg List.length given.symm)⟩
    rw [given, Buffer.length_missing, length]
  case kept =>
    rintro earlier between later rfl before
    obtain ⟨first, further⟩ := serves.split
    obtain ⟨same, fits'⟩ := first.length_afterAll fits
    exact further.split.1.take_afterAll (same ▸ fits')
  case buffer =>
    have taken := serves.take_delivered_afterAll fits
    rw [← fills.bytes_eq] at taken
    obtain ⟨same, fits'⟩ := serves.length_afterAll fits
    have all := List.length_take_of_le (Nat.le_trans fits' (Nat.le_of_eq same.symm))
    exact ⟨taken.symm, (congrArg List.length taken.symm).trans all⟩
  case bytes => exact fills.bytes_eq
  case complete_iff =>
    rcases ends with ⟨none', all, -⟩ | ⟨early, -, -, early', less, -⟩
    · simp [none', all]
    · simpa [early', early.ending_ne_complete] using Nat.ne_of_lt less
  case ending =>
    rcases ends with ⟨none', -, going⟩ | ⟨early, earlier, last, early', -, made, ends, going⟩
    · refine .inl ⟨by rw [none']; rfl, fun call held => ?_⟩
      rw [ChunkResult.ending?, going call held]
      rfl
    · refine .inr ⟨earlier, last, made, ?_, fun call held => ?_⟩
      · rw [ChunkResult.ending?, ends, early']
        rfl
      · rw [ChunkResult.ending?, going call held]
        rfl

/-- A reading that counts as complete has all bytes that were expected. -/
theorem length_of_complete [ChunkReader ρ] {reader : ρ} {expected : Nat}
    (complete : (readUpTo reader expected).reading.ending = .complete) :
    (readUpTo reader expected).reading.bytes.length = expected := by
  obtain ⟨calls, fills, -⟩ := exists_fills reader (.blank expected) []
  exact fills.comesOf.complete_iff.mp complete

/-- Whatever a reader does, the loop that reads from it makes no more calls than there are bytes to
be read, and comes to what these calls have delivered. A reader that delivers data in pieces is
read to the end of the data or to the expected size, whichever comes first. -/
theorem readUpTo_comesOf [ChunkReader ρ] (reader : ρ) (expected : Nat) :
    let recorded := readUpTo (Recorder.mk reader []) expected
    let reading := (readUpTo reader expected).reading
    recorded.reading = reading ∧ recorded.reader.reader = (readUpTo reader expected).reader ∧
      reading.ComesOf expected recorded.reader.calls ∧
      ∀ data, Delivers reader data → reading =
        ⟨data.take expected, if expected ≤ data.length then .complete else .endOfFile⟩ := by
  obtain ⟨calls, fills, same⟩ := exists_fills reader (.blank expected) []
  have recorded : readUpTo (Recorder.mk reader []) expected =
      { readUpTo reader expected with reader := ⟨(readUpTo reader expected).reader, calls⟩ } :=
    same
  dsimp only
  rw [recorded]
  refine ⟨?_, rfl, fills.comesOf, fun data delivers => ?_⟩
  · rw [Filled.reading_eq, Filled.reading_eq]
  · obtain ⟨bytes, early⟩ := delivers.fill (.blank expected)
    rw [Room.length_blank] at bytes early
    rw [Filled.reading_eq, readUpTo, bytes, early]
    split <;> rfl

/-- A file that is answered in two pieces ends before the expected size, and the loop makes three
calls for it. -/
theorem readUpTo_comesOf_pieces :
    let file : Stream := ⟨[.bytes [10, 20], .bytes [30]], .endOfFile⟩
    Delivers file [10, 20, 30] ∧ (readUpTo file 4).reading = ⟨[10, 20, 30], .endOfFile⟩ ∧
      (readUpTo file 2).reading = ⟨[10, 20], .complete⟩ := by
  intro file
  have delivers : Delivers file [10, 20, 30] := Stream.delivers [[10, 20], [30]] (by decide)
  obtain ⟨-, -, -, short⟩ := readUpTo_comesOf file 4
  obtain ⟨-, -, -, full⟩ := readUpTo_comesOf file 2
  exact ⟨delivers, short _ delivers, full _ delivers⟩

end SceneBench
