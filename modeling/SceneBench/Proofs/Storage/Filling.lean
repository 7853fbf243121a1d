import SceneBench.Storage.Reading

/-!
# Calls of a reader

What the reading loop does is told by the calls that it makes. A recorder is a reader that passes
its calls on to another one and remembers them, so that the loop itself, run with a recorder, shows
its calls. In the buffer that is read into, the bytes in front count as delivered and the rest is
still missing; each call is given the missing bytes and may leave anything there, of which as many
as it reports are delivered next. This holds for readers of every kind: they may report more than
there was room for, write where they have delivered nothing, fail or stall at any time.
-/

namespace SceneBench

variable {ρ : Type}

/-! ## What a report means -/

namespace ChunkResult

/-- How many bytes a call says it has delivered. -/
def count : ChunkResult → Nat
  | delivered count => count
  | endOfFile | failed _ => 0

/-- Why a call is the last, if it is. -/
def early? : ChunkResult → Option EarlyEnd
  | delivered 0 => some .stalled
  | delivered (_ + 1) => none
  | endOfFile => some .endOfFile
  | failed error => some (.failed error)

theorem count_pos_of_early?_eq_none {report : ChunkResult} (goes : report.early? = none) :
    0 < report.count := by
  match report, goes with
  | delivered (_ + 1), _ => exact Nat.succ_pos _

theorem count_eq_zero_of_early?_eq_some {report : ChunkResult} {early : EarlyEnd}
    (ends : report.early? = some early) : report.count = 0 := by
  match report, ends with
  | delivered 0, _ => rfl
  | endOfFile, _ => rfl
  | failed _, _ => rfl

end ChunkResult

/-- The end of a reading that stopped early. -/
def EarlyEnd.ending : EarlyEnd → ReadEnd
  | endOfFile => .endOfFile
  | stalled => .stalled
  | failed error => .failed error.kind

/-- How a call ends the reading, if it does. -/
def ChunkResult.ending? (report : ChunkResult) : Option ReadEnd :=
  report.early?.map EarlyEnd.ending

theorem Filled.reading_eq (f : Filled ρ) :
    f.reading = ⟨f.bytes, f.early.elim .complete EarlyEnd.ending⟩ := by
  obtain ⟨bytes, early, reader⟩ := f
  match early with
  | none => rfl
  | some .endOfFile => rfl
  | some .stalled => rfl
  | some (.failed error) => rfl

/-- What was written in front can be taken from there. -/
theorem Room.take_overwrite {room : Room} {piece written : List UInt8} (front : piece <+: written)
    (fits : piece.length ≤ room.length) :
    (room.overwrite written).take piece.length = piece := by
  obtain ⟨behind, rfl⟩ := front
  have inside : piece.length ≤ ((piece ++ behind).take room.length).length := by
    rw [List.length_take, List.length_append]
    omega
  rw [bytes_take, bytes_overwrite, List.take_append_of_le_length inside, List.take_take,
    Nat.min_eq_left fits, List.take_left]

/-! ## Steps of the loop -/

section Steps

variable [ChunkReader ρ] {reader next : ρ} {room : Room} {report : ChunkResult}
  {written : List UInt8}

/-- A reader that is given no room is not called. -/
theorem fill_of_length_eq_zero (reader : ρ) (none' : room.length = 0) :
    fill reader room = ⟨[], none, reader⟩ := by
  rw [fill, if_pos none']

/-- A call that says why ends the reading. -/
theorem fill_of_early (some' : room.length ≠ 0)
    (called : ChunkReader.readChunk reader room = (report, written, next)) {early : EarlyEnd}
    (ends : report.early? = some early) : fill reader room = ⟨[], some early, next⟩ := by
  rw [fill, if_neg some', called]
  match report, ends with
  | .delivered 0, rfl => rfl
  | .endOfFile, rfl => rfl
  | .failed _, rfl => rfl

/-- Any other call takes what it reports off the room. -/
theorem fill_of_progress (some' : room.length ≠ 0)
    (called : ChunkReader.readChunk reader room = (report, written, next))
    (goes : report.early? = none) :
    fill reader room =
      let after := room.overwrite written
      let further := fill next (after.drop report.count)
      { further with bytes := after.take report.count ++ further.bytes } := by
  rw [fill, if_neg some', called]
  match report, goes with
  | .delivered (_ + 1), _ => rfl

/-- Room gets less with every call that does not end the reading. -/
theorem length_drop_lt (some' : room.length ≠ 0) (goes : report.early? = none) :
    ((room.overwrite written).drop report.count).length < room.length := by
  have progress := ChunkResult.count_pos_of_early?_eq_none goes
  rw [Room.length_drop, Room.length_overwrite]
  omega

end Steps

/-! ## Calls -/

/-- One call of a reader: the bytes that it was given to write to, what it left there, and its
report. -/
structure ReadCall where
  given : List UInt8
  left : List UInt8
  report : ChunkResult
  deriving DecidableEq, Repr

namespace ReadCall

/-- The call that was given some room and has written over its front. -/
def on (room : Room) (written : List UInt8) (report : ChunkResult) : ReadCall :=
  ⟨room.bytes, (room.overwrite written).bytes, report⟩

/-- What a call has delivered: as many bytes from the front as it reports, if there are so many. -/
def front (call : ReadCall) : List UInt8 := call.left.take call.report.count

@[simp] theorem report_on (room : Room) (written : List UInt8) (report : ChunkResult) :
    (on room written report).report = report := rfl

@[simp] theorem length_left_on (room : Room) (written : List UInt8) (report : ChunkResult) :
    (on room written report).left.length = room.length := by
  rw [on, Room.length_bytes, Room.length_overwrite]

theorem front_on (room : Room) (written : List UInt8) (report : ChunkResult) :
    (on room written report).front = (room.overwrite written).take report.count :=
  (Room.bytes_take _ _).symm

end ReadCall

/-- A reader that remembers its calls. -/
structure Recorder (ρ : Type) where
  reader : ρ
  calls : List ReadCall := []

/-- The call of a recorder is that of its reader, and is remembered. -/
def Recorder.readChunk [ChunkReader ρ] (r : Recorder ρ) (room : Room) :
    ChunkResult × List UInt8 × Recorder ρ :=
  let (report, written, reader) := ChunkReader.readChunk r.reader room
  (report, written, ⟨reader, r.calls ++ [.on room written report]⟩)

instance [ChunkReader ρ] : ChunkReader (Recorder ρ) := ⟨Recorder.readChunk⟩

theorem readChunk_recorder [ChunkReader ρ] {reader next : ρ} {room : Room}
    {report : ChunkResult} {written : List UInt8}
    (called : ChunkReader.readChunk reader room = (report, written, next))
    (made : List ReadCall) :
    ChunkReader.readChunk (Recorder.mk reader made) room =
      (report, written, ⟨next, made ++ [.on room written report]⟩) := by
  show Recorder.readChunk _ room = _
  rw [Recorder.readChunk, called]

/-- Filling some room takes these calls, and comes to this end. -/
inductive Fills [ChunkReader ρ] : ρ → Room → List ReadCall → Filled ρ → Prop
  | full {reader : ρ} {room : Room} (none' : room.length = 0) :
      Fills reader room [] ⟨[], none, reader⟩
  | early {reader next : ρ} {room : Room} {report : ChunkResult} {written : List UInt8}
      {early : EarlyEnd} (some' : room.length ≠ 0)
      (called : ChunkReader.readChunk reader room = (report, written, next))
      (ends : report.early? = some early) :
      Fills reader room [.on room written report] ⟨[], some early, next⟩
  | more {reader next : ρ} {room : Room} {report : ChunkResult} {written : List UInt8}
      {calls : List ReadCall} {further : Filled ρ} (some' : room.length ≠ 0)
      (called : ChunkReader.readChunk reader room = (report, written, next))
      (goes : report.early? = none)
      (rest : Fills next ((room.overwrite written).drop report.count) calls further) :
      Fills reader room (.on room written report :: calls)
        { further with bytes := (room.overwrite written).take report.count ++ further.bytes }

/-- The calls of the loop are those that a recorder remembers, and a recorder changes nothing else;
by induction on the room that is left. -/
theorem exists_fills [ChunkReader ρ] (reader : ρ) (room : Room) (made : List ReadCall) :
    ∃ calls, Fills reader room calls (fill reader room) ∧
      fill (Recorder.mk reader made) room =
        { fill reader room with reader := ⟨(fill reader room).reader, made ++ calls⟩ } := by
  induction extent : room.length using Nat.strongRecOn generalizing reader room made with
  | ind size ih =>
    by_cases none' : room.length = 0
    · rw [fill_of_length_eq_zero reader none', fill_of_length_eq_zero _ none']
      exact ⟨[], .full none', by rw [List.append_nil]⟩
    · rcases called : ChunkReader.readChunk reader room with ⟨report, written, next⟩
      have recorded := readChunk_recorder called made
      cases ends : report.early? with
      | some early =>
          rw [fill_of_early none' called ends, fill_of_early none' recorded ends]
          exact ⟨_, .early none' called ends, rfl⟩
      | none =>
          have less : ((room.overwrite written).drop report.count).length < size :=
            extent ▸ length_drop_lt none' ends
          obtain ⟨calls, rest, same⟩ := ih _ less next _ (made ++ [.on room written report]) rfl
          rw [fill_of_progress none' called ends, fill_of_progress none' recorded ends]
          refine ⟨_, .more none' called ends rest, ?_⟩
          simp only [same, List.append_assoc, List.singleton_append]

/-! ## What calls do to the buffer -/

/-- A buffer that is being read into, and how many of its bytes count as delivered. -/
structure Buffer where
  bytes : List UInt8
  delivered : Nat

namespace Buffer

/-- A buffer before anything was read. -/
def blank (size : Nat) : Buffer := ⟨List.replicate size 0, 0⟩

/-- The bytes that are not delivered yet. -/
def missing (b : Buffer) : List UInt8 := b.bytes.drop b.delivered

/-- The buffer after a call: what it left stands where it was given room, and as many bytes as it
reports, but no more than were missing, are delivered. -/
def after (b : Buffer) (call : ReadCall) : Buffer :=
  ⟨b.bytes.take b.delivered ++ call.left,
    b.delivered + min call.report.count (b.bytes.length - b.delivered)⟩

def afterAll (b : Buffer) (calls : List ReadCall) : Buffer := calls.foldl after b

/-- Each of the calls is given what is missing when it is made, and leaves as much. -/
def Serves : Buffer → List ReadCall → Prop
  | _, [] => True
  | b, call :: rest =>
    call.given = b.missing ∧ call.left.length = b.missing.length ∧ b.missing ≠ [] ∧
      (b.after call).Serves rest

variable {b : Buffer} {call : ReadCall} {calls : List ReadCall}

@[simp] theorem delivered_after (b : Buffer) (call : ReadCall) :
    (b.after call).delivered =
      b.delivered + min call.report.count (b.bytes.length - b.delivered) := rfl

theorem length_missing (b : Buffer) : b.missing.length = b.bytes.length - b.delivered :=
  List.length_drop

theorem length_after (fits : b.delivered ≤ b.bytes.length)
    (left : call.left.length = b.missing.length) :
    (b.after call).bytes.length = b.bytes.length := by
  rw [after, List.length_append, List.length_take, left, length_missing]
  omega

theorem delivered_after_le (fits : b.delivered ≤ b.bytes.length)
    (left : call.left.length = b.missing.length) :
    (b.after call).delivered ≤ (b.after call).bytes.length := by
  rw [length_after fits left, delivered_after]
  omega

/-- What is delivered stays when a call is made. -/
theorem take_after (fits : b.delivered ≤ b.bytes.length) (call : ReadCall) :
    (b.after call).bytes.take b.delivered = b.bytes.take b.delivered :=
  List.take_left' (List.length_take_of_le fits)

/-- What a call delivers comes behind what was delivered before. -/
theorem take_delivered_after (fits : b.delivered ≤ b.bytes.length)
    (left : call.left.length = b.missing.length) :
    (b.after call).bytes.take (b.after call).delivered =
      b.bytes.take b.delivered ++ call.front := by
  have clamped : call.left.take (min call.report.count (b.bytes.length - b.delivered)) =
      call.front := by
    rw [ReadCall.front, ← length_missing, ← left, ← List.take_take, List.take_length]
  rw [delivered_after, after, List.take_append, List.length_take_of_le fits,
    Nat.add_sub_cancel_left, clamped, List.take_take, Nat.min_eq_right (Nat.le_add_right _ _)]

theorem missing_after (fits : b.delivered ≤ b.bytes.length)
    (left : call.left.length = b.missing.length) :
    (b.after call).missing = call.left.drop call.report.count := by
  rw [length_missing] at left
  rw [missing, delivered_after, after, ← List.drop_drop,
    List.drop_left' (List.length_take_of_le fits), ← left]
  rcases Nat.le_total call.report.count call.left.length with within | beyond
  · rw [Nat.min_eq_left within]
  · rw [Nat.min_eq_right beyond, List.drop_length, List.drop_of_length_le beyond]

/-! What calls that are made one after the other do follows by induction on them. -/

theorem Serves.length_afterAll (serves : b.Serves calls) (fits : b.delivered ≤ b.bytes.length) :
    (b.afterAll calls).bytes.length = b.bytes.length ∧
      (b.afterAll calls).delivered ≤ b.bytes.length := by
  induction calls generalizing b with
  | nil => exact ⟨rfl, fits⟩
  | cons call rest ih =>
      obtain ⟨-, left, -, further⟩ := serves
      rw [← length_after fits left]
      exact ih further (delivered_after_le fits left)

/-- Bytes that count as delivered are never changed by later calls. -/
theorem Serves.take_afterAll (serves : b.Serves calls) (fits : b.delivered ≤ b.bytes.length) :
    (b.afterAll calls).bytes.take b.delivered = b.bytes.take b.delivered := by
  induction calls generalizing b with
  | nil => rfl
  | cons call rest ih =>
      obtain ⟨-, left, -, further⟩ := serves
      have more : b.delivered ≤ (b.after call).delivered := Nat.le_add_right _ _
      have kept := congrArg (List.take b.delivered) (ih further (delivered_after_le fits left))
      rw [List.take_take, List.take_take, Nat.min_eq_left more] at kept
      exact kept.trans (take_after fits call)

/-- What is delivered in the end is what each call delivered, one after the other. -/
theorem Serves.take_delivered_afterAll (serves : b.Serves calls)
    (fits : b.delivered ≤ b.bytes.length) :
    (b.afterAll calls).bytes.take (b.afterAll calls).delivered =
      b.bytes.take b.delivered ++ calls.flatMap ReadCall.front := by
  induction calls generalizing b with
  | nil => exact (List.append_nil _).symm
  | cons call rest ih =>
      obtain ⟨-, left, -, further⟩ := serves
      rw [List.flatMap_cons, ← List.append_assoc, ← take_delivered_after fits left]
      exact ih further (delivered_after_le fits left)

/-- Some of the calls after which others are made, and these others. -/
theorem Serves.split {earlier later : List ReadCall} (serves : b.Serves (earlier ++ later)) :
    b.Serves earlier ∧ (b.afterAll earlier).Serves later := by
  induction earlier generalizing b with
  | nil => exact ⟨trivial, serves⟩
  | cons call rest ih =>
      obtain ⟨given, left, some', further⟩ := serves
      obtain ⟨before, behind⟩ := ih further
      exact ⟨⟨given, left, some', before⟩, behind⟩

end Buffer

/-! ## What the loop comes to -/

namespace Fills

variable [ChunkReader ρ] {reader : ρ} {room : Room} {calls : List ReadCall} {f : Filled ρ}

theorem serves (fills : Fills reader room calls f) {b : Buffer}
    (fits : b.delivered ≤ b.bytes.length) (here : b.missing = room.bytes) : b.Serves calls := by
  induction fills generalizing b with
  | full none' => trivial
  | @early reader next room report written early some' called ends =>
      have length : (ReadCall.on room written report).left.length = b.missing.length := by
        rw [here, Room.length_bytes, ReadCall.length_left_on]
      refine ⟨here.symm, length, fun empty => ?_, trivial⟩
      rw [here, ← List.length_eq_zero_iff, Room.length_bytes] at empty
      exact some' empty
  | @more reader next room report written calls further some' called goes rest ih =>
      have length : (ReadCall.on room written report).left.length = b.missing.length := by
        rw [here, Room.length_bytes, ReadCall.length_left_on]
      refine ⟨here.symm, length, fun empty => ?_, ?_⟩
      · rw [here, ← List.length_eq_zero_iff, Room.length_bytes] at empty
        exact some' empty
      · refine ih (Buffer.delivered_after_le fits length) ?_
        rw [Buffer.missing_after fits length, Room.bytes_drop]
        rfl

/-- Only what calls deliver is read. -/
theorem bytes_eq (fills : Fills reader room calls f) : f.bytes = calls.flatMap ReadCall.front := by
  induction fills with
  | full none' => rfl
  | @early reader next room report written early some' called ends =>
      have nothing : (ReadCall.on room written report).front = [] := by
        rw [ReadCall.front, ReadCall.report_on, ChunkResult.count_eq_zero_of_early?_eq_some ends,
          List.take_zero]
      rw [List.flatMap_singleton, nothing]
  | @more reader next room report written calls further some' called goes rest ih =>
      rw [List.flatMap_cons, ReadCall.front_on, ← ih]

/-- Every call but the last takes up room, and the last needs some. -/
theorem length_calls_le (fills : Fills reader room calls f) : calls.length ≤ room.length := by
  induction fills with
  | full none' => exact Nat.zero_le _
  | early some' called ends => exact Nat.one_le_iff_ne_zero.mpr some'
  | more some' called goes rest ih =>
      exact Nat.succ_le_of_lt (Nat.lt_of_le_of_lt ih (length_drop_lt some' goes))

/-- Filling ends with a full room after calls that all go on, or early with the last call. -/
theorem ends (fills : Fills reader room calls f) :
    f.early = none ∧ f.bytes.length = room.length ∧
        (∀ call ∈ calls, call.report.early? = none) ∨
      ∃ early earlier last, f.early = some early ∧ f.bytes.length < room.length ∧
        calls = earlier ++ [last] ∧ last.report.early? = some early ∧
        ∀ call ∈ earlier, call.report.early? = none := by
  induction fills with
  | full none' => exact .inl ⟨rfl, none'.symm, by simp⟩
  | early some' called ends =>
      exact .inr ⟨_, [], _, rfl, Nat.pos_of_ne_zero some', rfl, ends, by simp⟩
  | @more reader next room report written calls further some' called goes rest ih =>
      have length : ((room.overwrite written).take report.count).length =
          min report.count room.length := by
        rw [Room.bytes_take, List.length_take, Room.length_bytes, Room.length_overwrite]
      have left : ((room.overwrite written).drop report.count).length =
          room.length - report.count := by
        rw [Room.length_drop, Room.length_overwrite]
      simp only [List.length_append, length]
      rcases ih with ⟨none', all, going⟩ | ⟨early, earlier, last, early', less, rfl, ends, going⟩
      · refine .inl ⟨none', by omega, ?_⟩
        rw [List.forall_mem_cons]
        exact ⟨goes, going⟩
      · refine .inr ⟨early, _ :: earlier, last, early', by omega, rfl, ends, ?_⟩
        rw [List.forall_mem_cons]
        exact ⟨goes, going⟩

end Fills

end SceneBench
