/-!
# Room for bytes

The room that a reader may write to begins as zeros, and stays so wherever nothing was written. It
is kept as the bytes that were written at its front and the number of zeros after them, so that room
costs nothing before it is used, however much of it was asked for. What the room holds is
`Room.bytes`, and every operation is told by what it does to them.
-/

namespace SceneBench

/-- Bytes at the front, then zeros. -/
structure Room where
  front : List UInt8 := []
  zeros : Nat
  deriving DecidableEq, Repr

namespace Room

/-- Room to which nothing was written yet. -/
def blank (length : Nat) : Room := ⟨[], length⟩

/-- What the room holds. -/
def bytes (r : Room) : List UInt8 := r.front ++ List.replicate r.zeros 0

def length (r : Room) : Nat := r.front.length + r.zeros

/-- The room after bytes were written over its front; what would go beyond its end is lost. -/
def overwrite (r : Room) (written : List UInt8) : Room :=
  ⟨written.take r.length ++ r.front.drop written.length,
    r.zeros - (written.length - r.front.length)⟩

/-- The first bytes of the room. -/
def take (r : Room) (count : Nat) : List UInt8 :=
  r.front.take count ++ List.replicate (min (count - r.front.length) r.zeros) 0

/-- The room without its first bytes. -/
def drop (r : Room) (count : Nat) : Room :=
  ⟨r.front.drop count, r.zeros - (count - r.front.length)⟩

@[simp] theorem length_bytes (r : Room) : r.bytes.length = r.length := by simp [bytes, length]

@[simp] theorem bytes_blank (length : Nat) : (blank length).bytes = List.replicate length 0 := rfl

@[simp] theorem length_blank (length : Nat) : (blank length).length = length := by
  simp [blank, Room.length]

@[simp] theorem length_drop (r : Room) (count : Nat) :
    (r.drop count).length = r.length - count := by
  simp only [drop, length, List.length_drop]
  omega

@[simp] theorem length_overwrite (r : Room) (written : List UInt8) :
    (r.overwrite written).length = r.length := by
  simp only [overwrite, length, List.length_append, List.length_take, List.length_drop]
  omega

theorem bytes_take (r : Room) (count : Nat) : r.take count = r.bytes.take count := by
  simp [take, bytes, List.take_append]

@[simp] theorem bytes_drop (r : Room) (count : Nat) :
    (r.drop count).bytes = r.bytes.drop count := by
  simp [drop, bytes, List.drop_append]

/-- Writing keeps what the room held behind the bytes written. -/
@[simp] theorem bytes_overwrite (r : Room) (written : List UInt8) :
    (r.overwrite written).bytes = written.take r.length ++ r.bytes.drop written.length := by
  simp [overwrite, bytes, List.drop_append, List.append_assoc]

end Room

end SceneBench
