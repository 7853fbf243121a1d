import SceneBench.Json.Cursor

/-!
# How a scan ends

A scan ends with an answer and leaves the rest of the text, or it ends with a fault. Which of the
two, and what the answer is, is told here without the place that was reached: the rest of the text
decides about it, and lines and columns are for messages only.
-/

namespace SceneBench.Json

variable {α β : Type} {c : Cursor} {b : UInt8} {s t rest : List UInt8}

/-! ## Bytes and places -/

/-- A byte as the character of that number. -/
def charOf (b : UInt8) : Char := Char.ofNat b.toNat

theorem toNat_charOf (b : UInt8) : (charOf b).toNat = b.toNat := by
  have below := b.toNat_lt
  have valid : b.toNat.isValidChar := .inl (by omega)
  rw [charOf, Char.ofNat, dif_pos valid]
  rfl

theorem charOf_inj {b' : UInt8} (same : charOf b = charOf b') : b = b' := by
  rw [← UInt8.toNat_inj, ← toNat_charOf, ← toNat_charOf, same]

namespace Cursor

theorem peek_of_cons (next : c.rest = b :: t) : c.peek = some (charOf b) := by
  rw [peek, next]
  rfl

theorem peek_of_nil (ended : c.rest = []) : c.peek = none := by
  rw [peek, ended]
  rfl

theorem rest_next (c : Cursor) : c.next.rest = c.rest.tail := by
  obtain ⟨s, line, column⟩ := c
  cases s with
  | nil => rfl
  | cons b t =>
      rw [next]
      dsimp only
      split <;> rfl

theorem rest_skip (c : Cursor) (n : Nat) : (c.skip n).rest = c.rest.drop n := by
  induction n generalizing c with
  | zero => rfl
  | succ n ih => rw [skip, ih, rest_next, List.drop_tail, Nat.add_comm]

theorem rest_skipBlanks (c : Cursor) : c.skipBlanks.rest = c.rest.dropWhile isBlank := by
  rw [skipBlanks, rest_skip]
  generalize c.rest = s
  induction s with
  | nil => rfl
  | cons b t ih =>
      cases blank : isBlank b with
      | false => simp [blank]
      | true => simpa [blank] using ih

end Cursor

/-- Bytes of a kind are taken up to the first that is not of it. -/
theorem takeWhile_of_last {p : UInt8 → Bool} (all : ∀ b ∈ s, p b)
    (last : ∀ b ∈ t.head?, p b = false) : (s ++ t).takeWhile p = s := by
  rw [List.takeWhile_append_of_pos all]
  cases t with
  | nil => simp
  | cons b more => simp [last b rfl]

/-- A text begins with any number of blanks. -/
inductive Blanks : List UInt8 → List UInt8 → Prop
  | none {s : List UInt8} : Blanks s s
  | more {b : UInt8} {s t : List UInt8} (blank : Cursor.isBlank b) (further : Blanks s t) :
      Blanks (b :: s) t

namespace Blanks

theorem dropWhile (blanks : Blanks s t) :
    s.dropWhile Cursor.isBlank = t.dropWhile Cursor.isBlank := by
  induction blanks with
  | none => rfl
  | more blank further ih => rw [List.dropWhile_cons_of_pos blank, ih]

theorem of_eq (same : s = t) : Blanks s t := same ▸ none

/-- In front of a visible byte there are none. -/
theorem eq_of_visible (blanks : Blanks (b :: s) t) (visible : Cursor.isBlank b = false) :
    t = b :: s := by
  cases blanks with
  | none => rfl
  | more blank further =>
      rw [visible] at blank
      cases blank

theorem of_dropWhile (s : List UInt8) : Blanks s (s.dropWhile Cursor.isBlank) := by
  induction s with
  | nil => exact .none
  | cons b t ih =>
      by_cases blank : Cursor.isBlank b = true
      · rw [List.dropWhile_cons_of_pos blank]
        exact .more blank ih
      · rw [List.dropWhile_cons_of_neg blank]
        exact .none

theorem rest_skipBlanks (blanks : Blanks c.rest (b :: t)) (visible : Cursor.isBlank b = false) :
    c.skipBlanks.rest = b :: t := by
  rw [Cursor.rest_skipBlanks, blanks.dropWhile, List.dropWhile_cons_of_neg (by simp [visible])]

end Blanks

/-! ## Answers -/

namespace Scan

/-- How a scan ends from a place on: with an answer and what is left of the text, or with a
fault. -/
def Yields (scan : Scan α) (c : Cursor) : Option α → List UInt8 → Prop
  | some a, rest => ∃ c', scan.run c = .ok (a, c') ∧ c'.rest = rest
  | none, _ => ∃ failure, scan.run c = .error failure

variable {scan : Scan α} {next : α → Scan β} {answer : Option α} {a : α}

theorem run_bind (scan : Scan α) (next : α → Scan β) (c : Cursor) :
    (scan >>= next).run c = match scan.run c with
      | .ok (a, c') => (next a).run c'
      | .error failure => .error failure := by
  rw [StateT.run_bind]
  cases scan.run c <;> rfl

theorem Yields.congr {other : Scan α} {c' : Cursor} (same : scan.run c = other.run c') :
    scan.Yields c answer rest ↔ other.Yields c' answer rest := by
  cases answer <;> simp only [Yields, same]

theorem yields_pure (a : α) (at' : c.rest = rest) : (pure a : Scan α).Yields c (some a) rest :=
  ⟨c, rfl, at'⟩

theorem Yields.then {answer' : Option β} {rest' : List UInt8}
    (yields : scan.Yields c (some a) rest)
    (then' : ∀ c', c'.rest = rest → (next a).Yields c' answer' rest') :
    (scan >>= next).Yields c answer' rest' := by
  obtain ⟨c', run, at'⟩ := yields
  have same : (scan >>= next).run c = (next a).run c' := by rw [run_bind, run]
  rw [congr same]
  exact then' c' at'

theorem Yields.fail (yields : scan.Yields c none rest) : (scan >>= next).Yields c none rest := by
  obtain ⟨failure, run⟩ := yields
  exact ⟨failure, by rw [run_bind, run]⟩

/-- What comes after an answer decides, and after a fault nothing does. -/
theorem Yields.bind {answer' : α → Option β} {rest' : List UInt8}
    (yields : scan.Yields c answer rest)
    (then' : ∀ a c', answer = some a → c'.rest = rest → (next a).Yields c' (answer' a) rest') :
    (scan >>= next).Yields c (answer.bind answer') rest' := by
  cases answer with
  | none => exact yields.fail
  | some a => exact yields.then fun c' at' => then' a c' rfl at'

theorem Yields.map (yields : scan.Yields c answer rest) (f : α → β) :
    (f <$> scan).Yields c (answer.map f) rest := by
  rw [map_eq_pure_bind, Option.map_eq_bind]
  exact yields.bind fun a c' _ at' => yields_pure (f a) at'

theorem yields_failHere (fault : Fault) : (failHere fault : Scan α).Yields c none rest :=
  ⟨_, rfl⟩

theorem map_failHere (f : α → β) (fault : Fault) :
    f <$> (failHere fault : Scan α) = failHere fault := rfl

theorem yields_failAhead (fault : Fault) : (failAhead fault : Scan α).Yields c none rest :=
  ⟨_, rfl⟩

/-- A scan that ends with a fault wherever it begins. -/
def Fails (scan : Scan α) : Prop := ∀ c rest, scan.Yields c none rest

theorem fails_failHere (fault : Fault) : (failHere fault : Scan α).Fails := fun _ _ =>
  yields_failHere fault

theorem fails_failAhead (fault : Fault) : (failAhead fault : Scan α).Fails := fun _ _ =>
  yields_failAhead fault

/-- A scan fails if what comes last does. -/
theorem fails_bind (scan : Scan α) (fails : ∀ a, (next a).Fails) : (scan >>= next).Fails := by
  intro c rest
  rcases run : scan.run c with failure | ⟨a, c'⟩
  · exact ⟨failure, by rw [run_bind, run]⟩
  · obtain ⟨failure, run'⟩ := fails a c' rest
    exact ⟨failure, by rw [run_bind, run]; exact run'⟩

/-! ## Single bytes -/

theorem bind_get {next : Cursor → Scan β} {answer : Option β}
    (then' : (next c).Yields c answer rest) : (get >>= next : Scan β).Yields c answer rest := then'

theorem yields_advance (at' : c.rest = b :: t) : advance.Yields c (some ()) t :=
  ⟨c.next, rfl, by rw [Cursor.rest_next, at', List.tail_cons]⟩

theorem bind_advance {next : Unit → Scan β} {answer : Option β} (at' : c.rest = b :: t)
    (then' : ∀ c', c'.rest = t → (next ()).Yields c' answer rest) :
    (advance >>= next).Yields c answer rest :=
  (yields_advance at').then then'

theorem bind_skip {next : Unit → Scan β} {answer : Option β} (at' : c.rest = s ++ t)
    (then' : ∀ c', c'.rest = t → (next ()).Yields c' answer rest) :
    ((modify fun c => c.skip s.length : Scan Unit) >>= next).Yields c answer rest := by
  apply then' (c.skip s.length)
  rw [Cursor.rest_skip, at', List.drop_left]

/-- Behind blanks the next byte is seen. -/
theorem yields_peek {ch : Char} (blanks : Blanks c.rest (b :: t))
    (visible : Cursor.isBlank b = false) (is : charOf b = ch) :
    peek.Yields c (some (some ch)) (b :: t) := by
  have at' := blanks.rest_skipBlanks visible
  refine ⟨c.skipBlanks, ?_, at'⟩
  show Except.ok (c.skipBlanks.peek, c.skipBlanks) = _
  rw [Cursor.peek_of_cons at', is]

theorem yields_peek_of_nil (blanks : Blanks c.rest []) : peek.Yields c (some none) [] := by
  have at' : c.skipBlanks.rest = [] := by
    rw [Cursor.rest_skipBlanks, blanks.dropWhile]
    rfl
  refine ⟨c.skipBlanks, ?_, at'⟩
  show Except.ok (c.skipBlanks.peek, c.skipBlanks) = _
  rw [Cursor.peek_of_nil at']

theorem bind_peek {next : Option Char → Scan β} {answer : Option β} {ch : Char}
    (blanks : Blanks c.rest (b :: t)) (visible : Cursor.isBlank b = false) (is : charOf b = ch)
    (then' : ∀ c', c'.rest = b :: t → (next (some ch)).Yields c' answer rest) :
    (peek >>= next).Yields c answer rest :=
  (yields_peek blanks visible is).then then'

/-- A word of the expected bytes is read. -/
theorem yields_word (bytes : List UInt8) (at' : c.rest = bytes ++ rest) :
    (word (bytes.map charOf)).Yields c (some ()) rest := by
  induction bytes generalizing c with
  | nil => exact yields_pure () at'
  | cons b bytes ih =>
      rw [List.map_cons, word]
      apply bind_get
      rw [Cursor.peek_of_cons at']
      apply bind_advance at'
      intro c' at''
      rw [if_pos rfl]
      exact ih at''

end Scan

end SceneBench.Json
