import SceneBench.Proofs.Record.RoundTrip
import SceneBench.Routine.ContentFile
import SceneBench.Storage.Disk.Host

/-!
# The format of content files

A content file is its records one after the other and nothing besides, so its length is a multiple
of a record's, and every run of bytes of such a length is the content of exactly one list of
records. Decoding a reading accepts just these, provided that the reading is complete, and undoes
encoding there, whatever the words of the records are.
-/

namespace SceneBench

/-! ## Where a byte stands -/

/-- In a run of pieces of one size, a place is found by its piece and its place in the piece. -/
theorem getElem?_flatMap_of_length {α β : Type} {pieces : α → List β} {size : Nat}
    (uniform : ∀ x, (pieces x).length = size) {xs : List α} {i : Nat} {x : α}
    (here : xs[i]? = some x) {k : Nat} (inside : k < size) :
    (xs.flatMap pieces)[size * i + k]? = (pieces x)[k]? := by
  induction xs generalizing i with
  | nil => simp at here
  | cons y xs ih =>
      rw [List.flatMap_cons]
      cases i with
      | zero =>
          obtain rfl : y = x := by simpa using here
          rw [Nat.mul_zero, Nat.zero_add, List.getElem?_append_left (by rwa [uniform])]
      | succ i =>
          have past : (pieces y).length ≤ size * (i + 1) + k := by
            rw [uniform, Nat.mul_succ]
            omega
          have rest : size * (i + 1) + k - (pieces y).length = size * i + k := by
            rw [uniform, Nat.mul_succ]
            omega
          rw [List.getElem?_append_right past, rest]
          exact ih (by simpa using here)

/-- The bytes of a word are its digits to the base of 256, lowest first. -/
theorem Scalar.getElem?_encode (a : Scalar) {k : Nat} (inside : k < 4) :
    a.encode[k]? = some (.ofNat (a.bits.toNat / 256 ^ k)) := by
  have byte : ∀ shifted : UInt32, shifted.toNat = a.bits.toNat / 256 ^ k →
      some shifted.toUInt8 = some (.ofNat (a.bits.toNat / 256 ^ k)) := by
    intro shifted digit
    rw [← digit]
    exact congrArg some (UInt8.toNat_inj.mp (by simp))
  match k, inside with
  | 0, _ => exact byte a.bits (by simp)
  | 1, _ => exact byte (a.bits >>> 8) (by simp [Nat.shiftRight_eq_div_pow])
  | 2, _ => exact byte (a.bits >>> 16) (by simp [Nat.shiftRight_eq_div_pow])
  | 3, _ => exact byte (a.bits >>> 24) (by simp [Nat.shiftRight_eq_div_pow])

/-- A byte of a record is a byte of one of its words. -/
theorem BoxRecord.getElem?_encode {b : BoxRecord} {j : Nat} {a : Scalar}
    (word : b.words[j]? = some a) {k : Nat} (inside : k < 4) :
    b.encode[4 * j + k]? = some (.ofNat (a.bits.toNat / 256 ^ k)) := by
  rw [encode, getElem?_flatMap_of_length Scalar.length_encode word inside,
    a.getElem?_encode inside]

theorem getElem?_encodeRecords {boxes : List BoxRecord} {i : Nat} {b : BoxRecord}
    (record : boxes[i]? = some b) {j : Nat} {a : Scalar} (word : b.words[j]? = some a) {k : Nat}
    (inside : k < 4) :
    (encodeRecords boxes)[80 * i + (4 * j + k)]? = some (.ofNat (a.bits.toNat / 256 ^ k)) := by
  have last : j < 20 := (List.getElem?_eq_some_iff.mp word).1
  have within : 4 * j + k < BoxRecord.size := by
    rw [BoxRecord.size]
    omega
  rw [← BoxRecord.getElem?_encode word inside]
  exact getElem?_flatMap_of_length BoxRecord.length_encode record within

/-! ## Bytes come back -/

namespace Scalar

/-- Four bytes put into their places of a word can be taken out of it again. -/
theorem bytes_or (a b c d : BitVec 8) :
    let word := a.setWidth 32 ||| b.setWidth 32 <<< 8 ||| c.setWidth 32 <<< 16 |||
      d.setWidth 32 <<< 24
    word.setWidth 8 = a ∧ (word >>> 8).setWidth 8 = b ∧ (word >>> 16).setWidth 8 = c ∧
      (word >>> 24).setWidth 8 = d := by
  have beyondA := a.getLsbD_of_ge
  have beyondB := b.getLsbD_of_ge
  have beyondC := c.getLsbD_of_ge
  refine ⟨?_, ?_, ?_, ?_⟩
  all_goals
    refine BitVec.eq_of_getLsbD_eq fun i hi => ?_
    simp only [BitVec.getLsbD_or, BitVec.getLsbD_setWidth, BitVec.getLsbD_shiftLeft,
      BitVec.getLsbD_ushiftRight]
    grind

theorem encode_decode (a b c d : UInt8) : (decode a b c d).encode = [a, b, c, d] := by
  obtain ⟨first, second, third, fourth⟩ := bytes_or a.toBitVec b.toBitVec c.toBitVec d.toBitVec
  have lowest : (decode a b c d).bits.toUInt8 = a := UInt8.toBitVec_inj.mp first
  have low : ((decode a b c d).bits >>> 8).toUInt8 = b := UInt8.toBitVec_inj.mp second
  have high : ((decode a b c d).bits >>> 16).toUInt8 = c := UInt8.toBitVec_inj.mp third
  have highest : ((decode a b c d).bits >>> 24).toUInt8 = d := UInt8.toBitVec_inj.mp fourth
  rw [encode, lowest, low, high, highest]

end Scalar

/-- A run of bytes that words take up is the bytes of its words. -/
theorem flatMap_encode_decodeWords {count : Nat} {bytes : List UInt8}
    (whole : bytes.length = 4 * count) :
    (decodeWords bytes).length = count ∧ (decodeWords bytes).flatMap Scalar.encode = bytes := by
  induction count generalizing bytes with
  | zero =>
      obtain rfl := List.eq_nil_of_length_eq_zero whole
      exact ⟨rfl, rfl⟩
  | succ count ih =>
      match bytes, whole with
      | a :: b :: c :: d :: rest, whole =>
        simp only [List.length_cons, Nat.mul_succ, Nat.add_right_cancel_iff] at whole
        obtain ⟨length, back⟩ := ih whole
        rw [decodeWords, List.length_cons, length, List.flatMap_cons, back, Scalar.encode_decode]
        exact ⟨rfl, rfl⟩

namespace BoxRecord

theorem exists_ofWords? {words : List Scalar} (count : words.length = 20) :
    ∃ b, ofWords? words = some b ∧ b.words = words := by
  match words, count with
  | [_, _, _, _, _, _, _, _, _, _, _, _, _, _, _, _, _, _, _, _], _ => exact ⟨_, rfl, rfl⟩

/-- Every run of bytes of the size of a record is one. -/
theorem exists_decode? {bytes : List UInt8} (whole : bytes.length = size) :
    ∃ b, decode? bytes = some b ∧ b.encode = bytes := by
  have long : bytes.length = 4 * 20 := whole
  obtain ⟨count, back⟩ := flatMap_encode_decodeWords long
  obtain ⟨b, read, words⟩ := exists_ofWords? count
  exact ⟨b, read, by rw [encode, words, back]⟩

end BoxRecord

theorem exists_takeRecords {count : Nat} {bytes : List UInt8}
    (whole : bytes.length = count * BoxRecord.size) :
    ∃ boxes, takeRecords count bytes = some boxes ∧ encodeRecords boxes = bytes := by
  induction count generalizing bytes with
  | zero =>
      rw [Nat.zero_mul] at whole
      obtain rfl := List.eq_nil_of_length_eq_zero whole
      exact ⟨[], rfl, rfl⟩
  | succ count ih =>
      rw [Nat.succ_mul] at whole
      have one : (bytes.take BoxRecord.size).length = BoxRecord.size := by
        rw [List.length_take]
        omega
      have others : (bytes.drop BoxRecord.size).length = count * BoxRecord.size := by
        rw [List.length_drop]
        omega
      obtain ⟨first, read, front⟩ := BoxRecord.exists_decode? one
      obtain ⟨rest, reads, behind⟩ := ih others
      refine ⟨first :: rest, ?_, ?_⟩
      · rw [takeRecords, read, reads]
        rfl
      · rw [encodeRecords, List.flatMap_cons, front, ← encodeRecords, behind,
          List.take_append_drop]

/-- Bytes are the content of a list of records exactly when they are what it is encoded as. -/
theorem decodeRecords?_eq_some_iff {bytes : List UInt8} {boxes : List BoxRecord} :
    decodeRecords? bytes = some boxes ↔ encodeRecords boxes = bytes := by
  constructor
  · intro read
    unfold decodeRecords? at read
    split at read
    case isTrue whole =>
      have records : bytes.length = bytes.length / BoxRecord.size * BoxRecord.size :=
        (Nat.div_mul_cancel (Nat.dvd_of_mod_eq_zero whole)).symm
      obtain ⟨boxes', reads, back⟩ := exists_takeRecords records
      rwa [← Option.some.inj (reads.symm.trans read)]
    case isFalse => cases read
  · rintro rfl
    exact decodeRecords?_encodeRecords boxes

/-- Bytes are the content of some records exactly when they are as long as so many records. -/
theorem exists_decodeRecords?_iff {bytes : List UInt8} :
    (∃ boxes, decodeRecords? bytes = some boxes) ↔ BoxRecord.size ∣ bytes.length := by
  constructor
  · rintro ⟨boxes, read⟩
    rw [← decodeRecords?_eq_some_iff.mp read, length_encodeRecords]
    exact Nat.dvd_mul_left ..
  · intro whole
    obtain ⟨boxes, -, back⟩ := exists_takeRecords (Nat.div_mul_cancel whole).symm
    exact ⟨boxes, decodeRecords?_eq_some_iff.mpr back⟩

/-! ## Content files -/

namespace ContentFile

variable {file : Path} {reading : Reading} {σ : Type}

/-- What a file that could not be replaced means for scene content. -/
def saveFault (file : Path) : ReplaceFault → SceneError
  | .opening e => .file (.opening file e)
  | .writing e => .file (.writing file e)

/-- Saving content asks for nothing but the one replacement. -/
theorem save_eq (file : Path) (boxes : List BoxRecord) :
    save file boxes = .replaceFile file (encodeRecords boxes) fun answer =>
      pure (answer.mapError (saveFault file)) := by
  refine congrArg (Action.replaceFile file (encodeRecords boxes)) (funext fun answer => ?_)
  match answer with
  | .ok () => rfl
  | .error (.opening e) => rfl
  | .error (.writing e) => rfl

theorem decode_of_complete (complete : reading.ending = .complete) {boxes : List BoxRecord}
    (back : encodeRecords boxes = reading.bytes) : decode file reading = pure (.ok boxes) := by
  have whole : reading.isComplete = true := decide_eq_true complete
  rw [decode, if_pos whole, decodeRecords?_eq_some_iff.mpr back]

/-- A reading stands for records exactly when it is complete and they are encoded as its bytes. -/
theorem run_decode_eq_ok_iff {boxes : List BoxRecord} {host : Host σ} {w : World σ} :
    ((decode file reading).run host w).1 = .ok boxes ↔
      reading.ending = .complete ∧ encodeRecords boxes = reading.bytes := by
  constructor
  · intro ok
    unfold decode at ok
    split at ok
    case h_1 boxes' content =>
      obtain rfl : boxes' = boxes := Except.ok.inj ok
      obtain ⟨whole, read⟩ := Option.ite_none_right_eq_some.mp content
      exact ⟨of_decide_eq_true whole, decodeRecords?_eq_some_iff.mp read⟩
    case h_2 => cases ok
  · rintro ⟨complete, back⟩
    rw [decode_of_complete complete back]
    rfl

/-- A reading that stands for no records is reported with its length. -/
theorem run_decode_eq_error {host : Host σ} {w : World σ} {e : SceneError}
    (failed : ((decode file reading).run host w).1 = .error e) :
    e = .corruptContent file reading.bytes.length := by
  unfold decode at failed
  split at failed
  · cases failed
  · exact (Except.error.inj failed).symm

/-- Content files keep records bit for bit. What is written for some records is eighty bytes for
each of them, every word with its lowest byte first, and what was written is decoded to the same
records. Conversely a reading is decoded exactly when it is complete and made of whole records;
they encode to its bytes, and any other reading is corrupt content of its file and length. -/
theorem keeps_records (file : Path) :
    (∀ boxes : List BoxRecord,
      (save file boxes = .replaceFile file (encodeRecords boxes) fun answer =>
        pure (answer.mapError (saveFault file))) ∧
      (encodeRecords boxes).length = 80 * boxes.length ∧
      (∀ i b, boxes[i]? = some b → ∀ j a,
        [ b.low.x, b.low.y, b.low.z, b.moving, b.high.x, b.high.y, b.high.z, b.pad0,
          b.colour.x, b.colour.y, b.colour.z, b.pad1, b.start.x, b.start.y, b.start.z, b.pad2,
          b.finish.x, b.finish.y, b.finish.z, b.pad3 ][j]? = some a →
        ∀ k < 4, (encodeRecords boxes)[80 * i + (4 * j + k)]? =
          some (.ofNat (a.bits.toNat / 256 ^ k))) ∧
      decode file ⟨encodeRecords boxes, .complete⟩ = pure (.ok boxes)) ∧
    ∀ (reading : Reading) (σ : Type) (host : Host σ) (w : World σ),
      let result := ((decode file reading).run host w).1
      ((∃ boxes, result = .ok boxes) ↔
        reading.ending = .complete ∧ 80 ∣ reading.bytes.length) ∧
      (∀ boxes, result = .ok boxes → encodeRecords boxes = reading.bytes) ∧
      (∀ e, result = .error e → e = .corruptContent file reading.bytes.length) := by
  refine ⟨fun boxes => ⟨save_eq file boxes, ?_, ?_, decode_of_complete rfl rfl⟩, ?_⟩
  · rw [length_encodeRecords, Nat.mul_comm]
    rfl
  · intro i b record j a word k inside
    exact getElem?_encodeRecords record word inside
  · intro reading σ host w result
    refine ⟨?_, fun boxes ok => (run_decode_eq_ok_iff.mp ok).2, fun e => run_decode_eq_error⟩
    simp only [result, run_decode_eq_ok_iff, exists_and_left, ← decodeRecords?_eq_some_iff]
    exact and_congr_right fun _ => exists_decodeRecords?_iff

/-- A record whose padding is a number that is none, with a payload, comes back with it; and
seventeen bytes of a complete reading are corrupt. -/
theorem keeps_records_payload :
    let file : Path := ⟨"scene.bin"⟩
    let box : BoxRecord :=
      ⟨.zero, 0, .zero, ⟨0x7fc00102⟩, .zero, 0, .zero, 0, .zero, 0⟩
    let short : Reading := ⟨List.replicate 17 0, .complete⟩
    (encodeRecords [box])[28]? = some 2 ∧ (encodeRecords [box])[29]? = some 1 ∧
      decode file ⟨encodeRecords [box], .complete⟩ = pure (.ok [box]) ∧
      ((decode file short).run Disk.host ⟨.fresh, []⟩).1 = .error (.corruptContent file 17) := by
  intro file box short
  obtain ⟨encoded, decoded⟩ := keeps_records file
  obtain ⟨-, -, placed, back⟩ := encoded [box]
  have padding := placed 0 box rfl 7 ⟨0x7fc00102⟩ rfl
  refine ⟨padding 0 (by decide), padding 1 (by decide), back, ?_⟩
  obtain ⟨accepted, -, refused⟩ := decoded short Disk Disk.host ⟨.fresh, []⟩
  cases result : ((decode file short).run Disk.host ⟨.fresh, []⟩).1 with
  | ok boxes => exact absurd (accepted.mp ⟨boxes, result⟩).2 (by decide)
  | error e => rw [refused e result]; rfl

end ContentFile

end SceneBench
