import SceneBench.Record.Encoding

/-!
# Records come back

The bytes of scene content stand for exactly the records that they were made from, whatever the
words of the records are. Each word takes four bytes and each record eighty; a run of bytes is cut
where one record ends, so that content comes back record by record.
-/

namespace SceneBench

namespace Scalar

/-- The four bytes of a word, put back in their places, are the word: each bit is in one of them. -/
theorem or_bytes (v : BitVec 32) :
    (v.setWidth 8).setWidth 32 ||| ((v >>> 8).setWidth 8).setWidth 32 <<< 8 |||
      ((v >>> 16).setWidth 8).setWidth 32 <<< 16 ||| ((v >>> 24).setWidth 8).setWidth 32 <<< 24 =
      v := by
  refine BitVec.eq_of_getLsbD_eq fun i hi => ?_
  simp only [BitVec.getLsbD_or, BitVec.getLsbD_setWidth, BitVec.getLsbD_shiftLeft,
    BitVec.getLsbD_ushiftRight]
  grind

theorem decode_encode (a : Scalar) :
    decode a.bits.toUInt8 (a.bits >>> 8).toUInt8 (a.bits >>> 16).toUInt8 (a.bits >>> 24).toUInt8 =
      a :=
  congrArg mk (UInt32.toBitVec_inj.mp (or_bytes a.bits.toBitVec))

@[simp] theorem length_encode (a : Scalar) : a.encode.length = 4 := rfl

end Scalar

theorem decodeWords_encode_append (a : Scalar) (rest : List UInt8) :
    decodeWords (a.encode ++ rest) = a :: decodeWords rest := by
  rw [Scalar.encode]
  simp only [List.cons_append, List.nil_append, decodeWords, Scalar.decode_encode]

theorem decodeWords_flatMap (words : List Scalar) :
    decodeWords (words.flatMap Scalar.encode) = words := by
  induction words with
  | nil => rfl
  | cons a words ih => rw [List.flatMap_cons, decodeWords_encode_append, ih]

namespace BoxRecord

@[simp] theorem ofWords?_words (b : BoxRecord) : ofWords? b.words = some b := rfl

@[simp] theorem length_encode (b : BoxRecord) : b.encode.length = size := by
  simp [encode, words, Vec3.toList, size]

/-- A record comes back from its bytes. -/
@[simp] theorem decode?_encode (b : BoxRecord) : decode? b.encode = some b := by
  rw [decode?, encode, decodeWords_flatMap, ofWords?_words]

end BoxRecord

@[simp] theorem length_encodeRecords (boxes : List BoxRecord) :
    (encodeRecords boxes).length = boxes.length * BoxRecord.size := by
  simp [encodeRecords, List.length_flatMap, List.map_const']

/-- The records at the front of a run of bytes are cut off one by one. -/
theorem takeRecords_encodeRecords (boxes : List BoxRecord) :
    takeRecords boxes.length (encodeRecords boxes) = some boxes := by
  induction boxes with
  | nil => rfl
  | cons b boxes ih =>
      have cut : encodeRecords (b :: boxes) = b.encode ++ encodeRecords boxes := List.flatMap_cons
      rw [List.length_cons, takeRecords, cut, List.take_left' b.length_encode,
        List.drop_left' b.length_encode, BoxRecord.decode?_encode, ih]
      rfl

/-- Scene content comes back from its bytes. -/
theorem decodeRecords?_encodeRecords (boxes : List BoxRecord) :
    decodeRecords? (encodeRecords boxes) = some boxes := by
  have some_size : 0 < BoxRecord.size := by decide
  rw [decodeRecords?, length_encodeRecords, Nat.mul_mod_left, if_pos rfl,
    Nat.mul_div_cancel _ some_size, takeRecords_encodeRecords]

end SceneBench
