import SceneBench.Record

/-!
# Records as bytes

On disk a record is its twenty words in order, each word as four bytes with the lowest first, and
scene content is its records one after the other. The format has no header and no separators: the
length alone says how many records there are, so content whose length is no multiple of a record's
stands for nothing.
-/

namespace SceneBench

/-- How many bytes a record takes. -/
def BoxRecord.size : Nat := 80

/-- The four bytes of a word, lowest first. -/
def Scalar.encode (a : Scalar) : List UInt8 :=
  [a.bits.toUInt8, (a.bits >>> 8).toUInt8, (a.bits >>> 16).toUInt8, (a.bits >>> 24).toUInt8]

/-- The word of four bytes, lowest first. -/
def Scalar.decode (a b c d : UInt8) : Scalar :=
  ⟨a.toUInt32 ||| (b.toUInt32 <<< 8) ||| (c.toUInt32 <<< 16) ||| (d.toUInt32 <<< 24)⟩

/-- The words of a run of bytes, and what is left over at its end. -/
def decodeWords : List UInt8 → List Scalar
  | a :: b :: c :: d :: rest => Scalar.decode a b c d :: decodeWords rest
  | _ => []

namespace BoxRecord

def encode (b : BoxRecord) : List UInt8 := b.words.flatMap Scalar.encode

/-- The record of eighty bytes. -/
def decode? (bytes : List UInt8) : Option BoxRecord := ofWords? (decodeWords bytes)

end BoxRecord

/-- The bytes of scene content. -/
def encodeRecords (boxes : List BoxRecord) : List UInt8 := boxes.flatMap BoxRecord.encode

/-- The first `count` records of a run of bytes. -/
def takeRecords : Nat → List UInt8 → Option (List BoxRecord)
  | 0, _ => some []
  | count + 1, bytes => do
    let first ← BoxRecord.decode? (bytes.take BoxRecord.size)
    let rest ← takeRecords count (bytes.drop BoxRecord.size)
    return first :: rest

/-- The records of scene content: none unless it is made of whole records. -/
def decodeRecords? (bytes : List UInt8) : Option (List BoxRecord) :=
  if bytes.length % BoxRecord.size = 0 then takeRecords (bytes.length / BoxRecord.size) bytes
  else none

end SceneBench
