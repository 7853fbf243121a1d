import SceneBench.Storage.Utf8

/-!
# Encoded text is read back

A character is encoded as one to four bytes. Where a character begins, its bytes take the decoder
back to where a character begins, with that character added and nothing left pending: the ranges
that are narrowed after some first bytes keep out no character. So text that was encoded has no
broken piece, and is read back as it was.
-/

namespace SceneBench.Utf8

/-! ## Bytes of a text -/

/-- The bytes of an array in order; the loop goes from a position to the end. -/
theorem toList_loop_eq (bytes : ByteArray) (i : Nat) (before : List UInt8) :
    ByteArray.toList.loop bytes i before = before.reverse ++ bytes.data.toList.drop i := by
  fun_induction ByteArray.toList.loop bytes i before with
  | case1 i before inside ih =>
      have inside' : i < bytes.data.toList.length := inside
      rw [ih, List.drop_eq_getElem_cons inside', List.reverse_cons, List.append_assoc]
      congr 2
      simp [ByteArray.get!, getElem!_pos bytes.data i inside]
  | case2 i before outside =>
      have outside' : bytes.data.toList.length ≤ i := Nat.le_of_not_lt outside
      rw [List.drop_eq_nil_of_le outside', List.append_nil]

/-- A text is encoded character by character. -/
theorem encode_eq (text : String) : encode text = text.toList.flatMap String.utf8EncodeChar := by
  have bytes : text.toUTF8 = (text.toList.flatMap String.utf8EncodeChar).toByteArray := by
    rw [String.toUTF8_eq_toByteArray, ← List.utf8Encode, ← String.toByteArray_ofList,
      String.ofList_toList]
  rw [encode, bytes, ByteArray.toList, toList_loop_eq, List.toList_data_toByteArray]
  rfl

/-! ## One character -/

/-! What the first byte of a character says, by how many bytes there are. -/

theorem lead_of_one : ∀ v < 128, lead (UInt8.ofNat v) = .character (Char.ofNat v) := by decide

theorem lead_of_two :
    ∀ n < 32, 2 ≤ n → lead (UInt8.ofNat (n + 192)) = .beginning ⟨0x80, 0xBF, 0, n⟩ := by decide

theorem lead_of_three :
    ∀ n < 16, lead (UInt8.ofNat (n + 224)) =
      .beginning ⟨if n = 0 then 0xA0 else 0x80, if n = 13 then 0x9F else 0xBF, 1, n⟩ := by decide

theorem lead_of_four :
    ∀ n < 5, lead (UInt8.ofNat (n + 240)) =
      .beginning ⟨if n = 0 then 0x90 else 0x80, if n = 4 then 0x8F else 0xBF, 2, n⟩ := by decide

namespace Decoder

variable {latest : List Char} {p : Pending} {n further bits : Nat} {least greatest : UInt8}

theorem step_of_beginning {b : UInt8} (begins : lead b = .beginning p) :
    step ⟨latest, none⟩ b = ⟨latest, some p⟩ := by
  simp only [step, fresh, begins]

/-- A byte in the range that is pending is taken. -/
theorem inside_of_pending (low : n < 64) (above : least.toNat ≤ n + 128)
    (below : n + 128 ≤ greatest.toNat) :
    (least ≤ UInt8.ofNat (n + 128) ∧ UInt8.ofNat (n + 128) ≤ greatest) ∧
      (UInt8.ofNat (n + 128)).toNat - 0x80 = n := by
  have byte : (UInt8.ofNat (n + 128)).toNat = n + 128 := by
    rw [UInt8.toNat_ofNat', Nat.mod_eq_of_lt (by omega)]
  rw [UInt8.le_iff_toNat_le, UInt8.le_iff_toNat_le, byte]
  exact ⟨⟨above, below⟩, Nat.add_sub_cancel ..⟩

/-- Such a byte goes on with the character that is pending. -/
theorem step_of_further (low : n < 64) (above : least.toNat ≤ n + 128)
    (below : n + 128 ≤ greatest.toNat) :
    step ⟨latest, some ⟨least, greatest, further + 1, bits⟩⟩ (UInt8.ofNat (n + 128)) =
      ⟨latest, some ⟨0x80, 0xBF, further, bits * 64 + n⟩⟩ := by
  obtain ⟨inside, value⟩ := inside_of_pending low above below
  simp only [step, if_pos inside, value]

/-- The last such byte ends it. -/
theorem step_of_last (low : n < 64) (above : least.toNat ≤ n + 128)
    (below : n + 128 ≤ greatest.toNat) :
    step ⟨latest, some ⟨least, greatest, 0, bits⟩⟩ (UInt8.ofNat (n + 128)) =
      ⟨Char.ofNat (bits * 64 + n) :: latest, none⟩ := by
  obtain ⟨inside, value⟩ := inside_of_pending low above below
  simp only [step, if_pos inside, value]

/-- The bytes of a character are read as that character. -/
theorem foldl_step_encodeChar (latest : List Char) (c : Char) :
    (String.utf8EncodeChar c).foldl step ⟨latest, none⟩ = ⟨c :: latest, none⟩ := by
  obtain ⟨v, number⟩ : ∃ v, v = c.val.toNat := ⟨_, rfl⟩
  have back : Char.ofNat v = c := by
    rw [number]
    exact Char.ofNat_toNat c
  have valid : v < 0xD800 ∨ 0xDFFF < v ∧ v < 0x110000 := by
    rw [number]
    exact c.valid
  have bounds : (0x80 : UInt8).toNat = 128 ∧ (0xBF : UInt8).toNat = 191 := by decide
  have middle : (v / 64 % 64) < 64 := Nat.mod_lt _ (by decide)
  have last : v % 64 < 64 := Nat.mod_lt _ (by decide)
  rw [String.utf8EncodeChar, ← number, ← back]
  split
  · rw [List.foldl_cons, List.foldl_nil, step, fresh, lead_of_one v (by omega)]
  split
  · rw [Nat.mod_eq_of_lt (by omega : v / 64 < 32)]
    simp only [List.foldl_cons, List.foldl_nil]
    rw [step_of_beginning (lead_of_two _ (by omega) (by omega)),
      step_of_last last (by omega) (by omega), Nat.div_add_mod']
  split
  · have whole : (v / 4096 * 64 + v / 64 % 64) * 64 + v % 64 = v := by omega
    rw [Nat.mod_eq_of_lt (by omega : v / 4096 < 16)]
    simp only [List.foldl_cons, List.foldl_nil]
    rw [step_of_beginning (lead_of_three _ (by omega)), step_of_further middle ?_ ?_,
      step_of_last last (by omega) (by omega), whole]
    · -- not the long form of a shorter character
      split
      · show 160 ≤ _
        omega
      · omega
    · -- not half of a pair
      split
      · show _ ≤ 159
        omega
      · omega
  · have whole :
        ((v / 262144 * 64 + v / 4096 % 64) * 64 + v / 64 % 64) * 64 + v % 64 = v := by omega
    rw [Nat.mod_eq_of_lt (by omega : v / 262144 < 8)]
    have first : v / 4096 % 64 < 64 := Nat.mod_lt _ (by decide)
    simp only [List.foldl_cons, List.foldl_nil]
    rw [step_of_beginning (lead_of_four _ (by omega)), step_of_further first ?_ ?_,
      step_of_further middle (by omega) (by omega), step_of_last last (by omega) (by omega),
      whole]
    · split
      · show 144 ≤ _
        omega
      · omega
    · split
      · show _ ≤ 143
        omega
      · omega

/-- And so are the bytes of many characters. -/
theorem foldl_step_encodeChars (latest chars : List Char) :
    (chars.flatMap String.utf8EncodeChar).foldl step ⟨latest, none⟩ =
      ⟨chars.reverse ++ latest, none⟩ := by
  induction chars generalizing latest with
  | nil => rfl
  | cons c chars ih =>
      rw [List.flatMap_cons, List.foldl_append, foldl_step_encodeChar, ih, List.reverse_cons,
        List.append_assoc]
      rfl

end Decoder

/-- Text is read back as it was encoded. -/
theorem decodeLossy_encode (text : String) : decodeLossy (encode text) = text := by
  rw [decodeLossy, encode_eq, Decoder.foldl_step_encodeChars, Decoder.finish, List.append_nil,
    List.reverse_reverse, String.ofList_toList]

end SceneBench.Utf8
