import TestAtlas.Text.Utf8

/-!
Text that was written as UTF-8 is read back, character by character and
whatever follows. Only the character of number zero is written with a zero byte.
-/

namespace TestAtlas
namespace Utf8

theorem Lead.ofByte?_one {b : UInt8} (h : b.toNat < 0x80) :
    Lead.ofByte? b = some ⟨0, 0x80, 0xBF, b.toNat⟩ := by
  rw [ofByte?, if_pos (UInt8.lt_iff_toNat_lt.mpr h)]

theorem Lead.ofByte?_two {b : UInt8} (low : 0xC2 ≤ b.toNat) (high : b.toNat < 0xE0) :
    Lead.ofByte? b = some ⟨1, 0x80, 0xBF, b.toNat - 0xC0⟩ := by
  simp only [ofByte?, UInt8.lt_iff_toNat_lt, UInt8.reduceToNat]
  rw [if_neg (by omega), if_neg (by omega), if_pos high]

theorem Lead.ofByte?_three {b : UInt8} (low : 0xE0 ≤ b.toNat) (high : b.toNat < 0xF0) :
    Lead.ofByte? b = some ⟨2, if b.toNat = 0xE0 then 0xA0 else 0x80,
      if b.toNat = 0xED then 0x9F else 0xBF, b.toNat - 0xE0⟩ := by
  simp only [ofByte?, UInt8.lt_iff_toNat_lt, ← UInt8.toNat_inj, UInt8.reduceToNat]
  rw [if_neg (by omega), if_neg (by omega), if_neg (by omega)]
  by_cases first : b.toNat = 0xE0
  · simp [first]
  · by_cases last : b.toNat = 0xED
    · simp [last]
    · rw [if_neg first, if_neg last, if_pos high, if_neg first, if_neg last]

theorem Lead.ofByte?_four {b : UInt8} (low : 0xF0 ≤ b.toNat) (high : b.toNat ≤ 0xF4) :
    Lead.ofByte? b = some ⟨3, if b.toNat = 0xF0 then 0x90 else 0x80,
      if b.toNat = 0xF4 then 0x8F else 0xBF, b.toNat - 0xF0⟩ := by
  simp only [ofByte?, UInt8.lt_iff_toNat_lt, ← UInt8.toNat_inj, UInt8.reduceToNat]
  rw [if_neg (by omega), if_neg (by omega), if_neg (by omega), if_neg (by omega),
    if_neg (by omega), if_neg (by omega)]
  by_cases first : b.toNat = 0xF0
  · simp [first]
  · by_cases last : b.toNat = 0xF4
    · simp [last]
    · rw [if_neg first, if_pos (by omega), if_neg first, if_neg last]

theorem continuation_cons {n bits : Nat} {low high b : UInt8} (hl : low.toNat ≤ b.toNat)
    (hh : b.toNat ≤ high.toNat) (rest : Bytes) :
    continuation (n + 1) low high bits (b :: rest) =
      continuation n 0x80 0xBF (bits * 64 + (b.toNat - 0x80)) rest := by
  rw [continuation, if_pos ⟨UInt8.le_iff_toNat_le.mpr hl, UInt8.le_iff_toNat_le.mpr hh⟩]

theorem chars_cons {b : UInt8} {lead : Lead} (h : Lead.ofByte? b = some lead) (rest : Bytes) :
    chars (b :: rest) =
      (continuation lead.following lead.low lead.high lead.bits rest).1 ::
        chars (continuation lead.following lead.low lead.high lead.bits rest).2 := by
  rw [chars]
  simp only [h]

theorem toNat_ofNat {n : Nat} (h : n < 256) : (UInt8.ofNat n).toNat = n := by
  rw [UInt8.toNat_ofNat', Nat.mod_eq_of_lt h]

/-- The numbers of characters leave out the surrogates. -/
theorem toNat_isValid (c : Char) : c.toNat < 0xD800 ∨ 0xDFFF < c.toNat ∧ c.toNat < 0x110000 :=
  c.valid

theorem chars_one {v : Nat} (h : v ≤ 0x7F) (rest : Bytes) :
    chars (UInt8.ofNat v :: rest) = Char.ofNat v :: chars rest := by
  have byte := toNat_ofNat (n := v) (by omega)
  rw [chars_cons (Lead.ofByte?_one (by omega))]
  simp only [continuation, byte]

theorem chars_two {v : Nat} (low : 0x7F < v) (high : v ≤ 0x7FF) (rest : Bytes) :
    chars (UInt8.ofNat (v / 64 % 0x20 + 0xC0) :: UInt8.ofNat (v % 0x40 + 0x80) :: rest) =
      Char.ofNat v :: chars rest := by
  have first := toNat_ofNat (n := v / 64 % 0x20 + 0xC0) (by omega)
  have second := toNat_ofNat (n := v % 0x40 + 0x80) (by omega)
  rw [chars_cons (Lead.ofByte?_two (by omega) (by omega))]
  dsimp only
  rw [continuation_cons (by rw [second]; exact Nat.le_add_left ..)
    (by rw [second]; change _ ≤ 0xBF; omega), continuation, first, second]
  have value : (v / 64 % 0x20 + 0xC0 - 0xC0) * 64 + (v % 0x40 + 0x80 - 0x80) = v := by omega
  rw [value]

theorem chars_three {v : Nat} (low : 0x7FF < v) (high : v ≤ 0xFFFF)
    (valid : v < 0xD800 ∨ 0xDFFF < v) (rest : Bytes) :
    chars (UInt8.ofNat (v / 4096 % 0x10 + 0xE0) :: UInt8.ofNat (v / 64 % 0x40 + 0x80) ::
      UInt8.ofNat (v % 0x40 + 0x80) :: rest) = Char.ofNat v :: chars rest := by
  have first := toNat_ofNat (n := v / 4096 % 0x10 + 0xE0) (by omega)
  have second := toNat_ofNat (n := v / 64 % 0x40 + 0x80) (by omega)
  have third := toNat_ofNat (n := v % 0x40 + 0x80) (by omega)
  rw [chars_cons (Lead.ofByte?_three (by omega) (by omega))]
  dsimp only
  -- The bounds of the second byte exclude overlong forms and surrogates.
  rw [continuation_cons (by rw [first, second]; split <;> simp only [UInt8.reduceToNat] <;> omega)
    (by rw [first, second]; split <;> simp only [UInt8.reduceToNat] <;> omega),
    continuation_cons (by rw [third]; exact Nat.le_add_left ..)
      (by rw [third]; change _ ≤ 0xBF; omega), continuation, first, second, third]
  have value : ((v / 4096 % 0x10 + 0xE0 - 0xE0) * 64 + (v / 64 % 0x40 + 0x80 - 0x80)) * 64 +
      (v % 0x40 + 0x80 - 0x80) = v := by omega
  rw [value]

theorem chars_four {v : Nat} (low : 0xFFFF < v) (high : v < 0x110000) (rest : Bytes) :
    chars (UInt8.ofNat (v / 262144 % 0x08 + 0xF0) :: UInt8.ofNat (v / 4096 % 0x40 + 0x80) ::
      UInt8.ofNat (v / 64 % 0x40 + 0x80) :: UInt8.ofNat (v % 0x40 + 0x80) :: rest) =
      Char.ofNat v :: chars rest := by
  have first := toNat_ofNat (n := v / 262144 % 0x08 + 0xF0) (by omega)
  have second := toNat_ofNat (n := v / 4096 % 0x40 + 0x80) (by omega)
  have third := toNat_ofNat (n := v / 64 % 0x40 + 0x80) (by omega)
  have fourth := toNat_ofNat (n := v % 0x40 + 0x80) (by omega)
  rw [chars_cons (Lead.ofByte?_four (by omega) (by omega))]
  dsimp only
  rw [continuation_cons (by rw [first, second]; split <;> simp only [UInt8.reduceToNat] <;> omega)
    (by rw [first, second]; split <;> simp only [UInt8.reduceToNat] <;> omega),
    continuation_cons (by rw [third]; exact Nat.le_add_left ..)
      (by rw [third]; change _ ≤ 0xBF; omega),
    continuation_cons (by rw [fourth]; exact Nat.le_add_left ..)
      (by rw [fourth]; change _ ≤ 0xBF; omega),
    continuation, first, second, third, fourth]
  have value : (((v / 262144 % 0x08 + 0xF0 - 0xF0) * 64 + (v / 4096 % 0x40 + 0x80 - 0x80)) * 64 +
      (v / 64 % 0x40 + 0x80 - 0x80)) * 64 + (v % 0x40 + 0x80 - 0x80) = v := by omega
  rw [value]

theorem chars_encodeChar (c : Char) (rest : Bytes) :
    chars (String.utf8EncodeChar c ++ rest) = c :: chars rest := by
  have valid := toNat_isValid c
  have whole : Char.ofNat c.val.toNat = c := Char.ofNat_toNat c
  change c.val.toNat < _ ∨ _ < c.val.toNat ∧ c.val.toNat < _ at valid
  rw [String.utf8EncodeChar]
  simp only [List.cons_append, List.nil_append, apply_ite (· ++ rest)]
  split
  · rename_i one
    rw [chars_one one, whole]
  · split
    · rename_i two
      rw [chars_two (by omega) two, whole]
    · split
      · rename_i three
        rw [chars_three (by omega) three (by omega), whole]
      · rw [chars_four (by omega) (by omega), whole]

theorem chars_flatMap_encodeChar (text : List Char) :
    chars (text.flatMap String.utf8EncodeChar) = text := by
  induction text with
  | nil => rw [List.flatMap_nil, chars]
  | cons c rest ih => rw [List.flatMap_cons, chars_encodeChar, ih]

@[simp] theorem decode_encode (text : String) : decode (encode text) = text := by
  rw [decode, encode, chars_flatMap_encodeChar, String.ofList_toList]

theorem zero_mem_encodeChar {c : Char} (h : 0 ∈ String.utf8EncodeChar c) : c = '\x00' := by
  have valid := toNat_isValid c
  have whole : Char.ofNat c.val.toNat = c := Char.ofNat_toNat c
  change c.val.toNat < _ ∨ _ < c.val.toNat ∧ c.val.toNat < _ at valid
  have zero {n : Nat} (small : n < 256) (byte : 0 = UInt8.ofNat n) : n = 0 := by
    have value := congrArg UInt8.toNat byte
    rw [toNat_ofNat small] at value
    exact value.symm
  rw [String.utf8EncodeChar] at h
  split at h
  · rw [← whole, zero (by omega) (List.mem_singleton.mp h)]
  · split at h
    · simp only [List.mem_cons, List.not_mem_nil, or_false] at h
      rcases h with h | h <;> have := zero (by omega) h <;> omega
    · split at h
      · simp only [List.mem_cons, List.not_mem_nil, or_false] at h
        rcases h with h | h | h <;> have := zero (by omega) h <;> omega
      · simp only [List.mem_cons, List.not_mem_nil, or_false] at h
        rcases h with h | h | h | h <;> have := zero (by omega) h <;> omega

/-- Text without the character of number zero is written without zero bytes. -/
theorem zero_not_mem_encode {text : String} (h : '\x00' ∉ text.toList) : 0 ∉ encode text := by
  intro member
  obtain ⟨c, inside, zero⟩ := List.mem_flatMap.mp member
  exact h (zero_mem_encodeChar zero ▸ inside)

/-- A text that ends with a zero byte is found at its offset. -/
theorem decodeAt_append {text : String} (h : '\x00' ∉ text.toList) (before after : Bytes) :
    decodeAt (before ++ (encode text ++ 0 :: after)) before.length = text := by
  have plain : ∀ b ∈ encode text, (b != 0) = true := fun b hb => by
    rw [bne_iff_ne]
    rintro rfl
    exact zero_not_mem_encode h hb
  rw [decodeAt, List.drop_left, List.takeWhile_append_of_pos plain]
  change decode (encode text ++ []) = text
  rw [List.append_nil, decode_encode]

end Utf8
end TestAtlas
