import TestAtlas.Bytes.LittleEndian

/-!
Text from bytes. Well-formed UTF-8 sequences become their characters; where the
bytes are not well formed, each longest beginning of a sequence, or else the
single byte, becomes one replacement character, so decoding never fails.
-/

namespace TestAtlas
namespace Utf8

/-- The character that stands for bytes that spell nothing. -/
def replacement : Char := '\uFFFD'

/-- What a first byte announces: how many bytes follow, the range of the next one,
and the leading bits of the character. -/
structure Lead where
  following : Nat
  low : UInt8
  high : UInt8
  bits : Nat

/-- The bounds of the second byte exclude overlong forms, surrogates and what lies past the
last character. -/
def Lead.ofByte? (b : UInt8) : Option Lead :=
  if b < 0x80 then some ⟨0, 0x80, 0xBF, b.toNat⟩
  else if b < 0xC2 then none
  else if b < 0xE0 then some ⟨1, 0x80, 0xBF, b.toNat - 0xC0⟩
  else if b = 0xE0 then some ⟨2, 0xA0, 0xBF, 0⟩
  else if b = 0xED then some ⟨2, 0x80, 0x9F, 0xD⟩
  else if b < 0xF0 then some ⟨2, 0x80, 0xBF, b.toNat - 0xE0⟩
  else if b = 0xF0 then some ⟨3, 0x90, 0xBF, 0⟩
  else if b < 0xF4 then some ⟨3, 0x80, 0xBF, b.toNat - 0xF0⟩
  else if b = 0xF4 then some ⟨3, 0x80, 0x8F, 4⟩
  else none

/-- Reads `following` more bytes of a sequence whose bits so far are `bits`; the next byte lies
between `low` and `high`. Gives the character, or the replacement at the first byte that does
not fit, and the bytes that were not used. -/
def continuation : (following : Nat) → (low high : UInt8) → (bits : Nat) → Bytes → Char × Bytes
  | 0, _, _, bits, rest => (Char.ofNat bits, rest)
  | _ + 1, _, _, _, [] => (replacement, [])
  | n + 1, low, high, bits, b :: rest =>
      if low ≤ b ∧ b ≤ high then
        continuation n 0x80 0xBF (bits * 64 + (b.toNat - 0x80)) rest
      else
        (replacement, b :: rest)

theorem length_continuation_le (n : Nat) (low high : UInt8) (bits : Nat) (bytes : Bytes) :
    (continuation n low high bits bytes).2.length ≤ bytes.length := by
  induction n generalizing low high bits bytes with
  | zero => simp [continuation]
  | succ n ih =>
      cases bytes with
      | nil => simp [continuation]
      | cons b rest =>
          simp only [continuation]
          split
          · exact Nat.le_succ_of_le (ih ..)
          · exact Nat.le_refl _

/-- The characters that the bytes spell. -/
def chars (bytes : Bytes) : List Char :=
  match bytes with
  | [] => []
  | b :: rest =>
      match Lead.ofByte? b with
      | none => replacement :: chars rest
      | some lead =>
          let next := continuation lead.following lead.low lead.high lead.bits rest
          next.1 :: chars next.2
termination_by bytes.length
decreasing_by
  · simp
  · simp only [List.length_cons]
    exact Nat.lt_succ_of_le (length_continuation_le ..)

/-- The text that the bytes spell. -/
def decode (bytes : Bytes) : String := String.ofList (chars bytes)

/-- The bytes that spell a text. -/
def encode (text : String) : Bytes := text.toList.flatMap String.utf8EncodeChar

/-- The bytes of a text that has only characters of the basic Latin block. -/
def ascii (text : String) : Bytes := text.toList.map fun c => UInt8.ofNat c.toNat

/-- The text that starts at `offset` and ends before the next zero byte or with the bytes. -/
def decodeAt (bytes : Bytes) (offset : Nat) : String :=
  decode ((bytes.drop offset).takeWhile (· != 0))

end Utf8
end TestAtlas
