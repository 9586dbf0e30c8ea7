/-!
Numbers written with their least significant byte first, and the alignment of
offsets to four bytes. A number is read back from the bytes that are written
whenever it is below the number of values that they can spell, and bytes are what
is written for the number that is read.
-/

namespace TestAtlas

/-- A stretch of a file. -/
abbrev Bytes := List UInt8

namespace LittleEndian

/-- The number that the bytes spell. -/
def decode : Bytes → Nat
  | [] => 0
  | b :: rest => b.toNat + 256 * decode rest

/-- How many numbers `width` bytes can spell. -/
def limit (width : Nat) : Nat := Nat.pow 256 width

@[simp] theorem limit_zero : limit 0 = 1 := rfl

theorem limit_succ (width : Nat) : limit (width + 1) = limit width * 256 := rfl

/-- The `width` bytes that spell `n` modulo `limit width`. -/
def encode : Nat → Nat → Bytes
  | 0, _ => []
  | width + 1, n => UInt8.ofNat n :: encode width (n / 256)

/-- The signed number that `width` bytes spelling `n` stand for. -/
def signed (width n : Nat) : Int :=
  if n < limit width / 2 then n else (n : Int) - limit width

@[simp] theorem length_encode (width n : Nat) : (encode width n).length = width := by
  induction width generalizing n with
  | zero => rfl
  | succ width ih => simp [encode, ih]

theorem decode_encode {width n : Nat} (h : n < limit width) : decode (encode width n) = n := by
  induction width generalizing n with
  | zero => simp at h; simp [encode, decode, h]
  | succ width ih =>
      have hq : n / 256 < limit width := by
        rwa [Nat.div_lt_iff_lt_mul (by decide), ← limit_succ]
      simp only [encode, decode, ih hq, UInt8.toNat_ofNat']
      omega

theorem encode_decode {width : Nat} {bytes : Bytes} (h : bytes.length = width) :
    encode width (decode bytes) = bytes := by
  induction bytes generalizing width with
  | nil =>
      subst h
      rfl
  | cons b rest ih =>
      subst h
      have hb := b.toNat_lt
      have low : UInt8.ofNat (b.toNat + 256 * decode rest) = b := by
        rw [← UInt8.toNat_inj, UInt8.toNat_ofNat']
        omega
      have high : (b.toNat + 256 * decode rest) / 256 = decode rest := by omega
      simp only [List.length_cons, decode, encode, low, high, ih rfl]

theorem decode_lt {width : Nat} {bytes : Bytes} (h : bytes.length = width) :
    decode bytes < limit width := by
  induction bytes generalizing width with
  | nil =>
      subst h
      exact Nat.one_pos
  | cons b rest ih =>
      subst h
      have hb := b.toNat_lt
      have below := ih rfl
      simp only [decode, List.length_cons, limit_succ]
      omega

end LittleEndian

/-- The smallest multiple of four that is at least `n`. -/
def align4 (n : Int) : Int := (n + 3) / 4 * 4

/-- The size of a field of `n` bytes together with its padding. -/
def paddedSize (n : Nat) : Nat := (n + 3) / 4 * 4

theorem le_paddedSize (n : Nat) : n ≤ paddedSize n := by
  unfold paddedSize
  omega

/-- The `count` bytes of a file that start at `offset`, as far as the file has them. -/
def slice (file : Array UInt8) (offset count : Nat) : Bytes :=
  (file.extract offset (offset + count)).toList

theorem slice_eq_take_drop (file : Array UInt8) (offset count : Nat) :
    slice file offset count = (file.toList.drop offset).take count := by
  simp [slice]

end TestAtlas
