import TestAtlas.Bytes.LittleEndian

/-!
Reading fields off the front of a byte string. A reader takes a prefix of the
bytes that are left and says why it stops when they run out: a record whose
fixed part is cut off names no sizes, a lone number, an array and a terminated
string name the bytes that were left and the bytes that were wanted.
-/

namespace TestAtlas

/-- Why binary input ends too early. -/
inductive ReadError where
  /-- The fixed part of a record is cut off. -/
  | record
  /-- A lone number, an array or a terminated string wants more than is left. -/
  | short (available wanted : Nat)
  deriving DecidableEq, Repr

namespace ReadError

def message : ReadError → String
  | record => ""
  | short available wanted => s!"Read {available} bytes, but expected {wanted}"

end ReadError

/-- Takes a value off the front of the bytes that are left. -/
abbrev Reader (α : Type) := StateT Bytes (Except ReadError) α

namespace Reader

/-- The next `count` bytes, or the error for the number of bytes that are left. -/
def chunk (count : Nat) (error : Nat → ReadError) : Reader Bytes := fun bytes =>
  let head := bytes.take count
  if head.length < count then .error (error head.length) else .ok (head, bytes.drop count)

/-- Bytes of a record's fixed part. -/
def fixed (count : Nat) : Reader Bytes := chunk count fun _ => .record

/-- A part of a record that nothing depends on. -/
def skip (count : Nat) : Reader Unit := do
  let _ ← fixed count

/-- An unsigned number in a record's fixed part. -/
def field (width : Nat) : Reader Nat := LittleEndian.decode <$> fixed width

def u8 : Reader Nat := field 1
def u16 : Reader Nat := field 2
def u32 : Reader Nat := field 4
def u64 : Reader Nat := field 8

/-- A signed number of four bytes in a record's fixed part. -/
def i32 : Reader Int := LittleEndian.signed 4 <$> field 4

/-- A number that stands alone, outside any record. -/
def lone (width : Nat) : Reader Nat :=
  LittleEndian.decode <$> chunk width (ReadError.short · width)

/-- The numbers spelled by consecutive groups of four bytes. -/
def words : Bytes → List Nat
  | a :: b :: c :: d :: rest => LittleEndian.decode [a, b, c, d] :: words rest
  | _ => []

/-- An array of `count` numbers of four bytes. -/
def array (count : Nat) : Reader (List Nat) :=
  words <$> chunk (4 * count) (ReadError.short · (4 * count))

/-- The bytes before the next zero byte, which is taken as well. -/
def terminated : Reader Bytes := fun bytes =>
  match bytes.dropWhile (· != 0) with
  | [] => .error (.short 0 1)
  | _ :: rest => .ok (bytes.takeWhile (· != 0), rest)

/-- At most `count` bytes: input that ends early just gives fewer. -/
def upTo (count : Nat) : Reader Bytes := fun bytes => .ok (bytes.take count, bytes.drop count)

end Reader
end TestAtlas
