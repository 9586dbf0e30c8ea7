/-!
Hexadecimal digits.
-/

namespace TestAtlas
namespace Hex

/-- The digit for a number below sixteen, with small letters. -/
def digit (n : Nat) : Char := Char.ofNat (if n < 10 then 0x30 + n else 0x57 + n)

/-- The lowest `count` digits of a number. -/
def digits : (count n : Nat) → List Char
  | 0, _ => []
  | count + 1, n => digit ((n >>> (4 * count)) % 16) :: digits count n

/-- A number with as many digits as it needs. -/
def render (n : Nat) : String := String.ofList (Nat.toDigits 16 n)

end Hex
end TestAtlas
