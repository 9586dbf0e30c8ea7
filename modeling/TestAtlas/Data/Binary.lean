import TestAtlas.Data.Decimal
import TestAtlas.Data.Rounding

/-!
Binary numbers of limited precision. A decimal number stands for the binary
number that is nearest to it.
-/

namespace TestAtlas

/-- The number `mantissa * 2 ^ exponent` with its sign. -/
structure Binary where
  negative : Bool := false
  mantissa : Nat
  exponent : Int
  deriving DecidableEq, Repr

namespace Binary

/-- Two multiplied with itself. -/
def powerOfTwo (exponent : Nat) : Nat := Nat.pow 2 exponent

/-- The binary digits of a mantissa. -/
def precision : Nat := 53

/-- The least exponent; numbers so small have fewer digits. -/
def leastExponent : Int := -1074

/-- The exponent of the first binary digit of a quotient of positive numbers. -/
def leading (n d : Nat) : Int :=
  let guess : Int := n.log2 - d.log2
  if d * powerOfTwo guess.toNat ≤ n * powerOfTwo (-guess).toNat then guess else guess - 1

/-- The binary number nearest to a decimal one. -/
def ofDecimal (d : Decimal) : Binary :=
  let n := d.numerator
  let exponent :=
    if n = 0 then leastExponent
    else max (leading n d.denominator - (precision - 1)) leastExponent
  { negative := d.negative
    mantissa := Rounding.quotient (n * powerOfTwo (-exponent).toNat)
      (d.denominator * powerOfTwo exponent.toNat)
    exponent }

/-- Numerator of the number without its sign. -/
def numerator (b : Binary) : Nat := b.mantissa * powerOfTwo b.exponent.toNat

/-- Denominator of the number. -/
def denominator (b : Binary) : Nat := powerOfTwo (-b.exponent).toNat

/-- A number with its sign. -/
def signed (b : Binary) (n : Nat) : Int := if b.negative then -n else n

/-- The number as an integer, if it is one. -/
def integer? (b : Binary) : Option Int :=
  if b.numerator % b.denominator = 0 then some (b.signed (b.numerator / b.denominator)) else none

end Binary
end TestAtlas
