import TestAtlas.Data.Binary

/-!
Binary numbers written in decimal with a given number of places, rounded to the
nearest such number. The places are counted from the point, or from the first
digit where the number is written with an exponent.
-/

namespace TestAtlas
namespace Places

/-- The number without its sign, times a power of ten, rounded. -/
def scaled (b : Binary) (exponent : Int) : Nat :=
  Rounding.quotient (b.numerator * Decimal.powerOfTen exponent.toNat)
    (b.denominator * Decimal.powerOfTen (-exponent).toNat)

/-- A number with zeros in front up to a count of digits. -/
def padded (count n : Nat) : List Char :=
  let digits := (toString n).toList
  List.replicate (count - digits.length) '0' ++ digits

/-- The digits with a point before the last ones. Without digits behind it there is a point only if
it is asked for. -/
def pointed (point : Bool) (places : Nat) (digits : List Char) : List Char :=
  let whole := digits.length - places
  digits.take whole ++ (if places = 0 && !point then [] else '.' :: digits.drop whole)

/-- The number with places behind the point. -/
def fixed (point : Bool) (places : Nat) (b : Binary) : List Char :=
  pointed point places (padded (places + 1) (scaled b places))

/-- The exponent of the first digit of a number that is not zero. -/
def leading (b : Binary) : Int :=
  let n := b.numerator
  let d := b.denominator
  if d ≤ n then ((toString (n / d)).length : Int) - 1
  else
    let below := (toString (d / n)).length
    if d ≤ n * Decimal.powerOfTen (below - 1) then 1 - (below : Int) else -(below : Int)

/-- The digits of the number, the first one and some more, and the exponent of the first. -/
def rounded (more : Nat) (b : Binary) : List Char × Int :=
  if b.mantissa = 0 then (padded (more + 1) 0, 0)
  else
    let exponent := leading b
    let digits := padded (more + 1) (scaled b (more - exponent))
    (digits.take (more + 1), if more + 1 < digits.length then exponent + 1 else exponent)

/-- Digits with an exponent. -/
def withExponent (point : Bool) (mark : Char) (digits : List Char) (exponent : Int) : List Char :=
  pointed point (digits.length - 1) digits ++ mark :: (Decimal.exponentText exponent).toList

/-- The number with an exponent and places behind the point. -/
def scientific (point : Bool) (mark : Char) (places : Nat) (b : Binary) : List Char :=
  let (digits, exponent) := rounded places b
  withExponent point mark digits exponent

/-- The digits without zeros at the end, but at least some of them. -/
def trimmed (least : Nat) (digits : List Char) : List Char :=
  digits.take least ++ ((digits.drop least).reverse.dropWhile (· == '0')).reverse

/-- The number with so many digits, with an exponent if the first digit would be far from the point.
Zeros behind the point are only written if the point is asked for. -/
def general (point : Bool) (mark : Char) (precision : Nat) (b : Binary) : List Char :=
  let precision := max precision 1
  let (digits, exponent) := rounded (precision - 1) b
  if exponent < -4 || (precision : Int) ≤ exponent then
    withExponent point mark (if point then digits else trimmed 1 digits) exponent
  else
    let digits := List.replicate (-exponent).toNat '0' ++ digits
    let whole := exponent.toNat + 1
    let digits := if point then digits else trimmed whole digits
    pointed point (digits.length - whole) digits

end Places
end TestAtlas
