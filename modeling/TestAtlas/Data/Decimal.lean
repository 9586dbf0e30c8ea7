/-!
Decimal numbers and their text: the digits without superfluous zeros, positional
for exponents near zero and scientific elsewhere.
-/

namespace TestAtlas

/-- The number `magnitude * 10 ^ exponent` with its sign, which zero has, too. -/
structure Decimal where
  negative : Bool := false
  magnitude : Nat
  exponent : Int := 0
  deriving DecidableEq, Repr, Inhabited

namespace Decimal

/-- Ten multiplied with itself. -/
def powerOfTen (exponent : Nat) : Nat := Nat.pow 10 exponent

/-- Numerator of the number without its sign. -/
def numerator (d : Decimal) : Nat := d.magnitude * powerOfTen d.exponent.toNat

/-- Denominator of the number. -/
def denominator (d : Decimal) : Nat := powerOfTen (-d.exponent).toNat

/-- Divides out powers of ten, at most `fuel` of them. -/
def normalize (fuel magnitude : Nat) (exponent : Int) : Nat × Int :=
  match fuel with
  | 0 => (magnitude, exponent)
  | fuel + 1 =>
      if magnitude % 10 = 0 then normalize fuel (magnitude / 10) (exponent + 1)
      else (magnitude, exponent)

/-- How decimals are written: positional when the exponent of the first digit is at least
`lowest` and below `highest`. -/
structure Format where
  lowest : Int
  highest : Int

/-- Positional from a ten-thousandth up to ten to the sixteenth. -/
def Format.standard : Format := ⟨-4, 16⟩

/-- The exponent with its sign and at least two digits. -/
def exponentText (e : Int) : String :=
  let digits := toString e.natAbs
  (if e < 0 then "-" else "+") ++ (if digits.length < 2 then "0" ++ digits else digits)

def sign (d : Decimal) : String := if d.negative then "-" else ""

def zeros (n : Nat) : String := String.ofList (List.replicate n '0')

/-- The text of a decimal. -/
def render (format : Format) (d : Decimal) : String :=
  let (m, e) := normalize (toString d.magnitude).length d.magnitude d.exponent
  if m = 0 then d.sign ++ "0.0"
  else
    let digits := toString m
    let leading := e + digits.length - 1
    if leading < format.lowest || format.highest ≤ leading then
      let fraction := if digits.length = 1 then "" else "." ++ (digits.drop 1).toString
      d.sign ++ (digits.take 1).toString ++ fraction ++ "e" ++ exponentText leading
    else if 0 ≤ e then d.sign ++ digits ++ zeros e.toNat ++ ".0"
    else if 0 ≤ leading then
      let whole := (leading + 1).toNat
      d.sign ++ (digits.take whole).toString ++ "." ++ (digits.drop whole).toString
    else d.sign ++ "0." ++ zeros (-leading - 1).toNat ++ digits

end Decimal
end TestAtlas
