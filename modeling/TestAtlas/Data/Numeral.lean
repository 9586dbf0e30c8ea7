import TestAtlas.Data.IntegerText
import TestAtlas.Text.Quoted

/-!
Decimal digits in every script. In each script ten characters in a row stand
for zero to nine; raised, lowered and circled digits look like digits, but no
number can be read from them.
-/

namespace TestAtlas
namespace Numeral

/-- The characters that stand for zero. -/
def zeros : List Nat := [
  0x30, 0x660, 0x6F0, 0x7C0, 0x966, 0x9E6, 0xA66, 0xAE6, 0xB66, 0xBE6, 0xC66, 0xCE6, 0xD66, 0xDE6,
  0xE50, 0xED0, 0xF20, 0x1040, 0x1090, 0x17E0, 0x1810, 0x1946, 0x19D0, 0x1A80, 0x1A90, 0x1B50,
  0x1BB0, 0x1C40, 0x1C50, 0xA620, 0xA8D0, 0xA900, 0xA9D0, 0xA9F0, 0xAA50, 0xABF0, 0xFF10, 0x104A0,
  0x10D30, 0x11066, 0x110F0, 0x11136, 0x111D0, 0x112F0, 0x11450, 0x114D0, 0x11650, 0x116C0,
  0x11730, 0x118E0, 0x11950, 0x11C50, 0x11D50, 0x11DA0, 0x16A60, 0x16AC0, 0x16B50, 0x1D7CE,
  0x1D7D8, 0x1D7E2, 0x1D7EC, 0x1D7F6, 0x1E140, 0x1E2F0, 0x1E950, 0x1FBF0]

/-- The number that a digit stands for. -/
def value? (c : Char) : Option Nat :=
  (zeros.find? fun z => z ≤ c.toNat && c.toNat < z + 10).map (c.toNat - ·)

def isDigit (c : Char) : Bool := (value? c).isSome

/-- The number that digits spell. -/
def value (digits : List Char) : Nat :=
  digits.foldl (fun n c => n * 10 + (value? c).getD 0) 0

/-- Digits that are raised, lowered or in a frame. -/
def ornateRanges : List (Nat × Nat) := [
  (0xB2, 0xB3), (0xB9, 0xB9), (0x1369, 0x1371), (0x19DA, 0x19DA), (0x2070, 0x2070),
  (0x2074, 0x2079), (0x2080, 0x2089), (0x2460, 0x2468), (0x2474, 0x247C), (0x2488, 0x2490),
  (0x24EA, 0x24EA), (0x24F5, 0x24FD), (0x24FF, 0x24FF), (0x2776, 0x277E), (0x2780, 0x2788),
  (0x278A, 0x2792), (0x10A40, 0x10A43), (0x10E60, 0x10E68), (0x11052, 0x1105A),
  (0x1F100, 0x1F10A)]

/-- Whether a character looks like a digit. -/
def looksLikeDigit (c : Char) : Bool := isDigit c || Letter.inRanges ornateRanges c

/-- Why no number can be read from a text. -/
inductive Problem where
  | unreadable (text : String)
  | tooLong (digits : Nat)
  deriving DecidableEq, Repr

/-- How much of a text is shown. -/
def shownLength : Nat := 200

def Problem.message : Problem → String
  | unreadable text =>
      "invalid literal for int() with base 10: " ++
        String.ofList ((Quoted.quote text).toList.take shownLength)
  | tooLong digits =>
      s!"Exceeds the limit ({IntegerText.maxDigits} digits) for integer string conversion: " ++
        s!"value has {digits} digits; use sys.set_int_max_str_digits() to increase the limit"

/-- Reads a whole number: digits of any script with single underscores between them, after a sign
if there is one, and with blanks around. -/
def read (text : String) : Except Problem Int :=
  let trimmed := Blank.trim Blank.isSpace text.toList
  let (negative, spelled) := match trimmed with
    | '-' :: rest => (true, rest)
    | '+' :: rest => (false, rest)
    | rest => (false, rest)
  let start := (spelled.takeWhile fun c => isDigit c || c == '_').filter (· != '_')
  let digits := spelled.filter (· != '_')
  if IntegerText.maxDigits < start.length then .error (.tooLong start.length)
  else if digits.isEmpty || !digits.all isDigit || !IntegerText.hasSingleUnderscores spelled then
    .error (.unreadable text)
  else .ok (if negative then -(value digits : Int) else value digits)

def integer? (text : String) : Option Int := (read text).toOption

end Numeral
end TestAtlas
