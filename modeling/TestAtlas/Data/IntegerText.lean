import TestAtlas.Text.Blank

/-!
Whole numbers in decimal text. Besides the plain form there may be blanks
around the number, a plus sign, zeros in front, a fraction of zeros and single
underscores between digits.
-/

namespace TestAtlas
namespace IntegerText

/-- The most digits a number may have. -/
def maxDigits : Nat := 4300

inductive Problem where
  | unreadable
  | tooLong
  deriving DecidableEq, Repr

/-- The number that digits spell. -/
def value (digits : List Char) : Nat := digits.foldl (fun n c => n * 10 + (c.toNat - 48)) 0

/-- A number without anything around it and without superfluous zeros. -/
def plain? (text : List Char) : Except Problem Int :=
  let negative := text.head? = some '-'
  let digits := if negative then text.drop 1 else text
  if digits.isEmpty || !digits.all Char.isDigit then .error .unreadable
  else if digits.head? = some '0' && digits.length ≠ 1 then .error .unreadable
  else if maxDigits < digits.length then .error .tooLong
  else .ok (if negative then -(value digits : Int) else value digits)

/-- The text after a zero in front, without further zeros and underscores; the last zero before
the end or a dot stays. What follows the zeros may have a sign of its own. -/
def afterZero (last : Char) : List Char → Option (List Char)
  | [] => some [last]
  | c :: rest =>
      if c = '0' || c = '_' then afterZero c rest
      else if c.isDigit || c = '-' then some (c :: rest)
      else if c = '.' then some (last :: c :: rest)
      else none

def dropZeros? (text : List Char) : Option (List Char) :=
  match text with
  | [] => none
  | c :: rest =>
      if c = '0' then afterZero c rest
      else if c.isDigit then some text
      else none

/-- The text without a fraction that has only zeros. -/
def dropFraction (text : List Char) : List Char :=
  match text.dropWhile (· != '.') with
  | _ :: fraction =>
      if !fraction.isEmpty && fraction.all (· == '0') then text.takeWhile (· != '.') else text
  | [] => text

/-- Whether every underscore has something else on both sides. -/
def hasSingleUnderscores (text : List Char) : Bool :=
  text.head? != some '_' && text.getLast? != some '_'
    && !(text.zip (text.drop 1)).any fun p => p.1 == '_' && p.2 == '_'

def dropUnderscores (text : List Char) : List Char :=
  if hasSingleUnderscores text then text.filter (· != '_') else text

/-- The digits of a number without what may stand in front of and after them. -/
def cleanDigits? (text : List Char) : Option (List Char) :=
  (dropZeros? text).map (dropUnderscores ∘ dropFraction)

/-- The text without what may surround a number. -/
def clean? (text : List Char) : Option (List Char) :=
  match Blank.trim Blank.isSpace text with
  | '-' :: rest => (cleanDigits? rest).map ('-' :: ·)
  | '+' :: rest => cleanDigits? rest
  | rest => cleanDigits? rest

/-- The number that a text spells. -/
def parse (text : String) : Except Problem Int :=
  match plain? text.toList with
  | .error .unreadable =>
      match clean? text.toList with
      | none => .error .unreadable
      | some cleaned => plain? cleaned
  | outcome => outcome

end IntegerText
end TestAtlas
