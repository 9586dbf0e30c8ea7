import TestAtlas.Data.Access
import TestAtlas.Data.Literal
import TestAtlas.Data.Places

/-!
Templates: texts with places, marked by a percent sign, that a value is put
into. A place says which part of the value it takes, how wide it is and how the
value is written. A text without percent signs stays as it is, whatever the
value (`fill_of_not_mem`).
-/

namespace TestAtlas
namespace Template

/-- A number in a place. -/
inductive Amount where
  | absent
  | given (n : Nat)
  /-- It is to be taken from the value. -/
  | taken
  deriving DecidableEq, Repr

/-- The part of the value that a place asks for. -/
inductive Key where
  | absent
  | named (name : String)
  /-- The bracket behind the name is missing. -/
  | unclosed
  deriving DecidableEq, Repr

structure Place where
  key : Key
  flags : List Char
  width : Amount
  precision : Amount
  /-- How the value is written, if the place is complete. -/
  letter? : Option Char
  deriving DecidableEq, Repr

namespace Place

/-- The name up to the bracket that closes it, and what follows. -/
def name? (depth : Nat) : List Char → Option (List Char × List Char)
  | [] => none
  | c :: rest =>
      if c = ')' && depth = 0 then some ([], rest)
      else
        let depth := if c = ')' then depth - 1 else if c = '(' then depth + 1 else depth
        (name? depth rest).map fun (name, after) => (c :: name, after)

theorem length_of_name? {depth : Nat} {text name after : List Char}
    (h : name? depth text = some (name, after)) : after.length ≤ text.length := by
  induction text generalizing depth name with
  | nil => cases h
  | cons c rest ih =>
      rw [name?] at h
      split at h
      · simp only [Option.some.injEq, Prod.mk.injEq] at h
        rw [← h.2, List.length_cons]
        omega
      · obtain ⟨⟨inner, behind⟩, found, eq⟩ := Option.map_eq_some_iff.1 h
        simp only [Prod.mk.injEq] at eq
        have := ih (eq.2 ▸ found)
        rw [List.length_cons]
        omega

def takeKey (text : List Char) : Key × List Char :=
  match text with
  | '(' :: rest =>
      match name? 0 rest with
      | some (name, after) => (.named (String.ofList name), after)
      | none => (.unclosed, [])
  | text => (.absent, text)

theorem length_takeKey (text : List Char) : (takeKey text).2.length ≤ text.length := by
  unfold takeKey
  split
  · rename_i rest
    split
    · rename_i found
      exact Nat.le_succ_of_le (length_of_name? found)
    · simp
  · exact Nat.le_refl _

def isFlag (c : Char) : Bool := c ∈ ['-', '+', ' ', '#', '0']

def number (digits : List Char) : Nat := digits.foldl (fun n c => n * 10 + (c.toNat - 48)) 0

def takeAmount (text : List Char) : Amount × List Char :=
  match text with
  | '*' :: rest => (.taken, rest)
  | text =>
      let digits := text.takeWhile Char.isDigit
      (if digits.isEmpty then .absent else .given (number digits), text.dropWhile Char.isDigit)

theorem length_takeAmount (text : List Char) : (takeAmount text).2.length ≤ text.length := by
  unfold takeAmount
  split
  · simp
  · exact (List.dropWhile_sublist _).length_le

/-- The number behind a point, which is zero if there are no digits. -/
def takePrecision (text : List Char) : Amount × List Char :=
  match text with
  | '.' :: rest =>
      let (amount, after) := takeAmount rest
      (if amount = .absent then .given 0 else amount, after)
  | text => (.absent, text)

theorem length_takePrecision (text : List Char) :
    (takePrecision text).2.length ≤ text.length := by
  unfold takePrecision
  split
  · rename_i rest
    have := length_takeAmount rest
    rw [List.length_cons]
    exact Nat.le_succ_of_le this
  · exact Nat.le_refl _

/-- Leaves out a letter for the size of a value, which says nothing here. -/
def dropSize (text : List Char) : List Char :=
  match text with
  | c :: rest => if c ∈ ['h', 'l', 'L'] then rest else text
  | [] => []

theorem length_dropSize (text : List Char) : (dropSize text).length ≤ text.length := by
  cases text with
  | nil => simp [dropSize]
  | cons c rest =>
      simp only [dropSize]
      split
      · simp
      · exact Nat.le_refl _

/-- The place that starts behind a percent sign, and what follows it. -/
def take (text : List Char) : Place × List Char :=
  let (key, afterKey) := takeKey text
  let (width, afterWidth) := takeAmount (afterKey.dropWhile isFlag)
  let (precision, afterPrecision) := takePrecision afterWidth
  let last := dropSize afterPrecision
  ({ key, width, precision, flags := afterKey.takeWhile isFlag, letter? := last.head? }, last.tail)

theorem length_take (text : List Char) : (take text).2.length ≤ text.length := by
  have key := length_takeKey text
  have flags := (List.dropWhile_sublist (l := (takeKey text).2) isFlag).length_le
  have width := length_takeAmount ((takeKey text).2.dropWhile isFlag)
  have precision := length_takePrecision (takeAmount ((takeKey text).2.dropWhile isFlag)).2
  have size := length_dropSize
    (takePrecision (takeAmount ((takeKey text).2.dropWhile isFlag)).2).2
  simp only [take, List.length_tail]
  omega

def isLeft (place : Place) : Bool := place.flags.contains '-'

def isAlternate (place : Place) : Bool := place.flags.contains '#'

/-- The sign of a number that is not negative. -/
def plus (place : Place) : List Char :=
  if place.flags.contains '+' then ['+'] else if place.flags.contains ' ' then [' '] else []

def isZeroFilled (place : Place) : Bool := place.flags.contains '0'

end Place

/-- Why a value cannot be put into a template. -/
inductive Problem where
  | misuse (misuse : Misuse)
  /-- A part is asked for, but the value is a text. -/
  | noParts
  | unclosedKey
  | incomplete
  /-- There are more places than values. -/
  | notEnough
  /-- A text is put into no place. -/
  | leftOver
  | hugeWidth
  | hugePrecision
  /-- A number that was taken from the value does not fit a machine's number of a kind. -/
  | hugeAmount (kind : String)
  | amountNotInteger
  | unknownLetter (letter : Char) (position : Nat)
  | notANumber (letter : Char) (kind : Value.Kind)
  | notAnInteger (letter : Char) (kind : Value.Kind)
  | notReal (kind : Value.Kind)
  | hugeInteger
  | notACharacter
  | noSuchCharacter
  deriving DecidableEq, Repr

namespace Problem

/-- The kind of error under which a problem is reported. -/
def kind : Problem → String
  | misuse m => m.kind
  | unclosedKey | incomplete | hugeWidth | hugePrecision | unknownLetter .. => "ValueError"
  | hugeAmount _ | hugeInteger | noSuchCharacter => "OverflowError"
  | _ => "TypeError"

/-- A letter as it is shown to someone, if that is possible. -/
def shownLetter (letter : Char) : Char :=
  if 31 ≤ letter.toNat && letter.toNat ≤ 126 then letter else '?'

def message : Problem → String
  | misuse m => m.message
  | noParts => "format requires a mapping"
  | unclosedKey => "incomplete format key"
  | incomplete => "incomplete format"
  | notEnough => "not enough arguments for format string"
  | leftOver => "not all arguments converted during string formatting"
  | hugeWidth => "width too big"
  | hugePrecision => "precision too big"
  | hugeAmount kind => s!"Python int too large to convert to C {kind}"
  | amountNotInteger => "* wants int"
  | unknownLetter letter position =>
      s!"unsupported format character '{shownLetter letter}' (0x{Hex.render letter.toNat}) " ++
        s!"at index {position}"
  | notANumber letter kind => s!"%{letter} format: a real number is required, not {kind.name}"
  | notAnInteger letter kind => s!"%{letter} format: an integer is required, not {kind.name}"
  | notReal kind => s!"must be real number, not {kind.name}"
  | hugeInteger => "int too large to convert to float"
  | notACharacter => "%c requires int or char"
  | noSuchCharacter => "%c arg not in range(0x110000)"

end Problem

/-! Writing values -/

/-- A text with every character outside the basic block escaped. -/
def basicOnly (text : List Char) : List Char :=
  text.flatMap fun c =>
    if c.toNat < 0x80 then [c]
    else if c.toNat < 0x100 then '\\' :: 'x' :: Hex.digits 2 c.toNat
    else if c.toNat < 0x10000 then '\\' :: 'u' :: Hex.digits 4 c.toNat
    else '\\' :: 'U' :: Hex.digits 8 c.toNat

/-- A text in a place; too long a text is cut. -/
def layText (place : Place) (width : Nat) (precision? : Option Nat) (text : List Char) :
    List Char :=
  let text := match precision? with
    | some precision => text.take precision
    | none => text
  let room := List.replicate (width - text.length) ' '
  if place.isLeft then text ++ room else room ++ text

/-- A number in a place: its sign, a mark for its base and its digits. Zeros go between the mark and
the digits, blanks go around all. -/
def layNumber (place : Place) (width : Nat) (negative : Bool) (mark digits : List Char) :
    List Char :=
  let start := (if negative then ['-'] else place.plus) ++ mark
  let room := width - start.length - digits.length
  if place.isLeft then start ++ digits ++ List.replicate room ' '
  else if place.isZeroFilled then start ++ List.replicate room '0' ++ digits
  else List.replicate room ' ' ++ start ++ digits

/-- The base of a letter for integers. -/
def base (letter : Char) : Nat :=
  if letter = 'o' then 8 else if letter = 'x' || letter = 'X' then 16 else 10

/-- The integer that a number is written as; letters for bases other than ten take integers only. -/
def integerOf (letter : Char) (value : Value) : Except Problem Int :=
  match value with
  | .int n => .ok n
  | .bool b => .ok (if b then 1 else 0)
  | .decimal d =>
      if base letter = 10 then
        let b := Binary.ofDecimal d
        .ok (b.signed (b.numerator / b.denominator))
      else .error (.notAnInteger letter .decimal)
  | value =>
      if base letter = 10 then .error (.notANumber letter value.kind)
      else .error (.notAnInteger letter value.kind)

def capitals (text : List Char) : List Char := text.map Char.toUpper

/-- An integer with at least so many digits. -/
def writeInteger (place : Place) (letter : Char) (width : Nat) (precision? : Option Nat) (n : Int) :
    List Char :=
  let digits := Nat.toDigits (base letter) n.natAbs
  let digits := List.replicate (precision?.getD 0 - digits.length) '0' ++ digits
  let mark := if place.isAlternate && base letter ≠ 10 then
      ['0', if letter = 'o' then 'o' else 'x'] else []
  if letter = 'X' then layNumber place width (n < 0) (capitals mark) (capitals digits)
  else layNumber place width (n < 0) mark digits

/-- Integers from here on have no binary number of limited precision. -/
def integerLimit : Nat := Binary.powerOfTwo 1024

def binaryOf (value : Value) : Except Problem Binary :=
  let ofInteger (n : Int) : Except Problem Binary :=
    let b := Binary.ofDecimal { negative := n < 0, magnitude := n.natAbs }
    if b.numerator < integerLimit then .ok b else .error .hugeInteger
  match value with
  | .int n => ofInteger n
  | .bool b => ofInteger (if b then 1 else 0)
  | .decimal d => .ok (Binary.ofDecimal d)
  | value => .error (.notReal value.kind)

/-- The places of a number for which nothing is said. -/
def usualPrecision : Nat := 6

def writeBinary (place : Place) (letter : Char) (width : Nat) (precision? : Option Nat)
    (b : Binary) : List Char :=
  let precision := precision?.getD usualPrecision
  let point := place.isAlternate
  let mark := if letter.isUpper then 'E' else 'e'
  let digits :=
    if letter = 'f' || letter = 'F' then Places.fixed point precision b
    else if letter = 'e' || letter = 'E' then Places.scientific point mark precision b
    else Places.general point mark precision b
  layNumber place width b.negative [] digits

/-- Numbers from here on are none of a character. -/
def characterLimit : Nat := 0x110000

def characterOf (value : Value) : Except Problem Char :=
  let ofInteger (n : Int) : Except Problem Char :=
    if n < 0 || characterLimit ≤ n.natAbs then .error .noSuchCharacter
    else .ok (Char.ofNat n.natAbs)
  match value with
  | .int n => ofInteger n
  | .bool b => ofInteger (if b then 1 else 0)
  | .text s =>
      match s.toList with
      | [c] => .ok c
      | _ => .error .notACharacter
  | _ => .error .notACharacter

/-- A value in a place with a letter at a position. -/
def write (place : Place) (letter : Char) (position width : Nat) (precision? : Option Nat)
    (value : Value) : Except Problem (List Char) :=
  if letter = 's' then .ok (layText place width precision? (Literal.display value).toList)
  else if letter = 'r' then .ok (layText place width precision? (Literal.render value).toList)
  else if letter = 'a' then
    .ok (layText place width precision? (basicOnly (Literal.render value).toList))
  else if letter = 'c' then (characterOf value).map fun c => layText place width none [c]
  else if letter ∈ ['d', 'i', 'u', 'o', 'x', 'X'] then
    (integerOf letter value).map (writeInteger place letter width precision?)
  else if letter ∈ ['e', 'E', 'f', 'F', 'g', 'G'] then
    (binaryOf value).map (writeBinary place letter width precision?)
  else .error (.unknownLetter letter position)

/-! Taking values -/

/-- What is left to be put into places. -/
structure Supply where
  value : Value
  taken : Bool := false

/-- Takes the value; it can be taken once. -/
def Supply.take (supply : Supply) : Except Problem (Value × Supply) :=
  if supply.taken then .error .notEnough
  else .ok (supply.value, { supply with taken := true })

/-- Chooses the part of the whole value that a place asks for. -/
def Supply.choose (whole : Value) (supply : Supply) (key : Key) : Except Problem Supply :=
  match key with
  | .absent => .ok supply
  | key =>
      match whole, key with
      | .text _, _ => .error .noParts
      | _, .named name => ((whole.part name).map ({ value := · })).mapError .misuse
      | _, _ => .error .unclosedKey

/-- How large a number in a place may be, and what is wrong if it is larger. -/
structure Bound where
  /-- The first number that is too large. -/
  limit : Nat
  huge : Problem
  /-- What a machine calls a number of this size. -/
  kind : String

namespace Bound

def width : Bound := ⟨0x8000000000000000, .hugeWidth, "ssize_t"⟩

def precision : Bound := ⟨0x80000000, .hugePrecision, "int"⟩

/-- A number that was taken from the value; a negative one counts without its sign. -/
def check (bound : Bound) (n : Int) : Except Problem Nat :=
  if n < bound.limit && -bound.limit ≤ n then .ok n.natAbs else .error (.hugeAmount bound.kind)

end Bound

/-- A number in a place within its bound. -/
def Supply.amount (supply : Supply) (bound : Bound) (amount : Amount) :
    Except Problem (Option Nat × Supply) :=
  match amount with
  | .absent => .ok (none, supply)
  | .given n => if n < bound.limit then .ok (some n, supply) else .error bound.huge
  | .taken => do
      let (value, supply) ← supply.take
      match value with
      | .int n => return (some (← bound.check n), supply)
      | .bool b => return (some (if b then 1 else 0), supply)
      | _ => throw .amountNotInteger

/-- What stands in a place that ends before a position, and what is left of the value. -/
def put (whole : Value) (supply : Supply) (place : Place) (position : Nat) :
    Except Problem (List Char × Supply) := do
  let supply ← supply.choose whole place.key
  let (width?, supply) ← supply.amount .width place.width
  let (precision?, supply) ← supply.amount .precision place.precision
  match place.letter? with
  | none => throw .incomplete
  | some letter =>
      let (value, supply) ← supply.take
      return (← write place letter (position - 1) (width?.getD 0) precision? value, supply)

/-- The rest of a template of some length with its places filled. Two percent signs stand for
one. -/
def fillFrom (length : Nat) (whole : Value) (supply : Supply) (text : List Char) :
    Except Problem (List Char × Supply) :=
  match text with
  | [] => .ok ([], supply)
  | '%' :: '%' :: rest =>
      (fillFrom length whole supply rest).map fun (more, supply) => ('%' :: more, supply)
  | '%' :: rest =>
      let after := (Place.take rest).2
      match put whole supply (Place.take rest).1 (length - after.length) with
      | .error problem => .error problem
      | .ok (shown, supply) =>
          (fillFrom length whole supply after).map fun (more, supply) => (shown ++ more, supply)
  | c :: rest => (fillFrom length whole supply rest).map fun (more, supply) => (c :: more, supply)
termination_by text.length
decreasing_by
  · simp only [List.length_cons]
    omega
  · have := Place.length_take rest
    simp only [List.length_cons]
    omega
  · simp

/-- The template with a value put into its places. A text has to be put into one. -/
def fill (template : String) (value : Value) : Except Problem String :=
  match fillFrom template.length value { value } template.toList with
  | .error problem => .error problem
  | .ok (shown, supply) =>
      if value.kind = .text && !supply.taken then .error .leftOver
      else .ok (String.ofList shown)

theorem fillFrom_of_not_mem (length : Nat) (whole : Value) (supply : Supply) (text : List Char)
    (plain : '%' ∉ text) : fillFrom length whole supply text = .ok (text, supply) := by
  induction text with
  | nil => simp [fillFrom]
  | cons c rest ih =>
      have differs : c ≠ '%' := fun eq => plain (eq ▸ List.mem_cons_self)
      have rest := ih fun mem => plain (List.mem_cons_of_mem c mem)
      rw [fillFrom]
      · simp [rest, Except.map]
      · intro _ eq
        exact absurd eq differs
      · exact fun eq => differs eq

/-- A text without places takes any value but a text. -/
theorem fill_of_not_mem (template : String) (value : Value) (plain : '%' ∉ template.toList)
    (kind : value.kind ≠ .text) : fill template value = .ok template := by
  simp [fill, fillFrom_of_not_mem _ _ _ _ plain, kind]

end Template
end TestAtlas
