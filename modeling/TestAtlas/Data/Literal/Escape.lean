/-!
Characters that are written by their numbers in a text in quotes: a backslash, a
letter, and hexadecimal digits. What is wrong with them is told with its place
in the text, where every character beyond ASCII takes the room of its number.
-/

namespace TestAtlas
namespace Literal
namespace Escape

def isHexDigit (c : Char) : Bool := c.isDigit || ('a' ≤ c.toLower && c.toLower ≤ 'f')

def hexValue (digits : List Char) : Nat :=
  digits.foldl (fun value c =>
    16 * value + (if c.isDigit then c.toNat - 0x30 else c.toLower.toNat - 0x57)) 0

/-- The largest number of a character. -/
def largest : Nat := 0x10ffff

/-- The letters in front of digits, with the number of digits and the way to write them. -/
def forms : List (Char × Nat × String) :=
  [('x', 2, "\\xXX"), ('u', 4, "\\uXXXX"), ('U', 8, "\\UXXXXXXXX")]

/-- The room that a character takes when all numbers beyond ASCII are written out. -/
def room (c : Char) : Nat := if 128 ≤ c.toNat then 10 else 1

/-- The room that a backslash takes in front of a character. -/
def roomOfBackslash (next : Char) : Nat := if 128 ≤ next.toNat then 6 else 1

/-- Something that is wrong from one place to another. -/
def complaint (start stop : Nat) (reason : String) : String :=
  s!"(unicode error) 'unicodeescape' codec can't decode bytes in position {start}-{stop}: {reason}"

/-- What is wrong with the digits behind a letter, whose backslash stands at a place. -/
def problemOfDigits? (start count : Nat) (form : String) (rest : List Char) : Option String :=
  let digits := (rest.take count).takeWhile isHexDigit
  let stop := start + 1 + digits.length
  if digits.length < count then some (complaint start stop s!"truncated {form} escape")
  else if largest < hexValue digits then some (complaint start stop "illegal Unicode character")
  else none

/-- What is wrong with a name in curly brackets. -/
def problemOfName? (start : Nat) (rest : List Char) : Option String :=
  let complain (length : Nat) : Option String :=
    some (complaint start (start + 1 + length) "malformed \\N character escape")
  match rest with
  | '\x7b' :: inside =>
      let name := inside.takeWhile (· != '\x7d')
      let taken := (name.map room).foldl (· + ·) 1
      if name.isEmpty || name.length = inside.length then complain taken else none
  | _ => complain 0

/-- What is wrong with a text from some place on. -/
def problemFrom? (place : Nat) : List Char → Option String
  | [] => none
  | '\\' :: c :: rest =>
      let own? :=
        match forms.find? (·.1 == c) with
        | some (_, count, form) => problemOfDigits? place count form rest
        | none => if c = 'N' then problemOfName? place rest else none
      own? <|> problemFrom? (place + roomOfBackslash c + room c) rest
  | c :: rest => problemFrom? (place + room c) rest

/-- The first thing that is wrong with a text. -/
def problemInText? (text : List Char) : Option String := problemFrom? 0 text

/-- The same for bytes, of which only two digits tell the number. -/
def problemInBytesFrom? (place : Nat) : List Char → Option String
  | [] => none
  | '\\' :: c :: rest =>
      if c = 'x' && ((rest.take 2).takeWhile isHexDigit).length < 2 then
        some s!"(value error) invalid \\x escape at position {place}"
      else problemInBytesFrom? (place + 2) rest
  | _ :: rest => problemInBytesFrom? (place + 1) rest

/-- The first thing that is wrong with bytes. -/
def problemInBytes? (text : List Char) : Option String := problemInBytesFrom? 0 text

end Escape
end Literal
end TestAtlas
