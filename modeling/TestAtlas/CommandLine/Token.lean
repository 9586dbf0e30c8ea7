import TestAtlas.CommandLine.Grammar
import TestAtlas.Text.Split

/-!
The arguments of a command line told apart. What starts with a dash is an
option, unless it cannot be one; an option may be shortened as long as it is
clear which one is meant. After two dashes there are no more options.
-/

namespace TestAtlas
namespace CommandLine

/-- An option as it is written, with the value that is attached to it. -/
structure Mention where
  switch : Switch
  spelling : List Char
  attached? : Option (List Char) := none
  deriving DecidableEq, Repr

inductive Token where
  | word (text : String)
  /-- The dashes that end the options. -/
  | stop
  | option (text : String) (mention : Mention)
  /-- Something that looks like an option. -/
  | unknown (text : String)
  deriving DecidableEq, Repr

namespace Token

def dash : Char := '-'

/-- The dashes that end the options. -/
def stopText : String := "--"

def text : Token → String
  | word text => text
  | stop => stopText
  | option text _ => text
  | unknown text => text

def isOption : Token → Bool
  | option .. => true
  | unknown _ => true
  | _ => false

/-- A negative number, with a fraction or without; a line end may follow. -/
def isNegativeNumber (text : List Char) : Bool :=
  match text with
  | '-' :: rest =>
      let rest := if rest.getLast? = some '\n' then rest.dropLast else rest
      let whole := rest.takeWhile Numeral.isDigit
      match rest.dropWhile Numeral.isDigit with
      | [] => !whole.isEmpty
      | '.' :: fraction => !fraction.isEmpty && fraction.all Numeral.isDigit
      | _ => false
  | _ => false

/-- What stands before and after an equals sign. -/
def assignment? (text : List Char) : Option (List Char × List Char) :=
  Text.splitFirst? ['='] text

/-- The options that a text with two dashes can be short for. -/
def longCandidates (grammar : Grammar) (text : List Char) : List (String × Mention) :=
  let (start, attached?) := match assignment? text with
    | some (start, value) => (start, some value)
    | none => (text, none)
  (grammar.spellings.filter fun s => start.isPrefixOf s.1.toList).map fun (spelling, switch) =>
    (spelling, { switch, spelling := spelling.toList, attached? })

/-- The options that a text with one dash can stand for: one with a single letter, with what
follows it as its value or as further letters, or one that the text is short for. -/
def shortCandidates (grammar : Grammar) (text : List Char) : List (String × Mention) :=
  grammar.spellings.filterMap fun (spelling, switch) =>
    let chars := spelling.toList
    if chars = text.take 2 then
      some (spelling, { switch, spelling := chars, attached? := some (text.drop 2) })
    else if text.isPrefixOf chars then some (spelling, { switch, spelling := chars })
    else none

/-- The option that a text mentions exactly, alone or with a value. -/
def spelledOut? (grammar : Grammar) (text : List Char) : Option Mention :=
  match grammar.switch? (String.ofList text) with
  | some switch => some { switch, spelling := text }
  | none => do
      let (start, value) ← assignment? text
      let switch ← grammar.switch? (String.ofList start)
      return { switch, spelling := start, attached? := some value }

/-- The kind of an argument before the options end. -/
def classify (grammar : Grammar) (argument : String) : Except Problem Token :=
  let chars := argument.toList
  if chars.head? ≠ some dash || chars.length = 1 then .ok (.word argument)
  else
    match spelledOut? grammar chars with
    | some mention => .ok (.option argument mention)
    | none =>
        let candidates := if chars[1]? = some dash then longCandidates grammar chars
          else shortCandidates grammar chars
        match candidates with
        | [(_, mention)] => .ok (.option argument mention)
        | [] =>
            if isNegativeNumber chars || chars.contains ' ' then .ok (.word argument)
            else .ok (.unknown argument)
        | _ => .error (.ambiguous argument (candidates.map (·.1)))

/-- The tokens of a command line. -/
def ofArguments (grammar : Grammar) : List String → Except Problem (List Token)
  | [] => .ok []
  | argument :: rest =>
      if argument = stopText then .ok (.stop :: rest.map .word)
      else do
        let token ← classify grammar argument
        return token :: (← ofArguments grammar rest)

end Token
end CommandLine
end TestAtlas
