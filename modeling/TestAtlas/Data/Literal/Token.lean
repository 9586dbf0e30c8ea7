import TestAtlas.Data.Literal.Escape
import TestAtlas.Text.Identifier
import TestAtlas.Text.Split

/-!
The tokens of written literals: names, numbers, texts in quotes, and signs.
Inside brackets the ends of lines do not count. Where no token can be read the
tokens end; some of these ends are wrong wherever they stand, others are only in
the way of a reader that comes to them.
-/

namespace TestAtlas
namespace Literal

/-- How a text in quotes is to be taken. -/
structure TextForm where
  /-- The text stands for bytes. -/
  bytes : Bool := false
  /-- The text has places to be filled. -/
  filled : Bool := false
  /-- Why the text cannot be what it is to be taken as. -/
  problem? : Option String := none
  deriving DecidableEq, Repr

namespace Token

/-- A bracket that is open, with its line. -/
structure Bracket where
  char : Char
  line : Nat
  deriving DecidableEq, Repr

inductive Kind where
  | name (text : String)
  | number (imaginary : Bool)
  | text (form : TextForm)
  /-- A reserved word, an operator or a bracket. -/
  | sign (text : String)
  | lineEnd
  /-- Blanks in front of everything else on a line. -/
  | indentation
  /-- The end of everything. -/
  | finish
  /-- Nothing can be read from here on, inside the bracket that was opened last. -/
  | stuck (reason : String) (inside : Option Bracket)
  /-- What stands here is no token. -/
  | broken (reason : String)
  deriving DecidableEq, Repr

end Token

structure Token where
  kind : Token.Kind
  /-- The line where it starts. -/
  line : Nat
  /-- The number of brackets that are open behind it. -/
  level : Nat
  /-- Whether it might have been longer, had the text not ended. -/
  toTheEnd : Bool := false
  deriving DecidableEq, Repr

namespace Token

/-- A character that belongs to a word, as long as nobody looks closer. -/
def isWordChar (c : Char) : Bool := c.isAlphanum || c == '_' || 128 ≤ c.toNat

/-- Whether one has to look behind a token to know that it ends there. -/
def Kind.mayGrow : Kind → Bool
  | name _ | number _ => true
  | sign letters => letters.length < 3 || letters.toList.all isWordChar
  | _ => false

/-! Numbers -/

/-- The words that may stand right behind a number. -/
def followers : List (List Char) := ["and", "else", "for", "not", "or"].map String.toList

/-- What a longer word may start with that stands right behind a number. -/
def looseFollowers : List (List Char) := ["if", "in", "is"].map String.toList

/-- Whether a word may stand right behind a number. -/
def mayFollow (rest : List Char) : Bool :=
  looseFollowers.any (·.isPrefixOf rest) || followers.contains (rest.takeWhile isWordChar)

/-- Checks what stands behind a number. -/
def checkEnd (kind : String) (rest : List Char) : Except String Unit :=
  if mayFollow rest then .ok ()
  else if rest.head?.any fun c => c.isAlphanum || c == '_' then .error s!"invalid {kind} literal"
  else .ok ()

/-- Leaves out digits, between which there may be single underscores. -/
def dropDigits (accepts : Char → Bool) (text : List Char) : Except (List Char) (List Char) :=
  match text with
  | [] => .ok []
  | c :: rest =>
      if accepts c then dropDigits accepts rest
      else if c = '_' then
        if rest.head?.any accepts then dropDigits accepts rest else .error rest
      else .ok (c :: rest)

/-- Leaves out the digits of a number in some base. -/
def dropBased (kind : String) (accepts : Char → Bool) (text : List Char) :
    Except String (List Char) := do
  let refuse (rest : List Char) : Except String (List Char) :=
    match rest with
    | c :: _ =>
        if c.isDigit then .error s!"invalid digit '{c}' in {kind} literal"
        else .error s!"invalid {kind} literal"
    | [] => .error s!"invalid {kind} literal"
  let digits := if text.head? = some '_' then text.tail else text
  if !digits.head?.any accepts then refuse digits
  else
    match dropDigits accepts digits with
    | .error rest => refuse rest
    | .ok rest =>
        if rest.head?.any Char.isDigit then refuse rest
        else do
          checkEnd kind rest
          return rest

def dropDecimal (text : List Char) : Except String (List Char) :=
  (dropDigits Char.isDigit text).mapError fun _ => "invalid decimal literal"

/-- Leaves out an exponent, and says whether there was one. -/
def dropExponent (text : List Char) : Except String (Option (List Char)) :=
  match text with
  | c :: rest =>
      if c = 'e' || c = 'E' then
        match rest with
        | d :: more =>
            if d = '+' || d = '-' then
              if more.head?.any Char.isDigit then (dropDecimal more).map some
              else .error "invalid decimal literal"
            else if d.isDigit then (dropDecimal rest).map some
            else (checkEnd "decimal" text).map fun _ => none
        | [] => (checkEnd "decimal" text).map fun _ => none
      else .ok none
  | [] => .ok none

/-- What stands behind the digits of a number: an exponent, and a letter if it is imaginary. -/
def finishNumber (text : List Char) : Except String (Bool × List Char) := do
  let rest := (← dropExponent text).getD text
  match rest with
  | c :: after =>
      if c = 'j' || c = 'J' then do
        checkEnd "imaginary" after
        return (true, after)
      else do
        checkEnd "decimal" rest
        return (false, rest)
  | [] => return (false, [])

/-- What stands behind the digits in front of a point. -/
def dropFraction (text : List Char) : Except String (Bool × List Char) := do
  match text with
  | '.' :: rest =>
      if rest.head?.any Char.isDigit then finishNumber (← dropDecimal rest) else finishNumber rest
  | text => finishNumber text

def leadingZeros : String :=
  "leading zeros in decimal integer literals are not permitted; " ++
    "use an 0o prefix for octal integers"

/-- Leaves out zeros; single underscores between them and other digits are left out as well. -/
def dropZeros (text : List Char) : Except String (List Char) :=
  match dropDigits (· == '0') text with
  | .ok rest => .ok rest
  | .error rest =>
      if rest.head?.any Char.isDigit then .ok rest else .error "invalid decimal literal"

/-- A number that starts with a zero. Other digits may follow only if it is not a whole number. -/
def takeZero (rest : List Char) : Except String (Bool × List Char) := do
  let other ← dropZeros rest
  let behind ← dropDecimal other
  if behind.length < other.length && !behind.head?.any (· ∈ ['.', 'e', 'E', 'j', 'J']) then
    throw leadingZeros
  else dropFraction behind

/-- A number, and whether it is imaginary. -/
def takeNumber (text : List Char) : Except String (Bool × List Char) :=
  match text with
  | '0' :: c :: rest =>
      if c = 'x' || c = 'X' then
        (dropBased "hexadecimal" Escape.isHexDigit rest).map (false, ·)
      else if c = 'o' || c = 'O' then
        (dropBased "octal" (fun c => '0' ≤ c && c ≤ '7') rest).map (false, ·)
      else if c = 'b' || c = 'B' then
        (dropBased "binary" (fun c => c == '0' || c == '1') rest).map (false, ·)
      else takeZero (c :: rest)
  | '.' :: _ => dropFraction text
  | text => do dropFraction (← dropDecimal text)

/-! Texts in quotes -/

/-- The last line of a text that is not closed, with its characters in reverse. There is no line
behind the last end of a line. -/
def lastLine (line : Nat) (inside : List Char) : Nat :=
  if inside.head? = some '\n' then line - 1 else line

/-- A text in single quotes with its characters in reverse, the line where it ends, and what stands
behind it. A text that is not closed gives its last line. -/
def dropText (quote : Char) (line : Nat) (inside : List Char) : List Char →
    Except Nat (List Char × Nat × List Char)
  | [] => .error (lastLine line inside)
  | c :: rest =>
      if c = quote then .ok (inside, line, rest)
      else if c = '\n' then .error line
      else if c = '\\' then
        match rest with
        | [] => .error line
        | d :: after =>
            dropText quote (if d = '\n' then line + 1 else line) (d :: c :: inside) after
      else dropText quote line (c :: inside) rest

/-- The same for a text in triple quotes, which may go over several lines. -/
def dropLongText (quote : Char) (line : Nat) (inside : List Char) : List Char →
    Except Nat (List Char × Nat × List Char)
  | [] => .error (lastLine line inside)
  | c :: rest =>
      match c == quote, rest with
      | true, d :: e :: after =>
          if d = quote && e = quote then .ok (inside, line, after)
          else dropLongText quote line (c :: inside) (d :: e :: after)
      | _, d :: after =>
          if c = '\\' then
            dropLongText quote (if d = '\n' then line + 1 else line) (d :: c :: inside) after
          else
            dropLongText quote (if c = '\n' then line + 1 else line) (c :: inside) (d :: after)
      | _, [] => .error line

/-- The letters that may stand in front of a quote. -/
def textMarks : List String := ["", "b", "r", "u", "f", "br", "rb", "fr", "rf"]

/-- The form of a text with letters in front of its quote; its characters are in reverse. -/
def textForm (letters inside : List Char) : TextForm :=
  let has (c : Char) : Bool := letters.any (·.toLower == c)
  { bytes := has 'b', filled := has 'f'
    problem? :=
      if has 'b' && inside.any (128 ≤ ·.toNat) then
        some "bytes can only contain ASCII literal characters"
      else if has 'r' then none
      else if has 'b' then Escape.problemInBytes? inside.reverse
      else Escape.problemInText? inside.reverse }

/-! Signs -/

def reserved : List String := ["False", "None", "True", "and", "as", "assert", "async", "await",
  "break", "class", "continue", "def", "del", "elif", "else", "except", "finally", "for", "from",
  "global", "if", "import", "in", "is", "lambda", "nonlocal", "not", "or", "pass", "raise",
  "return", "try", "while", "with", "yield"]

/-- The operators of several characters, longer ones first. -/
def operators : List (List Char) := ["**=", "//=", "<<=", ">>=", "...", "!=", "<>", "<=", "<<",
  "==", ">=", ">>", "->", "+=", "-=", "*=", "**", "/=", "//", "%=", "&=", "|=", "^=", "@=",
  ":="].map String.toList

/-- The operator that a text starts with. -/
def takeOperator (c : Char) (rest : List Char) : List Char × List Char :=
  match operators.find? (·.isPrefixOf (c :: rest)) with
  | some operator => (operator, (c :: rest).drop operator.length)
  | none => ([c], rest)

def closing? (c : Char) : Option Char :=
  if c = '(' then some ')'
  else if c = '[' then some ']'
  else if c = '\x7b' then some '\x7d'
  else none

/-- The brackets that may be open at the same time. -/
def deepest : Nat := 200

/-- The brackets that are open behind a bracket on a line. -/
def followBracket (brackets : List Bracket) (line : Nat) (c : Char) :
    Except String (List Bracket) :=
  if (closing? c).isSome then
    if deepest ≤ brackets.length then .error "too many nested parentheses"
    else .ok (⟨c, line⟩ :: brackets)
  else if c ∈ [')', ']', '\x7d'] then
    match brackets with
    | [] => .error s!"unmatched '{c}'"
    | inner :: outer =>
        if closing? inner.char = some c then .ok outer
        else
          let place := if inner.line = line then "" else s!" on line {inner.line}"
          .error (s!"closing parenthesis '{c}' does not match opening parenthesis " ++
            s!"'{inner.char}'" ++ place)
  else .ok brackets

/-! Reading tokens -/

/-- Where the reading of tokens stands. -/
structure State where
  line : Nat := 1
  brackets : List Bracket := []
  /-- Whether there are tokens on the line. -/
  busy : Bool := false

def neverClosed (bracket : Bracket) : String := s!"'{bracket.char}' was never closed"

/-- The end of the tokens where a text ends. -/
def ending (brackets : List Bracket) : Kind :=
  match brackets with
  | [] => .finish
  | inner :: _ => .stuck (neverClosed inner) (some inner)

/-- The number of a character with at least four digits. -/
def codeOf (c : Char) : String :=
  let digits := (Nat.toDigits 16 c.toNat).map Char.toUpper
  String.ofList (List.replicate (4 - digits.length) '0' ++ digits)

/-- A word, which is a name or reserved. -/
def word (text : List Char) : Except String Kind :=
  let shown := String.ofList text
  if reserved.contains shown then .ok (.sign shown)
  else
    match Identifier.firstForeign? text with
    | none => .ok (.name shown)
    | some c =>
        if Quoted.isPrintable c then .error s!"invalid character '{c}' (U+{codeOf c})"
        else .error s!"invalid non-printable character U+{codeOf c}"

def isBlank (c : Char) : Bool := c == ' ' || c == '\t' || c == '\x0c'

/-- Whether a line has blanks in front of a token, where it is known whether there are any so far,
and whether there were any in front of a backslash. -/
def isIndented (before blanks : Bool) : List Char → Bool
  | [] => before || blanks
  | '\\' :: '\n' :: c :: rest => isIndented (before || blanks) blanks (c :: rest)
  | c :: rest =>
      if c = '\x0c' then isIndented before false rest
      else if isBlank c then isIndented before true rest
      else c != '\\' && c != '#' && c != '\n' && (before || blanks)

/-- What a step of reading gives: tokens, and where to go on. -/
structure Step where
  kinds : List Kind
  state : State
  rest : List Char

/-- Goes on behind a token. -/
def Step.token (kind : Kind) (state : State) (rest : List Char) : Step :=
  ⟨[kind], { state with busy := true }, rest⟩

/-- A text in quotes, with the letters in front of it. -/
def takeText (state : State) (letters : List Char) (quote : Char) (rest : List Char) :
    Except String Step :=
  let finish (read : List Char × Nat × List Char) : Step :=
    .token (.text (textForm letters read.1)) { state with line := read.2.1 } read.2.2
  if [quote, quote].isPrefixOf rest then
    match dropLongText quote state.line [] (rest.drop 2) with
    | .ok read => .ok (finish read)
    | .error line =>
        .error s!"unterminated triple-quoted string literal (detected at line {line})"
  else
    match dropText quote state.line [] rest with
    | .ok read => .ok (finish read)
    | .error line => .error s!"unterminated string literal (detected at line {line})"

/-- A word, or a text in quotes with letters in front. -/
def takeWord (state : State) (text : List Char) : Except String Step :=
  let letters := text.takeWhile isWordChar
  let rest := text.dropWhile isWordChar
  match rest with
  | quote :: inside =>
      if (quote = '"' || quote = '\'') &&
          textMarks.contains (String.ofList (letters.map Char.toLower)) then
        takeText state letters quote inside
      else (word letters).map fun kind => .token kind state rest
  | [] => (word letters).map fun kind => .token kind state []

/-- The end of a line, which counts if there was something on it outside of all brackets. -/
def takeLineEnd (state : State) (rest : List Char) : Step :=
  let next := { state with line := state.line + 1 }
  if state.brackets.isEmpty then
    let kinds :=
      (if state.busy then [.lineEnd] else []) ++
        if isIndented false false rest then [.indentation] else []
    ⟨kinds, { next with busy := false }, rest⟩
  else ⟨[], next, rest⟩

/-- What follows a backslash, which is to be the end of a line before the last one. -/
def takeContinuation (state : State) (rest : List Char) : Step :=
  match rest with
  | ['\n'] =>
      let kind := if state.brackets.isEmpty then .stuck "unexpected EOF while parsing" none
        else ending state.brackets
      ⟨[kind], state, []⟩
  | '\n' :: after => ⟨[], { state with line := state.line + 1 }, after⟩
  | _ =>
      let reason := "unexpected character after line continuation character"
      ⟨[.stuck reason state.brackets.head?], state, []⟩

/-- A bracket, an operator, or any other character. -/
def takeSign (state : State) (c : Char) (rest : List Char) : Except String Step := do
  if !Quoted.isPrintable c then
    throw s!"invalid non-printable character U+{codeOf c}"
  let brackets ← followBracket state.brackets state.line c
  let (operator, after) := takeOperator c rest
  return .token (.sign (String.ofList operator)) { state with brackets } after

/-- Goes on from a character. -/
def step (state : State) (c : Char) (rest : List Char) : Except String Step :=
  if isBlank c then .ok ⟨[], state, rest⟩
  else if c = '#' then .ok ⟨[], state, rest.dropWhile (· != '\n')⟩
  else if c = '\n' then .ok (takeLineEnd state rest)
  else if c = '\\' then .ok (takeContinuation state rest)
  else if c.isDigit || (c = '.' && rest.head?.any Char.isDigit) then
    (takeNumber (c :: rest)).map fun (imaginary, after) => .token (.number imaginary) state after
  else if isWordChar c then takeWord state (c :: rest)
  else if c = '"' || c = '\'' then takeText state [] c rest
  else takeSign state c rest

/-- The tokens of a text; `fuel` bounds the number of steps. -/
def readFrom (fuel : Nat) (state : State) (text : List Char) : List Token :=
  let level := state.brackets.length
  match fuel, text with
  | 0, _ | _, [] => [{ kind := ending state.brackets, line := state.line, level }]
  | fuel + 1, c :: rest =>
      match step state c rest with
      | .error reason => [{ kind := .broken reason, line := state.line, level }]
      | .ok next =>
          let level := next.state.brackets.length
          next.kinds.map (fun kind =>
            { kind, line := state.line, level, toTheEnd := next.rest.isEmpty && kind.mayGrow }) ++
            readFrom fuel next.state next.rest

/-- The text with its ends of lines made uniform. -/
def uniform (text : List Char) : List Char :=
  Text.replace ['\r'] ['\n'] (Text.replace ['\r', '\n'] ['\n'] text)

/-- The tokens of a text. -/
def read (text : List Char) : List Token :=
  let lines := uniform text
  let tokens := readFrom lines.length {} lines
  if isIndented false false lines then { kind := .indentation, line := 1, level := 0 } :: tokens
  else tokens

end Token
end Literal
end TestAtlas
