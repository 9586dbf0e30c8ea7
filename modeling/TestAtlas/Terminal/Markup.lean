import TestAtlas.Data.Access
import TestAtlas.Terminal.Action
import TestAtlas.Terminal.Style
import TestAtlas.Text.Split

/-!
Text with style tags in square brackets. A tag starts with a small letter or
one of a few marks, a slash in front closes one, and backslashes in front make
it plain text. Where nothing is coloured the tags vanish, but a closing tag
needs an open one, and the numbers in a colour have to be numbers.
-/

namespace TestAtlas
namespace Terminal

inductive MarkupError where
  /-- A closing tag, as it is written, has no open one of its name. -/
  | unmatched (tag : String) (position : Nat)
  /-- A closing tag without a name has no open one. -/
  | nothingOpen (position : Nat)
  /-- The arguments of an action, as they are written, cannot be read. -/
  | action (written : String) (problem : Action.Problem)
  deriving DecidableEq, Repr

def MarkupError.message : MarkupError → String
  | unmatched tag position =>
      s!"closing tag '{tag}' at position {position} doesn't match any open tag"
  | nothingOpen position => s!"closing tag '[/]' at position {position} has nothing to close"
  | action written (.malformed arguments reason) =>
      s!"error parsing {Quoted.quote arguments} in {Quoted.quote written}; {reason}"
  | action written (.notALiteral reason) => s!"error parsing {Quoted.quote written}; {reason}"

/-- Why something cannot be printed. -/
inductive PrintError where
  | markup (error : MarkupError)
  | number (problem : Numeral.Problem)
  /-- What is to be printed is not what it should be. -/
  | misuse (misuse : Misuse)
  deriving DecidableEq, Repr

namespace PrintError

/-- The kind under which it is reported. -/
def kind : PrintError → String
  | markup _ => "rich.errors.MarkupError"
  | number _ => "ValueError"
  | misuse m => m.kind

def message : PrintError → String
  | markup error => error.message
  | number problem => problem.message
  | misuse m => m.message

end PrintError

namespace Markup

/-- A character that a tag may start with. -/
def startsTag (c : Char) : Bool := ('a' ≤ c && c ≤ 'z') || c == '#' || c == '/' || c == '@'

/-- What follows an opening bracket, up to the first closing one, as the content of a tag. -/
def tagBody? (text : List Char) : Option (List Char × List Char) :=
  match text with
  | [] => none
  | c :: rest =>
      if startsTag c then
        let inner := rest.takeWhile fun c => c != '[' && c != ']'
        match rest.dropWhile fun c => c != '[' && c != ']' with
        | ']' :: after => some (c :: inner, after)
        | _ => none
      else none

theorem length_of_tagBody? {text body after : List Char} (h : tagBody? text = some (body, after)) :
    after.length < text.length := by
  cases text with
  | nil => cases h
  | cons c rest =>
      simp only [tagBody?] at h
      split at h
      · have shorter := (List.dropWhile_sublist (l := rest) fun c => c != '[' && c != ']').length_le
        split at h
        · rename_i eq
          simp only [Option.some.injEq, Prod.mk.injEq] at h
          rw [eq, List.length_cons, h.2] at shorter
          simp only [List.length_cons]
          omega
        · cases h
      · cases h

/-- A piece of marked text. Tags have the position of their bracket. -/
inductive Piece where
  | text (chars : List Char)
  | tag (body : List Char) (position : Nat)
  deriving DecidableEq, Repr

/-- A tag after backslashes: pairs of them stand for one each, and an odd one makes the tag plain
text. -/
def piecesOfTag (backslashes : Nat) (body : List Char) (position : Nat) : List Piece :=
  (if backslashes < 2 then [] else [Piece.text (List.replicate (backslashes / 2) '\\')]) ++
    if backslashes % 2 = 1 then [.text ('[' :: body ++ [']'])]
    else [.tag body (position + backslashes)]

def textPiece (reversed : List Char) : List Piece :=
  if reversed.isEmpty then [] else [.text reversed.reverse]

/-- The pieces of a text; `run` is the plain text just before in reverse. -/
def pieces (run : List Char) (position : Nat) (text : List Char) : List Piece :=
  match text with
  | [] => textPiece run
  | c :: rest =>
      let backslashes := ((c :: rest).takeWhile (· == '\\')).length
      match _found : (c :: rest).drop backslashes with
      | '[' :: inner =>
          match _body : tagBody? inner with
          | some (body, after) =>
              textPiece run ++ piecesOfTag backslashes body position ++
                pieces [] (position + backslashes + body.length + 2) after
          | none => pieces (c :: run) (position + 1) rest
      | _ => pieces (c :: run) (position + 1) rest
termination_by text.length
decreasing_by
  · have shorter := length_of_tagBody? _body
    have eq := congrArg List.length _found
    simp only [List.length_drop, List.length_cons] at eq
    simp only [List.length_cons]
    omega
  · simp
  · simp

/-- The name of a tag and what stands behind an equals sign. -/
def nameAndArguments (body : List Char) : List Char × Option (List Char) :=
  match body.dropWhile (· != '=') with
  | _ :: arguments => (body.takeWhile (· != '='), some arguments)
  | [] => (body, none)

/-- A tag that is open from a position in the plain text on. -/
structure Opened where
  start : Nat
  name : List Char
  arguments? : Option (List Char) := none

/-- A style with arguments over a part of a plain text. -/
structure Span where
  start : Nat
  stop : Nat
  style : List Char

/-- A plain text with the styles over it that have arguments. -/
structure Marked where
  text : List Char
  spans : List Span := []

/-- Takes the innermost open tag of a name away. -/
def close? (name : List Char) : List Opened → Option (Opened × List Opened)
  | [] => none
  | tag :: outer =>
      if tag.name = name then some (tag, outer)
      else (close? name outer).map fun (found, rest) => (found, tag :: rest)

/-- The part of a text over which a tag held, up to its end. -/
def Opened.spans (tag : Opened) (stop : Nat) : List Span :=
  tag.arguments?.toList.map fun arguments => ⟨tag.start, stop, tag.name ++ ' ' :: arguments⟩

/-- Ends a tag. The arguments of an action, whose name starts with a mark of its own, have to be
readable then. -/
def Opened.finish (tag : Opened) (stop : Nat) : Except PrintError (List Span) :=
  if tag.name.head? = some '@' then
    let arguments := tag.arguments?.getD []
    match Action.check arguments with
    | .ok () => .ok []
    | .error problem => .error (.markup (.action (String.ofList arguments) problem))
  else .ok (tag.spans stop)

/-- What was read of a marked text; texts and spans are in reverse. -/
structure Reading where
  texts : List (List Char) := []
  length : Nat := 0
  opened : List Opened := []
  spans : List Span := []

namespace Reading

def add (reading : Reading) (text : List Char) : Reading :=
  { reading with texts := text :: reading.texts, length := reading.length + text.length }

def close (reading : Reading) (tag : Opened) (outer : List Opened) : Except PrintError Reading := do
  return { reading with
    opened := outer
    spans := (← tag.finish reading.length) ++ reading.spans }

/-- Goes on with a tag. -/
def follow (reading : Reading) (body : List Char) (position : Nat) : Except PrintError Reading := do
  let (name, arguments?) := nameAndArguments body
  match name with
  | '/' :: name =>
      if (Blank.trim Blank.isBlank name).isEmpty then
        match reading.opened with
        | [] => throw (.markup (.nothingOpen position))
        | tag :: outer => reading.close tag outer
      else
        let name ← (Style.normalize name).mapError .number
        match close? name reading.opened with
        | some (tag, outer) => reading.close tag outer
        | none => throw (.markup (.unmatched (String.ofList ('[' :: body ++ [']'])) position))
  | name =>
      let name ← (Style.normalize name).mapError .number
      return { reading with opened := ⟨reading.length, name, arguments?⟩ :: reading.opened }

/-- The text that was read. Tags that are still open hold up to its end. -/
def finish (reading : Reading) : Marked where
  text := reading.texts.reverse.flatten
  spans := ((reading.opened.reverse.flatMap fun tag => tag.spans reading.length) ++
    reading.spans).mergeSort fun a b => a.start ≤ b.start

end Reading

/-- Goes on with a piece, plain text being shown in some way. A bracket after a backslash stands
for itself. -/
def step (shown : List Char → List Char) (reading : Reading) : Piece → Except PrintError Reading
  | .text chars => .ok (reading.add (shown (Text.replace ['\\', '['] ['['] chars)))
  | .tag body position => reading.follow body position

/-- Reads a marked text, whose plain texts are shown in some way. -/
def read (shown : List Char → List Char) (markup : List Char) : Except PrintError Marked :=
  ((pieces [] 0 markup).foldlM (step shown) {}).map Reading.finish

end Markup
end Terminal
end TestAtlas
