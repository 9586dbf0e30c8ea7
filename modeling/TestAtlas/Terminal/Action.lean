import TestAtlas.Data.Literal.Grammar
import TestAtlas.Text.Blank

/-!
Actions that a text can have. The arguments of an action are a literal, or a
name with a tuple of literals behind it; the name alone stands for no arguments.
-/

namespace TestAtlas
namespace Terminal
namespace Action

/-- Why the arguments of an action cannot be read. -/
inductive Problem where
  /-- The arguments are no term. -/
  | malformed (arguments reason : String)
  /-- The arguments are a term, but no literal. -/
  | notALiteral (reason : String)
  deriving DecidableEq, Repr

/-- The arguments without the name of what handles the action, and without brackets if there is
only the name. -/
def withoutName (arguments : List Char) : List Char :=
  let isNameChar (c : Char) : Bool := Letter.isWord c || c == '.'
  match arguments.dropWhile isNameChar with
  | [] => "()".toList
  | c :: rest =>
      if c = '(' && rest.getLast? = some ')' && !rest.contains '\n' then c :: rest else arguments

/-- Blanks that may stand in front of a term. -/
def isLeadingBlank (c : Char) : Bool := c == ' ' || c == '\t'

/-- Checks that arguments can be read. -/
def check (arguments : List Char) : Except Problem Unit :=
  if arguments.isEmpty then .ok ()
  else
    let literal := withoutName (Blank.trim Blank.isBlank arguments)
    match Literal.Grammar.read (literal.dropWhile isLeadingBlank) with
    | .error reason => .error (.malformed (String.ofList literal) reason)
    | .ok term =>
        match term.check with
        | .error fault => .error (.notALiteral fault.message)
        | .ok _ => .ok ()

end Action
end Terminal
end TestAtlas
