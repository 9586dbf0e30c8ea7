import TestAtlas.Data.Literal.Term

/-!
What may be wrong with a text that is no term, and how it is told.
-/

namespace TestAtlas
namespace Literal

inductive Mistake where
  /-- Something inside a text in quotes. -/
  | inText (reason : String)
  /-- Texts side by side of which only some stand for bytes. -/
  | mixedTexts
  /-- Two terms side by side. -/
  | forgottenComma
  /-- A condition without the other case. -/
  | missingElse
  /-- A word that used to begin statements, with a term behind it. -/
  | oldStatement (word : String)
  /-- An equals sign behind a name. -/
  | equalsBehindName
  /-- An equals sign behind another term. -/
  | equalsBehind (term : Term)
  /-- A term other than a name that is given a name. -/
  | namedTerm (term : Term)
  | missingColon
  | missingValue
  | starredValue
  | starredComprehension
  | recordInComprehension
  /-- A comprehension of several terms without brackets. -/
  | bareTerms
  /-- A generator with other arguments that has no brackets of its own. -/
  | bareGenerator
  /-- A term in front of what a generator goes through that no value can be given to. -/
  | fixedTarget (term : Term)
  /-- A star without a term behind it. -/
  | strayStar
  | starInBrackets
  | twoStarsInBrackets
  /-- A reserved word as the name of an argument. -/
  | reservedName (word : String)
  /-- An argument with an equals sign that has no name. -/
  | equalsInArgument
  /-- Items as arguments behind the fields of a record. -/
  | itemsBehindFields
  | unnamedBehindFields
  | unnamedBehindNamed
  /-- The parameters of a function. -/
  | missingDefault
  | bareBehindDefault
  | bracketsAroundParameters
  | nothingBeforeSlash
  | secondSlash
  | slashBehindStar
  | noCommaBehindSlash
  | nothingBehindStar
  | defaultOfItems
  | secondStar
  | defaultOfFields
  | parameterBehindFields

def Mistake.message : Mistake → String
  | inText reason => reason
  | mixedTexts => "cannot mix bytes and nonbytes literals"
  | forgottenComma => "invalid syntax. Perhaps you forgot a comma?"
  | missingElse => "expected 'else' after 'if' expression"
  | oldStatement word =>
      s!"Missing parentheses in call to '{word}'. Did you mean {word}(...)?"
  | equalsBehindName => "invalid syntax. Maybe you meant '==' or ':=' instead of '='?"
  | equalsBehind term =>
      s!"cannot assign to {term.description} here. Maybe you meant '==' instead of '='?"
  | namedTerm term => s!"cannot use assignment expressions with {term.description}"
  | missingColon => "':' expected after dictionary key"
  | missingValue => "expression expected after dictionary key and ':'"
  | starredValue => "cannot use a starred expression in a dictionary value"
  | starredComprehension => "iterable unpacking cannot be used in comprehension"
  | recordInComprehension => "dict unpacking cannot be used in dict comprehension"
  | bareTerms => "did you forget parentheses around the comprehension target?"
  | bareGenerator => "Generator expression must be parenthesized"
  | fixedTarget term => s!"cannot assign to {term.description}"
  | strayStar => "Invalid star expression"
  | starInBrackets => "cannot use starred expression here"
  | twoStarsInBrackets => "cannot use double starred expression here"
  | reservedName word => s!"cannot assign to {word}"
  | equalsInArgument => "expression cannot contain assignment, perhaps you meant \"==\"?"
  | itemsBehindFields => "iterable argument unpacking follows keyword argument unpacking"
  | unnamedBehindFields => "positional argument follows keyword argument unpacking"
  | unnamedBehindNamed => "positional argument follows keyword argument"
  | missingDefault => "expected default value expression"
  | bareBehindDefault => "non-default argument follows default argument"
  | bracketsAroundParameters => "Lambda expression parameters cannot be parenthesized"
  | nothingBeforeSlash => "at least one argument must precede /"
  | secondSlash => "/ may appear only once"
  | slashBehindStar => "/ must be ahead of *"
  | noCommaBehindSlash => "expected comma between / and *"
  | nothingBehindStar => "named arguments must follow bare *"
  | defaultOfItems => "var-positional argument cannot have default value"
  | secondStar => "* argument may appear only once"
  | defaultOfFields => "var-keyword argument cannot have default value"
  | parameterBehindFields => "arguments cannot follow var-keyword argument"

end Literal
end TestAtlas
