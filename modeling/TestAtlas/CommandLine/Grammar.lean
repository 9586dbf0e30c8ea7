import TestAtlas.Data.Numeral
import TestAtlas.Text.Quoted

/-!
What a command line may consist of: options, some of which take a value, and
positional arguments in a fixed order.
-/

namespace TestAtlas
namespace CommandLine

/-- What a value has to be. -/
inductive Content where
  | text
  | choice (names : List String)
  | integer
  deriving DecidableEq, Repr

/-- What an option does. -/
inductive Effect where
  | turnOn
  | take (content : Content)
  | help
  | version
  deriving DecidableEq, Repr

def Effect.takesValue : Effect → Bool
  | take _ => true
  | _ => false

/-- An option with its spellings. -/
structure Switch where
  names : List String
  effect : Effect := .turnOn
  deriving DecidableEq, Repr

/-- The spelling under which the value of an option is kept. -/
def Switch.key (switch : Switch) : String := switch.names.headD ""

/-- How messages call an option. -/
def Switch.label (switch : Switch) : String := String.intercalate "/" switch.names

/-- How many arguments a position takes. -/
inductive Arity where
  | one
  | several
  /-- An argument and whatever follows it, options included. -/
  | remainder
  deriving DecidableEq, Repr

structure Position where
  name : String
  arity : Arity := .one
  /-- What the first argument has to be. -/
  content : Content := .text
  deriving DecidableEq, Repr

/-- The options and positions of a program. A position that takes more than one argument comes
last. -/
structure Grammar where
  program : String
  switches : List Switch
  positions : List Position
  deriving Repr

/-- All spellings of options, with the options. -/
def Grammar.spellings (grammar : Grammar) : List (String × Switch) :=
  grammar.switches.flatMap fun switch => switch.names.map (·, switch)

def Grammar.switch? (grammar : Grammar) (spelling : String) : Option Switch :=
  (grammar.spellings.find? fun s => s.1 == spelling).map (·.2)

/-- Why a command line is refused. -/
inductive Problem where
  | unrecognized (arguments : List String)
  | required (names : List String)
  | ambiguous (option : String) (spellings : List String)
  | invalidChoice (label value : String) (choices : List String)
  | invalidInteger (label value : String)
  | noValue (label : String)
  | needlessValue (label value : String)
  deriving DecidableEq, Repr

namespace Problem

def enumerate (names : List String) : String := String.intercalate ", " names

def message : Problem → String
  | unrecognized arguments => "unrecognized arguments: " ++ String.intercalate " " arguments
  | required names => "the following arguments are required: " ++ enumerate names
  | ambiguous option spellings => s!"ambiguous option: {option} could match {enumerate spellings}"
  | invalidChoice label value choices =>
      let quoted := enumerate (choices.map Quoted.quote)
      s!"argument {label}: invalid choice: {Quoted.quote value} (choose from {quoted})"
  | invalidInteger label value => s!"argument {label}: invalid int value: {Quoted.quote value}"
  | noValue label => s!"argument {label}: expected one argument"
  | needlessValue label value =>
      s!"argument {label}: ignored explicit argument {Quoted.quote value}"

end Problem

/-- Refuses a value that is not what it has to be. -/
def Content.check (content : Content) (label value : String) : Except Problem Unit :=
  match content with
  | text => .ok ()
  | choice names =>
      if names.contains value then .ok () else .error (.invalidChoice label value names)
  | integer =>
      if (Numeral.integer? value).isSome then .ok () else .error (.invalidInteger label value)

end CommandLine
end TestAtlas
