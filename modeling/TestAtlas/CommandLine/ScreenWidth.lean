import TestAtlas.Data.Numeral
import TestAtlas.Files.Host
import TestAtlas.Text.Casing

/-!
How wide the screen is, as far as variables of the surroundings tell. A value
that looks like a number has to be one, also where it does not matter. What
knows no more than plain text is taken to have the usual width, unless both
sides of the screen are given.
-/

namespace TestAtlas
namespace CommandLine

/-- What the variables say about the screen. -/
structure ScreenHints where
  columns? : Option String := none
  lines? : Option String := none
  /-- The name of the terminal. -/
  terminal? : Option String := none
  /-- Whether output goes to a terminal, as a digit. -/
  compatible? : Option String := none
  /-- Anything, if output is to be treated as if it went to a terminal. -/
  forced? : Option String := none
  deriving DecidableEq, Repr

namespace ScreenHints

variable {m : Type → Type} [Monad m]

def read (host : Host m) : m ScreenHints := do
  return {
    columns? := ← host.variableNamed "COLUMNS"
    lines? := ← host.variableNamed "LINES"
    terminal? := ← host.variableNamed "TERM"
    compatible? := ← host.variableNamed "TTY_COMPATIBLE"
    forced? := ← host.variableNamed "FORCE_COLOR" }

/-- The columns of a screen about which nothing is known. -/
def usualWidth : Nat := 80

/-- The number that a variable gives, if its value looks like one. -/
def size? (hint? : Option String) : Except Numeral.Problem (Option Nat) :=
  match hint? with
  | none => .ok none
  | some hint =>
      if hint.isEmpty || !hint.toList.all Numeral.looksLikeDigit then .ok none
      else (Numeral.read hint).map fun n => some n.toNat

def isTerminal (hints : ScreenHints) : Bool :=
  if hints.compatible? = some "0" then false
  else if hints.compatible? = some "1" then true
  else hints.forced?.any (· != "")

/-- Whether there is a terminal that knows no more than plain text. -/
def isBare (hints : ScreenHints) : Bool :=
  hints.isTerminal && hints.terminal?.any fun t => Casing.lower t ∈ ["dumb", "unknown"]

/-- The columns of the screen. -/
def width (hints : ScreenHints) : Except Numeral.Problem Nat := do
  let columns? ← size? hints.columns?
  let lines? ← size? hints.lines?
  return if lines?.isNone && hints.isBare then usualWidth else columns?.getD usualWidth

end ScreenHints
end CommandLine
end TestAtlas
