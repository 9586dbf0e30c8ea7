import TestAtlas.Report.Listing
import TestAtlas.SymbolTable

/-!
Which symbols of a table are listed: those of some categories whose name has a
text in it, and of these as many as wanted.
-/

namespace TestAtlas
namespace Report

/-- The categories that are listed. -/
inductive Kind where
  | all
  | tests
  | traits
  deriving DecidableEq, Repr

structure Selection where
  kind : Kind := .all
  /-- A text in the names, in any mixture of capital and small letters; an empty one is in all. -/
  search? : Option String := none
  limit? : Option Int := none
  deriving DecidableEq, Repr

namespace Selection

/-- Whether a text occurs in another one. -/
def occursIn (part text : List Char) : Bool := (Text.lastIndex? part text).isSome

def matchesSearch (search? : Option String) (symbol : Symbol) : Bool :=
  match search? with
  | none => true
  | some s => occursIn (Casing.lower s).toList (Casing.lower symbol.name).toList

/-- The symbols up to a limit. One below zero says how many are left out at the end, and zero is
no limit. -/
def upTo (limit? : Option Int) (symbols : List Symbol) : List Symbol :=
  match limit? with
  | none => symbols
  | some limit =>
      if limit = 0 then symbols
      else if 0 < limit then symbols.take limit.toNat
      else symbols.take (symbols.length - limit.natAbs)

/-- The symbols of a category that are listed: first searched, then limited. -/
def pick (selection : Selection) (symbols : List Symbol) : List Symbol :=
  upTo selection.limit? (symbols.filter (matchesSearch selection.search?))

def listing (selection : Selection) (table : SymbolTable) : Listing :=
  (if selection.kind = .traits then [] else [("tests", selection.pick table.tests)]) ++
    if selection.kind = .tests then [] else [("traits", selection.pick table.traits)]

end Selection
end Report
end TestAtlas
