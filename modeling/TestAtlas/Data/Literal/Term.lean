/-!
Terms that can be written where a literal is expected. Not all of them are
literals: a term that has to be worked out is none, and neither is one whose
parts cannot be kept apart in a set or a record.
-/

namespace TestAtlas
namespace Literal

inductive Term where
  | name (text : String)
  /-- A reserved word that stands for a value. -/
  | constant (word : String)
  | ellipsis
  | number (imaginary : Bool)
  | text
  /-- A text with places that are filled with values. -/
  | filledText
  | tuple (items : List Term)
  | set (items : List Term)
  /-- Keys with values; a value without a key is a record of its own. -/
  | record (pairs : List (Option Term × Term))
  | part
  | call (function : Term) (arguments : Nat)
  /-- A plus or a minus in front. -/
  | signed (term : Term)
  /-- Two terms with a plus or a minus between them. -/
  | sum (left right : Term)
  | operation
  /-- Terms that are compared; the first one is kept if it is looked for in the second one. -/
  | comparison (sought : Option Term)
  | conditional
  | function
  | generator
  | setComprehension
  | recordComprehension
  | starred (term : Term)
  | awaited
  | yielded
  | named

namespace Term

/-- What a term is called where it cannot be assigned to. -/
def description : Term → String
  | name _ => "name"
  | constant word => word
  | ellipsis => "ellipsis"
  | number _ | text => "literal"
  | filledText => "f-string expression"
  | tuple _ => "tuple"
  | set _ => "set display"
  | record _ => "dict literal"
  | part => "attribute"
  | call .. => "function call"
  | signed _ | sum .. | operation => "expression"
  | comparison _ => "comparison"
  | conditional => "conditional expression"
  | function => "lambda"
  | generator => "generator expression"
  | setComprehension => "set comprehension"
  | recordComprehension => "dict comprehension"
  | starred _ => "starred"
  | awaited => "await expression"
  | yielded => "yield expression"
  | named => "named expression"

mutual

/-- The first part of a term that no value can be given to, where the term stands in front of what
a generator goes through. -/
def fixedPart? : Term → Option Term
  | name _ | part | comparison none => none
  | tuple items => fixedPartOf? items
  | starred term | comparison (some term) => fixedPart? term
  | term => some term

def fixedPartOf? : List Term → Option Term
  | [] => none
  | term :: rest => fixedPart? term <|> fixedPartOf? rest

end

mutual

/-- Whether values can be given to a term. -/
def isTarget : Term → Bool
  | name _ | part => true
  | tuple items => areTargets items
  | _ => false

def areTargets : List Term → Bool
  | [] => true
  | starred term :: rest => isTarget term && areTargets rest
  | term :: rest => isTarget term && areTargets rest

end

/-- Why a term is no literal. -/
inductive Fault where
  | workedOut (place : String)
  /-- A set or a record where something is needed that never changes. -/
  | changeable (kind : String)
  deriving DecidableEq, Repr

def Fault.message : Fault → String
  | workedOut place => s!"malformed node or string{place}"
  | changeable kind => s!"unhashable type: '{kind}'"

/-- Whether a number with a sign or without one is imaginary. -/
def imaginary? : Term → Option Bool
  | number imaginary | signed (number imaginary) => some imaginary
  | _ => none

/-- A real number and an imaginary one make a number. -/
def isNumber : Term → Bool
  | sum left (number true) => imaginary? left == some false
  | term => (imaginary? term).isSome

/-- A term that stands somewhere and has to be worked out. -/
def notALiteral : Fault := .workedOut " on line 1"

mutual

/-- Checks that a term is a literal. The answer is what it is called if it may change. -/
def check : Term → Except Fault (Option String)
  | constant _ | ellipsis | text => .ok none
  | tuple items => checkItems items
  | set items => do
      checkFixed items
      return some "set"
  | record pairs => do
      checkPairs pairs
      return some "dict"
  | call (name "set") 0 => .ok (some "set")
  | term => if term.isNumber then .ok none else .error notALiteral

/-- Checks items one after another. A tuple may change if one of its items does. -/
def checkItems : List Term → Except Fault (Option String)
  | [] => .ok none
  | term :: rest => do
      let first ← check term
      let others ← checkItems rest
      return first <|> others

/-- Checks items none of which may change. -/
def checkFixed : List Term → Except Fault Unit
  | [] => .ok ()
  | term :: rest => do
      match ← check term with
      | some kind => throw (.changeable kind)
      | none => checkFixed rest

def checkPairs : List (Option Term × Term) → Except Fault Unit
  | [] => .ok ()
  | (key?, value) :: rest => do
      let changeable? ← match key? with
        | some key => check key
        | none => throw (.workedOut ": None")
      let _ ← check value
      match changeable? with
      | some kind => throw (.changeable kind)
      | none => checkPairs rest

end

end Term
end Literal
end TestAtlas
