import TestAtlas.Data.Binary

/-!
Values whose type is only known at run time: what fields are filled from, what
is attached to a log entry, and what structured output consists of.
-/

namespace TestAtlas

/-- A value; records keep the order of their fields. -/
inductive Value where
  | null
  | bool (b : Bool)
  | int (n : Int)
  | decimal (d : Decimal)
  | text (s : String)
  | list (items : List Value)
  | record (fields : List (String × Value))
  deriving Repr, Inhabited

namespace Value

/-- The field of a record with this name. -/
def field? (name : String) : Value → Option Value
  | record fields => (fields.find? fun f => f.1 == name).map (·.2)
  | _ => none

/-- Whether a value counts as "yes" where a condition is asked for. -/
def isTruthy : Value → Bool
  | null => false
  | bool b => b
  | int n => n != 0
  | decimal d => d.magnitude != 0
  | text s => !s.isEmpty
  | list items => !items.isEmpty
  | record fields => !fields.isEmpty

/-- Numerator and denominator of a number; truth values count as one and zero. -/
def number? : Value → Option (Int × Nat)
  | bool b => some (if b then 1 else 0, 1)
  | int n => some (n, 1)
  | decimal d =>
      let b := Binary.ofDecimal d
      some (b.signed b.numerator, b.denominator)
  | _ => none

/-- Whether two fractions have the same value. -/
def sameNumber (a b : Int × Nat) : Bool := a.1 * b.2 == b.1 * a.2

mutual

/-- Whether two values are equal, numbers by their value and records without regard to order. -/
def same : Value → Value → Bool
  | null, null => true
  | text a, text b => a == b
  | list as, list bs => sameItems as bs
  | record as, record bs => as.length == bs.length && sameFields as bs
  | a, b =>
      match a.number?, b.number? with
      | some x, some y => sameNumber x y
      | _, _ => false

def sameItems : List Value → List Value → Bool
  | [], [] => true
  | a :: as, b :: bs => same a b && sameItems as bs
  | _, _ => false

def sameFields : List (String × Value) → List (String × Value) → Bool
  | [], _ => true
  | (name, a) :: as, bs =>
      (match bs.find? fun f => f.1 == name with
        | some (_, b) => same a b
        | none => false) && sameFields as bs

end

end Value
end TestAtlas
