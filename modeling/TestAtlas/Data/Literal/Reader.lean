import Std.Data.HashMap
import TestAtlas.Data.Literal.Mistake
import TestAtlas.Data.Literal.Token

/-!
Readers of terms. A reader takes something from the front of the tokens, or
finds that it is not there and takes nothing; a reader may also find that
nothing at all can be read. What was read at a place is kept, so that readers
may come back to it.
-/

namespace TestAtlas
namespace Literal

/-- A place between tokens. -/
structure Place where
  /-- The number of tokens in front of it. -/
  count : Nat := 0
  /-- The open brackets behind the token in front of it. -/
  level : Nat := 0
  rest : List Token

/-- What is kept about places. -/
inductive Rule where
  | expression
  | disjunction
  | bitwise
  | primary
  deriving DecidableEq, Hashable

/-- The tokens that readers have seen so far. -/
structure Seen where
  /-- The last line with one of them. -/
  line : Nat := 1
  /-- Whether the text had to end to tell where one of them ends. -/
  toTheEnd : Bool := false

structure ReadingState where
  place : Place
  seen : Seen := {}
  known : Std.HashMap (Rule × Nat) (Option (Term × Place)) := {}

/-- Why nothing can be read. -/
inductive Halt where
  /-- No token can be read. -/
  | atToken (reason : String)
  | mistake (mistake : Mistake) (seen : Seen)

def TermReader (α : Type) : Type := OptionT (StateT ReadingState (Except Halt)) α

namespace TermReader

instance : Monad TermReader := inferInstanceAs (Monad (OptionT (StateT ReadingState (Except Halt))))

def run {α : Type} (reader : TermReader α) (state : ReadingState) :
    Except Halt (Option α × ReadingState) := reader state

/-- A reader that takes nothing. -/
def look {α : Type} (view : ReadingState → α) : TermReader α := fun state =>
  .ok (some (view state), state)

def modify (change : ReadingState → ReadingState) : TermReader Unit := fun state =>
  .ok (some (), change state)

def halt {α : Type} (reason : Halt) : TermReader α := fun _ => .error reason

def place : TermReader Place := look (·.place)

def goTo (place : Place) : TermReader Unit := modify fun state => { state with place }

/-- What a reader gives, if anything; if not, no token is taken. -/
def option {α : Type} (reader : TermReader α) : TermReader (Option α) := fun state =>
  match reader.run state with
  | .error reason => .error reason
  | .ok (none, after) => .ok (some none, { after with place := state.place })
  | .ok (some found, after) => .ok (some (some found), after)

instance : Alternative TermReader where
  failure := fun state => .ok (none, state)
  orElse first second := do
    match ← option first with
    | some found => return found
    | none => second ()

def stop {α : Type} (mistake : Mistake) : TermReader α := do
  halt (.mistake mistake (← look (·.seen)))

/-- What a reader gives, kept for the next time that it is asked for at the same place. -/
def remember (rule : Rule) (reader : TermReader Term) : TermReader Term := fun state =>
  let key := (rule, state.place.count)
  match state.known[key]? with
  | some (some (term, place)) => .ok (some term, { state with place })
  | some none => .ok (none, state)
  | none =>
      match reader.run state with
      | .error reason => .error reason
      | .ok (found?, after) =>
          let entry := found?.map (·, after.place)
          .ok (found?, { after with known := after.known.insert key entry })

/-- The kind of the next token. -/
def peek : TermReader Token.Kind := do
  match (← place).rest with
  | [] => failure
  | token :: _ =>
      modify fun state =>
        { state with
          seen :=
            { line := max state.seen.line token.line
              toTheEnd := state.seen.toTheEnd || token.toTheEnd } }
      match token.kind with
      | .stuck reason _ | .broken reason => halt (.atToken reason)
      | kind => return kind

def skip : TermReader Unit := modify fun state =>
  match state.place.rest with
  | [] => state
  | token :: rest => { state with place := ⟨state.place.count + 1, token.level, rest⟩ }

def take (sign : String) : TermReader Unit := do
  if (← peek) = .sign sign then skip else failure

/-- Takes one of some signs. -/
def takeOf (signs : List String) : TermReader String := do
  match ← peek with
  | .sign sign =>
      if signs.contains sign then
        skip
        return sign
      else failure
  | _ => failure

def takeName : TermReader String := do
  match ← peek with
  | .name text => do
      skip
      return text
  | _ => failure

def takeLineEnd : TermReader Unit := do
  if (← peek) = .lineEnd then skip else failure

def accepts {α : Type} (reader : TermReader α) : TermReader Bool := do
  return (← option reader).isSome

/-- What a reader would give; no token is taken. -/
def ahead {α : Type} (reader : TermReader α) : TermReader (Option α) := do
  let before ← place
  let found? ← option reader
  goTo before
  return found?

/-- Whether a reader would give something. -/
def follows {α : Type} (reader : TermReader α) : TermReader Bool := do
  return (← ahead reader).isSome

/-- Whether one of some signs is next. -/
def isNext (signs : List String) : TermReader Bool := do
  match ← peek with
  | .sign sign => return signs.contains sign
  | _ => return false

/-- Goes on only where one of some signs is next. -/
def expect (signs : List String) : TermReader Unit := do
  if !(← isNext signs) then failure

/-- Goes on only where none of some signs is next. -/
def refuse (signs : List String) : TermReader Unit := do
  if ← isNext signs then failure

/-- Stops if a reader would give something that is a mistake. -/
def stopIf {α : Type} (reader : TermReader α) (mistake : α → Mistake) : TermReader Unit := do
  match ← ahead reader with
  | some found => stop (mistake found)
  | none => pure ()

/-- What a reader gives time after time, at most some times. -/
def many {α : Type} (reader : TermReader α) : Nat → TermReader (List α)
  | 0 => return []
  | count + 1 => do
      match ← option reader with
      | some found => return found :: (← many reader count)
      | none => return []

/-- The same, but at least once. -/
def several {α : Type} (reader : TermReader α) (count : Nat) : TermReader (List α) := do
  let first ← reader
  return first :: (← many reader count)

/-- What a reader gives, with commas between. -/
def separated {α : Type} (reader : TermReader α) (count : Nat) : TermReader (List α) := do
  let first ← reader
  let others ← many (do
    take ","
    reader) count
  return first :: others

/-- The same, with perhaps a comma behind. -/
def listed {α : Type} (reader : TermReader α) (count : Nat) : TermReader (List α) := do
  let found ← separated reader count
  let _ ← option (take ",")
  return found

end TermReader
end Literal
end TestAtlas
