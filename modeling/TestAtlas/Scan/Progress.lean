import TestAtlas.Diagnostics
import TestAtlas.Failure
import TestAtlas.SymbolTable

/-!
What a search has done so far: the symbols it found and the events on the way.
-/

namespace TestAtlas

/-- Something that happened during a search. -/
inductive Event where
  | remarked (entry : Entry)
  /-- A reader was asked for. -/
  | opening (binary database : String)
  /-- A reader that had been opened was closed. -/
  | closed (database : String)
  /-- The files of a pattern were asked for. -/
  | matching (pattern : String)
  /-- The imports of a binary were asked for. -/
  | listingImports (binary : String)
  deriving DecidableEq, Repr

def Event.entry? : Event → Option Entry
  | remarked entry => some entry
  | _ => none

structure Progress where
  table : SymbolTable := {}
  events : List Event := []
  deriving DecidableEq, Repr

namespace Progress

def record (progress : Progress) (events : List Event) : Progress :=
  { progress with events := progress.events ++ events }

/-- What was said so far. -/
def entries (progress : Progress) : List Entry := progress.events.filterMap Event.entry?

end Progress

/-- A step of a search: it works on the progress and may fail, keeping what it did before. -/
abbrev Search (m : Type → Type) (α : Type) := ExceptT Failure (StateT Progress m) α

namespace Search

variable {m : Type → Type} [Monad m]

def emit (events : List Event) : Search m Unit := modify (·.record events)

def remark (entries : List Entry) : Search m Unit := emit (entries.map .remarked)

/-- Asks a party that has something to say along with its answer. -/
def ask {α : Type} (party : m (Except Failure α × List Entry)) : Search m α := do
  let (outcome, entries) ← (monadLift (n := StateT Progress m) party : StateT Progress m _)
  remark entries
  match outcome with
  | .ok a => return a
  | .error failure => throw failure

end Search
end TestAtlas
