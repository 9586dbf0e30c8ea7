import TestAtlas.Symbol

/-!
The test and trait methods found so far, in the order in which they were found
and with repetitions. A table only grows.
-/

namespace TestAtlas

structure SymbolTable where
  tests : List Symbol := []
  traits : List Symbol := []
  deriving DecidableEq, Repr

namespace SymbolTable

def addTests (table : SymbolTable) (batch : List Symbol) : SymbolTable :=
  { table with tests := table.tests ++ batch }

def addTraits (table : SymbolTable) (batch : List Symbol) : SymbolTable :=
  { table with traits := table.traits ++ batch }

/-- The number of methods of both kinds. -/
def size (table : SymbolTable) : Nat := table.tests.length + table.traits.length

/-- A summary for messages. -/
def describe (table : SymbolTable) : String :=
  s!"SymbolStore(test_methods={table.tests.length}, traits={table.traits.length})"

@[simp] theorem size_addTests (table : SymbolTable) (batch : List Symbol) :
    (table.addTests batch).size = table.size + batch.length := by
  simp only [addTests, size, List.length_append]
  omega

@[simp] theorem size_addTraits (table : SymbolTable) (batch : List Symbol) :
    (table.addTraits batch).size = table.size + batch.length := by
  simp only [addTraits, size, List.length_append]
  omega

end SymbolTable
end TestAtlas
