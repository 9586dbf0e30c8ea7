import TestAtlas.Symbol
import TestAtlas.Text.Letter

/-!
Which symbol a signature denotes. A signature may leave out leading scopes of
the qualified name, and the name may go on after it.
-/

namespace TestAtlas

/-- A rule that tells whether a name is denoted by one of several signatures. -/
structure Matcher where
  accepts : (signatures : List String) → (name : String) → Bool

namespace Matcher

/-- The first symbol that one of the signatures denotes; none without any signature. -/
def find? (matcher : Matcher) (symbols : List Symbol) (signatures : List String) : Option Symbol :=
  if signatures.isEmpty then none
  else symbols.find? fun s => matcher.accepts signatures s.name

/-- A name is denoted by itself only. -/
def exact : Matcher where
  accepts signatures name := signatures.contains name

end Matcher

namespace Signature

/-- How a scope without a name is written. -/
def anonymousScope : List Char := "`anonymous namespace'".toList

/-- What follows the word or the nameless scope that a name starts with. -/
def afterScope (name : List Char) : List Char :=
  if anonymousScope.isPrefixOf name then name.drop anonymousScope.length
  else name.dropWhile Letter.isWord

/-- What follows the first scope of a name and its separator. -/
def dropScope? (name : List Char) : Option (List Char) :=
  let rest := afterScope name
  if rest.length < name.length ∧ Symbol.separator.isPrefixOf rest then
    some (rest.drop Symbol.separator.length)
  else
    none

theorem length_of_dropScope? {name rest : List Char} (h : dropScope? name = some rest) :
    rest.length < name.length := by
  simp only [dropScope?] at h
  split at h
  · rename_i shorter
    injection h with h
    rw [← h, List.length_drop]
    omega
  · cases h

/-- Whether a name goes on with one of the signatures, possibly after some leading scopes. -/
def denotes (signatures : List (List Char)) (name : List Char) : Bool :=
  signatures.any (·.isPrefixOf name) ||
    match _found : dropScope? name with
    | some rest => denotes signatures rest
    | none => false
termination_by name.length
decreasing_by exact length_of_dropScope? _found

end Signature

/-- The rule for qualified names. -/
def Matcher.qualified : Matcher where
  accepts signatures name := Signature.denotes (signatures.map String.toList) name.toList

/-- The first symbol with a qualified name that one of the signatures denotes, which are taken
apart once for all symbols; none without any signature. -/
def Signature.find? (symbols : List Symbol) (signatures : List String) : Option Symbol :=
  if signatures.isEmpty then none
  else
    let apart := signatures.map String.toList
    symbols.find? fun s => denotes apart s.name.toList

end TestAtlas
