import TestAtlas.Scan.Scanner
import TestAtlas.Signature
import TestAtlas.Trait

/-!
Finding tests by signature. The methods of the executable are taken over first;
when a signature has no match, further program databases are scanned, and after
them the modules that the executable imports. Each of these tiers is tried at
most once, and one that fails has been tried as well.
-/

namespace TestAtlas

structure Resolver where
  executable : String
  extension? : Option String
  /-- Patterns of further program databases. -/
  additional : List String
  matcher : Matcher
  triedAdditional : Bool := false
  triedImports : Bool := false
  progress : Progress := {}

namespace Resolver

variable {m : Type → Type} [Monad m] {Reader : Type}

/-- Runs a step of the search. A failure ends the step and is remarked on. -/
def attempt (resolver : Resolver) (tier : String) (step : Search m Unit) : m Resolver := do
  match ← step.run.run resolver.progress with
  | (.ok (), progress) => return { resolver with progress }
  | (.error failure, progress) =>
      let entry := Entry.searchError
        (s!"Exception while loading symbols from {tier} of " ++
          s!"'{resolver.executable}':\n{failure.report}")
      return { resolver with progress := progress.record [.remarked entry] }

/-- Scans the files of a pattern as program databases of the executable. -/
def scanPattern (parties : Collaborators m Reader) (resolver : Resolver) (pattern : String) :
    Search m Unit := do
  Search.emit [.matching pattern]
  let files ← Search.ask (parties.filesMatching pattern)
  if files.isEmpty then
    Search.remark [.warning s!"Additional PDB pattern '{pattern}' does not match any files"]
  else
    Search.remark [.searchInfo
      s!"Additional PDB pattern '{pattern}' matches {files.length} files"]
    files.forM fun file => do
      let _ ← Scanner.scan parties resolver.extension? resolver.executable (some file)

/-- Tries the further program databases. -/
def loadAdditional (parties : Collaborators m Reader) (resolver : Resolver) : m Resolver :=
  { resolver with triedAdditional := true }.attempt "additional PDBs"
    (resolver.additional.forM (scanPattern parties resolver))

/-- Scans an imported module if it is a file beside the executable. -/
def scanImport (parties : Collaborators m Reader) (resolver : Resolver) (imported : String) :
    Search m Unit := do
  let path := Path.join (Path.directory resolver.executable) imported
  if ← (monadLift (n := StateT Progress m) (parties.isFile path) : StateT Progress m _) then
    let _ ← Scanner.scan parties resolver.extension? path none

/-- Tries the imported modules. -/
def loadImports (parties : Collaborators m Reader) (resolver : Resolver) : m Resolver :=
  { resolver with triedImports := true }.attempt "imports" do
    Search.emit [.listingImports resolver.executable]
    let imports ← Search.ask (parties.importsOf resolver.executable)
    imports.forM (scanImport parties resolver)

/-- What there is to say about the trait methods of a test that are malformed. -/
def malformedRemarks (test : Symbol) (methods : List Symbol) : List Event :=
  (Trait.malformed test methods).map fun m =>
    .remarked (.searchWarning s!"Ignoring malformed trait symbol '{m.name}'")

/-- Looks a test up among the methods found so far. -/
def lookUp (resolver : Resolver) (signatures : List String) : Option TestCase × Resolver :=
  let table := resolver.progress.table
  match resolver.matcher.find? table.tests signatures with
  | none => (none, resolver)
  | some test =>
      let progress := resolver.progress.record (malformedRemarks test table.traits)
      (some (TestCase.ofSymbol test table.traits), { resolver with progress })

/-- Tries a tier and looks up again, unless there is an answer or the tier was tried before. -/
def escalate (tried : Resolver → Bool) (load : Resolver → m Resolver) (signatures : List String)
    (found? : Option TestCase) (resolver : Resolver) : m (Option TestCase × Resolver) :=
  if found?.isNone && !tried resolver then
    (·.lookUp signatures) <$> load resolver
  else
    pure (found?, resolver)

/-- The first test that one of the signatures denotes. -/
def find (parties : Collaborators m Reader) (resolver : Resolver) (signatures : List String) :
    m (Option TestCase × Resolver) := do
  let (found?, resolver) := resolver.lookUp signatures
  let (found?, resolver) ←
    escalate triedAdditional (loadAdditional parties) signatures found? resolver
  escalate triedImports (loadImports parties) signatures found? resolver

/-- A resolver that never looks at any symbols. -/
def inert (resolver : Resolver) : Resolver :=
  { resolver with triedAdditional := true, triedImports := true }

/-- Makes a resolver ready. Unless symbols are not wanted, the executable is scanned; that this
cannot even be tried is a failure. -/
def start (parties : Collaborators m Reader) (resolver : Resolver) (parseSymbols : Bool) :
    m (Except Failure Unit × Resolver) := do
  if parseSymbols then
    let step := Scanner.scan parties resolver.extension? resolver.executable none
    let (outcome, progress) ← step.run.run resolver.progress
    return (outcome.map fun _ => (), { resolver with progress })
  else return (.ok (), resolver.inert)

end Resolver
end TestAtlas
