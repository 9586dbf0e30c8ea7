import TestAtlas.Proofs.Files.World
import TestAtlas.Resolver

/-!
Which imported modules a resolver scans. Each of them is a file that the name of
an import leads to from the directory of the executable. It lies in this directory
as long as the name does not lead elsewhere on the way.
-/

namespace TestAtlas
namespace Resolver

variable {m : Type → Type} [Monad m] [LawfulMonad m] {Reader : Type}
  {parties : Collaborators m Reader} {isFile : String → Bool}

/-- The paths of the imported modules that are files, in the order of the imports. -/
def importedFiles (isFile : String → Bool) (executable : String) (imports : List String) :
    List String :=
  (imports.map (Path.join (Path.directory executable))).filter isFile

/-- Scans a module with the program database that is found for it. -/
def scanModule (parties : Collaborators m Reader) (resolver : Resolver) (binary : String) :
    Search m Unit := do
  let _ ← Scanner.scan parties resolver.extension? binary none

theorem scanImport_eq (answers : ∀ path, parties.isFile path = pure (isFile path))
    (resolver : Resolver) (imported : String) :
    scanImport parties resolver imported =
      if isFile (Path.join (Path.directory resolver.executable) imported) then
        scanModule parties resolver (Path.join (Path.directory resolver.executable) imported)
      else pure () := by
  rw [scanImport]
  simp only [answers, liftM_pure, pure_bind]
  rfl

theorem forM_scanImport (answers : ∀ path, parties.isFile path = pure (isFile path))
    (resolver : Resolver) (imports : List String) :
    imports.forM (scanImport parties resolver) =
      (importedFiles isFile resolver.executable imports).forM (scanModule parties resolver) := by
  induction imports with
  | nil => rfl
  | cons imported others ih =>
      change (scanImport parties resolver imported >>= fun _ => _) = _
      rw [ih, scanImport_eq answers]
      simp only [importedFiles, List.map_cons, List.filter_cons]
      split
      · rfl
      · exact pure_bind _ _

/-- The imported modules that a resolver scans are the files that the names of the imports lead to
from the directory of the executable, in the order of the imports. Such a file lies directly in this
directory exactly if the directory of the name leads back to it, so always if the name is nothing
but the name of a file. -/
theorem imports_beside_iff {world : World}
    (rooted : Path.isAbsolute world.workingDirectory = true)
    (answers : ∀ path, parties.isFile path = pure (world.host.isFile path))
    (resolver : Resolver) :
    let directory := Path.directory resolver.executable
    let scanned := importedFiles world.host.isFile resolver.executable
    loadImports parties resolver = { resolver with triedImports := true }.attempt "imports" (do
      Search.emit [.listingImports resolver.executable]
      let imports ← Search.ask (parties.importsOf resolver.executable)
      (scanned imports).forM (scanModule parties resolver)) ∧
    ∀ imports, ∀ binary ∈ scanned imports, ∃ imported ∈ imports,
      binary = Path.join directory imported ∧
      (∃ bytes, world.root.descend (world.components binary) = some (.file bytes)) ∧
      (world.LiesIn directory binary ↔
        world.components (Path.join directory (Path.directory imported)) =
          world.components directory) ∧
      (Path.separator ∉ imported.toList → world.LiesIn directory binary) := by
  intro directory scanned
  constructor
  · rw [loadImports]
    simp only [forM_scanImport answers]
    rfl
  · intro imports binary member
    obtain ⟨listed, present⟩ := List.mem_filter.mp member
    obtain ⟨imported, named, rfl⟩ := List.mem_map.mp listed
    obtain ⟨bytes, found⟩ := World.isFile_iff.mp present
    have beside := World.liesIn_join_iff rooted present
    refine ⟨imported, named, rfl, ⟨bytes, World.descend_of_find rooted found⟩, beside,
      fun plain => ?_⟩
    rw [beside, Path.directory_of_plain plain]
    exact World.components_join_empty rooted directory

namespace Sample

/-- A directory with an executable and a library, and another directory with a library. -/
def programs : World where
  root := .directory [("bin", .directory [("t.exe", .file #[]), ("y.dll", .file #[])]),
    ("lib", .directory [("x.dll", .file #[])])]

def names : List String := ["../lib/x.dll", "y.dll", "z.dll"]

theorem importedFiles_names : importedFiles programs.host.isFile "bin/t.exe" names =
    ["bin/../lib/x.dll", "bin/y.dll"] := by
  decide +kernel

def resolver : Resolver :=
  { executable := "bin/t.exe", extension? := none, additional := [], matcher := .exact }

theorem directory_resolver : Path.directory resolver.executable = "bin" := by
  decide

end Sample

/-- Both libraries are scanned, and one of them does not lie beside the executable. -/
theorem imports_beside_sample :
    Path.isAbsolute Sample.programs.workingDirectory = true ∧
      (∀ path, (Collaborators.standard Sample.programs.host).isFile path =
        pure (Sample.programs.host.isFile path)) ∧
      importedFiles Sample.programs.host.isFile "bin/t.exe" Sample.names =
        ["bin/../lib/x.dll", "bin/y.dll"] ∧
      ¬ Sample.programs.LiesIn "bin" "bin/../lib/x.dll" ∧
      Sample.programs.LiesIn "bin" "bin/y.dll" := by
  have rooted : Path.isAbsolute Sample.programs.workingDirectory = true := by decide
  have answers : ∀ path, (Collaborators.standard Sample.programs.host).isFile path =
      pure (Sample.programs.host.isFile path) := fun _ => rfl
  obtain ⟨-, scanned⟩ := imports_beside_iff rooted answers Sample.resolver
  have files := Sample.importedFiles_names
  refine ⟨rooted, answers, files, ?_, ?_⟩
  · obtain ⟨imported, listed, same, -, beside, -⟩ := scanned Sample.names "bin/../lib/x.dll"
      (by rw [Sample.resolver, files]; decide)
    simp only [Sample.names, List.mem_cons, List.not_mem_nil, or_false] at listed
    obtain rfl | rfl | rfl := listed
    · rw [Sample.directory_resolver] at beside
      rw [beside]
      decide +kernel
    · exact absurd same (by decide)
    · exact absurd same (by decide)
  · obtain ⟨imported, listed, same, -, -, plain⟩ := scanned Sample.names "bin/y.dll"
      (by rw [Sample.resolver, files]; decide)
    simp only [Sample.names, List.mem_cons, List.not_mem_nil, or_false] at listed
    rw [Sample.directory_resolver] at plain
    obtain rfl | rfl | rfl := listed
    · exact absurd same (by decide)
    · exact plain (by decide)
    · exact absurd same (by decide)

end Resolver
end TestAtlas
