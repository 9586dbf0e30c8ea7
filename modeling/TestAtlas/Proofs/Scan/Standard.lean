import TestAtlas.Proofs.Discovery
import TestAtlas.Proofs.Scan.Methods
import TestAtlas.Resolver

/-!
Scans by the parties that work on files. The binary, its program database and the
places on the way may be missing or broken in any way, and the scan still comes to
an end: it takes all methods of a database that can be read, or nothing at all. The
one exception is a path that cannot name a file.
-/

namespace TestAtlas
namespace Scanner

open Pdb
open Collaborators (standard)

variable {host : Host Id} {extension? : Option String} {binary database : String}
  {modules : List Module} {strings : StringTable} {progress : Progress}

/-- A program database is found for the binary, and it can be read to the end. -/
def Provides (host : Host Id) (extension? : Option String) (binary : String)
    (modules : List Module) (strings : StringTable) : Prop :=
  ∃ database file, (Discovery.find host binary extension?).1 = .ok (some database) ∧
    host.contents database = .ok file ∧ Readable file modules strings

/-- All or nothing: the methods of a database that can be read are added and counted, and otherwise
the table stays as it is. -/
structure Contains (host : Host Id) (extension? : Option String) (binary : String)
    (before : Progress) (added : Nat) (after : Progress) : Prop where
  all : ∀ modules strings, Provides host extension? binary modules strings →
    added = (methods modules strings).size ∧
      after.table = before.table ++ methods modules strings
  nothing : (∀ modules strings, ¬ Provides host extension? binary modules strings) →
    added = 0 ∧ after.table = before.table

theorem scan_of_unnamed (unnamed : host.contents binary = .error .nullInPath)
    (extension? : Option String) (progress : Progress) :
    (scan (standard host) extension? binary none).run.run progress =
      (.error (.file .nullInPath binary), progress) := by
  have asked : (standard host).locate binary extension? =
      (.error (.file .nullInPath binary), []) := Discovery.find_of_unnamed unnamed extension?
  rw [run_scan_none, asked]
  change (_, progress.record []) = _
  rw [Progress.record, List.append_nil]

theorem scan_of_missing {remarks : List Entry}
    (found : Discovery.find host binary extension? = (.ok none, remarks)) (progress : Progress) :
    ∃ after, (scan (standard host) extension? binary none).run.run progress = (.ok 0, after) ∧
      after.table = progress.table := by
  have asked : (standard host).locate binary extension? = (.ok none, remarks) := found
  rw [run_scan_none, asked]
  exact ⟨_, rfl, rfl⟩

/-- With a database that is found, a scan takes what comes of reading it. -/
theorem scan_of_found {remarks : List Entry}
    (found : Discovery.find host binary extension? = (.ok (some database), remarks))
    (progress : Progress) :
    let read := reading (standard host) binary database
      (opening database (host.contents database))
    ∃ after, (scan (standard host) extension? binary none).run.run progress =
        (.ok (taken read.1).size, after) ∧
      after.table = progress.table ++ taken read.1 := by
  have asked : (standard host).locate binary extension? = (.ok (some database), remarks) := found
  have opens : (standard host).openReader binary database =
      opening database (host.contents database) := openSession_eq (m := Id) host database
  rw [run_scan_none, asked]
  change ∃ after, (scanWith (standard host) binary database).run.run _ = _ ∧ _
  rw [run_scanWith, opens]
  exact ⟨_, rfl, rfl⟩

/-- What comes of a database that is found is all of its methods, if they can be read. -/
theorem contains_of_found {remarks : List Entry} {before after : Progress}
    (found : Discovery.find host binary extension? = (.ok (some database), remarks))
    (table : after.table = before.table ++ taken
      (reading (standard host) binary database (opening database (host.contents database))).1) :
    Contains host extension? binary before (taken
      (reading (standard host) binary database (opening database (host.contents database))).1).size
      after where
  all := by
    rintro modules strings ⟨other, file, same, contents, readable⟩
    rw [found] at same
    cases same
    have gathered := taken_of_readable host binary database readable
    rw [← contents] at gathered
    rw [table, gathered]
    exact ⟨rfl, rfl⟩
  nothing := by
    intro none
    obtain ⟨file, modules, strings, contents, readable⟩ | nothing :=
      taken_cases host binary database (host.contents database)
    · exact absurd ⟨database, file, by rw [found], contents, readable⟩ (none modules strings)
    · rw [table, nothing, SymbolTable.append_empty]
      exact ⟨rfl, rfl⟩

/-- A scan of a binary that can be named comes to its end, whatever is in the files. -/
theorem scan_contains (named : host.contents binary ≠ .error .nullInPath)
    (extension? : Option String) (progress : Progress) :
    ∃ added after, (scan (standard host) extension? binary none).run.run progress =
        (.ok added, after) ∧ Contains host extension? binary progress added after := by
  obtain ⟨_ | database, remarks, found⟩ := Discovery.exists_find named extension?
  · obtain ⟨after, ran, table⟩ := scan_of_missing found progress
    refine ⟨0, after, ran, ?_, fun _ => ⟨rfl, table⟩⟩
    rintro modules strings ⟨database, file, same, -⟩
    rw [found] at same
    cases same
  · obtain ⟨after, ran, table⟩ := scan_of_found found progress
    exact ⟨_, after, ran, contains_of_found found table⟩

/-- Making a resolver ready is to scan its executable. -/
theorem start_of_run {resolver : Resolver} {outcome : Except Failure Nat} {after : Progress}
    (ran : (scan (standard host) resolver.extension? resolver.executable none).run.run
      resolver.progress = (outcome, after)) :
    Resolver.start (standard host) resolver true =
      (outcome.map fun _ => (), { resolver with progress := after }) := by
  rw [Resolver.start, if_pos rfl]
  dsimp only
  rw [ran]
  rfl

/-- Whatever is in the files, a scan that looks for the program database by itself comes to its end:
it adds the methods of a database that is found and can be read, and otherwise adds none and counts
none, and so a resolver can be made ready. This fails exactly if the path of the binary cannot name
a file, which in a tree of files is to hold a null character. -/
theorem scans_contain_failures (host : Host Id) (extension? : Option String) (binary : String)
    (progress : Progress) (resolver : Resolver) :
    (∀ world : World,
      world.host.contents binary = .error .nullInPath ↔ '\x00' ∈ binary.toList) ∧
    (host.contents binary ≠ .error .nullInPath → ∃ added after,
      (scan (standard host) extension? binary none).run.run progress = (.ok added, after) ∧
        Contains host extension? binary progress added after) ∧
    (host.contents binary = .error .nullInPath →
      (scan (standard host) extension? binary none).run.run progress =
        (.error (.file .nullInPath binary), progress)) ∧
    (host.contents resolver.executable ≠ .error .nullInPath → ∃ added after,
      Resolver.start (standard host) resolver true =
        (.ok (), { resolver with progress := after }) ∧
      Contains host resolver.extension? resolver.executable resolver.progress added after) ∧
    (host.contents resolver.executable = .error .nullInPath →
      Resolver.start (standard host) resolver true =
        (.error (.file .nullInPath resolver.executable), resolver)) ∧
    (Resolver.start (standard host) resolver false).1 = .ok () := by
  refine ⟨fun world => Pe.contents_eq_nullInPath_iff world binary,
    fun named => scan_contains named extension? progress,
    fun unnamed => scan_of_unnamed unnamed extension? progress,
    fun named => ?_, fun unnamed => ?_, rfl⟩
  · obtain ⟨added, after, ran, contains⟩ :=
      scan_contains named resolver.extension? resolver.progress
    exact ⟨added, after, start_of_run ran, contains⟩
  · exact start_of_run (scan_of_unnamed unnamed resolver.extension? resolver.progress)

namespace Sample

/-- A binary that is no image beside a database that can be read, and a database without a
header. -/
def shipped : World where
  root := .directory [("t.exe", .file #[]), ("t.pdb", .file (Writer.database mixed).toArray),
    ("u.pdb", .file #[])]

def resolver (executable : String) : Resolver where
  executable := executable
  extension? := none
  additional := []
  matcher := .qualified

theorem database_shipped :
    shipped.host.contents "t.pdb" = .ok (Writer.database mixed).toArray := by
  have parts : Text.pieces Path.separator
      (if Path.isAbsolute "t.pdb" then "t.pdb" else Path.join "/" "t.pdb") = ["", "t.pdb"] := by
    decide +kernel
  change (shipped.root.find "/" "t.pdb").bind Tree.contents = _
  rw [Tree.find, if_neg (by decide), if_neg (by decide), if_neg (by decide +kernel)]
  dsimp only
  rw [parts]
  rfl

theorem empty_shipped : shipped.host.contents "u.pdb" = .ok #[] := by
  unfold Id
  decide +kernel

theorem provides_shipped : Provides shipped.host none "t.exe" (Writer.parsed mixed)
    (Writer.strings (Writer.files mixed)) :=
  ⟨"t.pdb", _, by decide +kernel, database_shipped, Writer.readable_database encodable_mixed⟩

theorem not_provides_shipped (modules : List Module) (strings : StringTable) :
    ¬ Provides shipped.host none "u.exe" modules strings := by
  rintro ⟨database, file, found, contents, container, parsed, -⟩
  have found' : (Discovery.find shipped.host "u.exe" none).1 = .ok (some "u.pdb") := by
    decide +kernel
  rw [found'] at found
  cases found
  rw [empty_shipped] at contents
  cases contents
  cases parsed

end Sample

/-- A binary that is no image beside a database, and a missing one beside a broken database. -/
theorem scans_contain_failures_shipped :
    let host := Sample.shipped.host
    (∃ after, (scan (standard host) none "t.exe" none).run.run {} = (.ok 3, after) ∧
      after.table =
        { tests := [⟨"[a]*\n::TestBody", "a.cpp", 12⟩, ⟨"B::TestBody", "", 0⟩],
          traits := [⟨"A::b__GTA__c_GTA_TRAIT", "a.cpp", 13⟩] }) ∧
    (∃ after, (scan (standard host) none "u.exe" none).run.run {} = (.ok 0, after) ∧
      after.table = {}) ∧
    (scan (standard host) none "\x00.exe" none).run.run {} =
      (.error (.file .nullInPath "\x00.exe"), {}) ∧
    (Resolver.start (standard host) (Sample.resolver "t.exe") true).1 = .ok () ∧
    (Resolver.start (standard host) (Sample.resolver "u.exe") true).1 = .ok () := by
  intro host
  obtain ⟨null, scans, -, starts, -⟩ :=
    scans_contain_failures host none "t.exe" {} (Sample.resolver "t.exe")
  obtain ⟨null', scans', -, starts', -⟩ :=
    scans_contain_failures host none "u.exe" {} (Sample.resolver "u.exe")
  obtain ⟨null'', -, fails, -⟩ :=
    scans_contain_failures host none "\x00.exe" {} (Sample.resolver "\x00.exe")
  have named : host.contents "t.exe" ≠ .error .nullInPath :=
    fun failed => absurd ((null Sample.shipped).mp failed) (by decide)
  have named' : host.contents "u.exe" ≠ .error .nullInPath :=
    fun failed => absurd ((null' Sample.shipped).mp failed) (by decide)
  have unnamed : host.contents "\x00.exe" = .error .nullInPath :=
    (null'' Sample.shipped).mpr (by decide)
  obtain ⟨added, after, ran, contains⟩ := scans named
  obtain ⟨count, table⟩ := contains.all _ _ Sample.provides_shipped
  obtain ⟨added', after', ran', contains'⟩ := scans' named'
  obtain ⟨rfl, table'⟩ := contains'.nothing Sample.not_provides_shipped
  have three : added = 3 := count.trans (by decide +kernel)
  subst three
  obtain ⟨_, _, started, -⟩ := starts named
  obtain ⟨_, _, started', -⟩ := starts' named'
  refine ⟨⟨after, ran, ?_⟩, ⟨after', ran', table'⟩, fails unnamed, ?_, ?_⟩
  · rw [table]
    decide +kernel
  · rw [started]
  · rw [started']

end Scanner
end TestAtlas
