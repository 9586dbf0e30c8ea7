import TestAtlas.Discovery
import TestAtlas.Proofs.Files.Path
import TestAtlas.Proofs.Pe.Failures

/-!
Which file is found as the program database of a binary. The places to look at
come from the binary, its name, the working directory and two lists of
directories; the first one that is a file counts, whatever the others are.
-/

namespace TestAtlas
namespace Discovery

variable {host : Host Id} {binary front base extension : String}
  {extension? recorded? : Option String} {remarks : List Entry}

/-- The places that the name of a binary leads to, with the answer for each: beside the binary, in
the working directory, and in the given directories. -/
def namedPlaces (workingDirectory front base : String) (directories : List String) :
    List (String × String) :=
  let name := base ++ ".pdb"
  (front ++ name, front ++ name) :: (name, Path.absolute workingDirectory name) ::
    directories.map fun directory => (Path.join directory name, Path.join directory name)

/-- All places, with the one first that the binary records. -/
def places (recorded? : Option String) (named : List (String × String)) :
    List (String × String) :=
  ((recorded?.filter (· != "")).map fun path => (path, path)).toList ++ named

/-- The message after a search that finds nothing. -/
def missed (named : List (String × String)) : Entry :=
  .searchInfo ("Attempts to find pdb: " ++ String.intercalate "::"
    ("parsing from executable" :: named.map fun place => "\"" ++ place.1 ++ "\""))

theorem firstFile?_eq (host : Host Id) (candidates : List Candidate) :
    firstFile? (m := Id) host candidates =
      candidates.find? fun candidate => host.isFile candidate.path := by
  induction candidates with
  | nil => rfl
  | cons candidate rest ih =>
      rw [List.find?_cons, ← ih, firstFile?]
      generalize host.isFile candidate.path = present
      cases present <;> rfl

theorem besideBinary_eq (anatomy : Path.Anatomy binary front base extension) :
    besideBinary binary = front ++ (base ++ ".pdb") := by
  rw [besideBinary, anatomy.stem_eq, String.append_assoc]

theorem plain_name (anatomy : Path.Anatomy binary front base extension) :
    Path.separator ∉ (base ++ ".pdb").toList := by
  have plain := anatomy.plain
  rw [String.toList_append, List.mem_append] at plain ⊢
  rintro (member | member)
  · exact plain (.inl member)
  · revert member
    decide

theorem name_besideBinary (anatomy : Path.Anatomy binary front base extension) :
    Path.name (besideBinary binary) = base ++ ".pdb" := by
  rw [besideBinary_eq anatomy, Path.name_of_closed anatomy.closed (plain_name anatomy)]

theorem isEntry_name (base : String) : Path.IsEntry (base ++ ".pdb") := by
  have long : 4 ≤ (base ++ ".pdb").toList.length := by
    rw [String.toList_append, List.length_append]
    exact Nat.le_add_left ..
  refine ⟨?_, ?_, ?_⟩
  all_goals
    intro same
    rw [same] at long
    revert long
    decide

theorem answer_ofPath (host : Host Id) (path : String) :
    answer host (.ofPath path) = path := by
  rw [answer, Candidate.ofPath, if_neg Bool.false_ne_true]
  rfl

theorem answer_fromRoot (host : Host Id) (path : String) :
    answer host { Candidate.ofPath path with fromRoot := true } =
      Path.absolute host.workingDirectory path := by
  rw [answer, if_pos rfl]
  rfl

/-- Every candidate is a place, and the answer for it is that of the place. -/
theorem map_candidates (host : Host Id) (anatomy : Path.Anatomy binary front base extension)
    (recorded? : Option String) (directories : List String) :
    (((recorded?.filter (· != "")).map Candidate.ofPath).toList ++
        namedCandidates binary directories).map
        (fun candidate => (candidate.path, answer host candidate)) =
      places recorded? (namedPlaces host.workingDirectory front base directories) := by
  rw [List.map_append, places, namedPlaces, namedCandidates, name_besideBinary anatomy,
    besideBinary_eq anatomy]
  refine congrArg₂ (· ++ ·) ?_ ?_
  · cases recorded?.filter (· != "") <;> rfl
  · simp only [List.map_cons, List.map_map, Function.comp_def, answer_ofPath, answer_fromRoot]
    rfl

theorem attempts_eq (workingDirectory : String)
    (anatomy : Path.Anatomy binary front base extension) (directories : List String) :
    attempts (namedCandidates binary directories) =
      missed (namedPlaces workingDirectory front base directories) := by
  rw [attempts, missed, namedCandidates, namedPlaces, name_besideBinary anatomy,
    besideBinary_eq anatomy]
  simp only [List.map_cons, List.map_map, recordedLabel, Candidate.ofPath, Function.comp_def]

/-- The directories to search: those of an extension, then those of the path variable. -/
def directoriesOn (host : Host Id) (extension? : Option String) : List String :=
  directories (extension?.getD "") ++ directories ((host.variableNamed "PATH").getD "")

/-- What a search for candidates comes to. -/
theorem find_of_candidates (read : Pe.databaseOf host binary = (.ok recorded?, remarks))
    (extension? : Option String) :
    let candidates := namedCandidates binary (directoriesOn host extension?)
    find host binary extension? =
      match (((recorded?.filter (· != "")).map Candidate.ofPath).toList ++ candidates).find?
          fun candidate => host.isFile candidate.path with
      | some candidate => (.ok (some (answer host candidate)), remarks)
      | none => (.ok none, remarks ++ [attempts candidates]) := by
  intro candidates
  have searched : find host binary extension? =
      match firstFile? host ((recorded?.filter (· != "")).map Candidate.ofPath).toList with
      | some candidate => (.ok (some candidate.path), remarks)
      | none =>
          match firstFile? host candidates with
          | some candidate => (.ok (some (answer host candidate)), remarks)
          | none => (.ok none, remarks ++ [attempts candidates]) := by
    rw [find, read]
    rfl
  -- The two searches in a row are one search in both lists.
  rw [searched, firstFile?_eq, firstFile?_eq, List.find?_append]
  cases recorded?.filter (· != "") with
  | none => rfl
  | some path =>
      rw [Option.map_some, Option.toList_some, List.find?_singleton]
      generalize host.isFile (Candidate.ofPath path).path = present
      cases present with
      | false => rfl
      | true =>
          rw [if_pos rfl, Option.some_or]
          dsimp only
          rw [answer_ofPath]
          rfl

theorem find_eq (anatomy : Path.Anatomy binary front base extension)
    (read : Pe.databaseOf host binary = (.ok recorded?, remarks)) (extension? : Option String) :
    let named := namedPlaces host.workingDirectory front base (directoriesOn host extension?)
    find host binary extension? =
      match (places recorded? named).find? fun place => host.isFile place.1 with
      | some place => (.ok (some place.2), remarks)
      | none => (.ok none, remarks ++ [missed named]) := by
  intro named
  rw [find_of_candidates read, attempts_eq host.workingDirectory anatomy,
    ← map_candidates host anatomy, List.find?_map]
  simp only [Function.comp_def]
  generalize List.find? _ _ = found?
  cases found? <;> rfl

theorem quiet_databaseOf (named : host.contents binary ≠ .error .nullInPath) :
    ∃ recorded? remarks, Pe.databaseOf host binary = (.ok recorded?, remarks) ∧
      ∀ entry ∈ remarks, entry.severity = .warning := by
  have answers := Pe.answersOrRemarks named
  cases read : Pe.reading host binary Pe.Image.databasePath? with
  | ok found? => exact ⟨found?, [], answers.database found? read, List.forall_mem_nil _⟩
  | error reason =>
      exact ⟨none, _, answers.noDatabase reason read, List.forall_mem_singleton.mpr rfl⟩

/-- A search comes to its end if the binary can be named. -/
theorem exists_find (named : host.contents binary ≠ .error .nullInPath)
    (extension? : Option String) :
    ∃ found? remarks, find host binary extension? = (.ok found?, remarks) := by
  obtain ⟨recorded?, remarks, recorded, -⟩ := quiet_databaseOf named
  rw [find_of_candidates recorded]
  split
  · exact ⟨_, _, rfl⟩
  · exact ⟨_, _, rfl⟩

theorem find_of_unnamed (unnamed : host.contents binary = .error .nullInPath)
    (extension? : Option String) :
    find host binary extension? = (.error (.file .nullInPath binary), []) := by
  have read : Pe.databaseOf host binary = (.error (.file .nullInPath binary), []) := by
    rw [Pe.databaseOf, Pe.readFile, unnamed]
    rfl
  rw [find, read]
  rfl

/-- What comes of a search for the program database of a binary that records this place and has
this anatomy. -/
structure Outcome (host : Host Id) (binary : String) (extension? recorded? : Option String)
    (front base : String) (remarks : List Entry) : Prop where
  /-- What there is to say about the binary is not about places. -/
  quiet : ∀ entry ∈ remarks, entry.severity = .warning
  recorded : Pe.databaseOf host binary = (.ok recorded?, remarks)
  /-- The first place that is a file is answered, and nothing is said about the others. -/
  first :
    let named := namedPlaces host.workingDirectory front base (directoriesOn host extension?)
    ∀ before path found after, places recorded? named = before ++ (path, found) :: after →
      (∀ place ∈ before, host.isFile place.1 = false) → host.isFile path = true →
      find host binary extension? = (.ok (some found), remarks)
  /-- Nothing is answered only if no place is a file; the message then names all of them. -/
  otherwise :
    let named := namedPlaces host.workingDirectory front base (directoriesOn host extension?)
    ((find host binary extension?).1 = .ok none ↔
        ∀ place ∈ places recorded? named, host.isFile place.1 = false) ∧
      ((find host binary extension?).1 = .ok none →
        find host binary extension? = (.ok none, remarks ++ [missed named]))

theorem exists_outcome (anatomy : Path.Anatomy binary front base extension)
    (named : host.contents binary ≠ .error .nullInPath) (extension? : Option String) :
    ∃ recorded? remarks, Outcome host binary extension? recorded? front base remarks := by
  obtain ⟨recorded?, remarks, recorded, quiet⟩ := quiet_databaseOf named
  have searched := find_eq anatomy recorded extension?
  refine ⟨recorded?, remarks, quiet, recorded, ?_, ?_⟩
  · intro named before path found after split absent present
    have chosen : (places recorded? named).find? (fun place => host.isFile place.1) =
        some (path, found) :=
      List.find?_eq_some_iff_append.mpr ⟨present, before, after, split, by simpa using absent⟩
    rw [searched, chosen]
  · intro named
    rw [searched]
    cases chosen : (places recorded? named).find? fun place => host.isFile place.1 with
    | none =>
        have absent : ∀ place ∈ places recorded? named, host.isFile place.1 = false := by
          simpa using List.find?_eq_none.mp chosen
        exact ⟨⟨fun _ => absent, fun _ => rfl⟩, fun _ => rfl⟩
    | some place =>
        have present := List.find?_some chosen
        refine ⟨⟨nofun, fun absent => ?_⟩, nofun⟩
        rw [absent place (List.mem_of_find?_eq_some chosen)] at present
        cases present

/-- Every path has an anatomy, and by it the search for a program database looks at the places that
the binary records, that its name leads to, and that the directories offer. The first one that is a
file is answered; if there is none, a message names them all. What is answered for the working
directory is a path from the root. -/
theorem find_first_place (binary : String) (extension? : Option String) :
    (∃ front base extension, Path.Anatomy binary front base extension) ∧
    ∀ front base extension, Path.Anatomy binary front base extension →
      (∀ world : World, '\x00' ∉ binary.toList →
        ∃ recorded? remarks, Outcome world.host binary extension? recorded? front base remarks) ∧
      (∀ host : Host Id, host.contents binary ≠ .error .nullInPath →
        ∃ recorded? remarks, Outcome host binary extension? recorded? front base remarks) ∧
      ∀ workingDirectory, Path.isAbsolute workingDirectory = true →
        let found := Path.absolute workingDirectory (base ++ ".pdb")
        Path.isAbsolute found = true ∧
          Path.named found = Path.named (Path.normalize workingDirectory) ++ [base ++ ".pdb"] := by
  refine ⟨Path.exists_anatomy binary, fun front base extension anatomy => ⟨?_, ?_, ?_⟩⟩
  · intro world clean
    exact exists_outcome anatomy (Pe.contents_ne_nullInPath world clean) extension?
  · intro host named
    exact exists_outcome anatomy named extension?
  · intro workingDirectory rooted
    exact Path.named_absolute rooted (isEntry_name base) (plain_name anatomy)

namespace Sample

/-- A binary that is no image, and a database in a directory of the path variable. -/
def shipped : World where
  root := .directory [("bin", .directory [("t.exe", .file #[])]),
    ("lib", .directory [("t.pdb", .file #[])])]
  environment := [("PATH", ":/lib")]

theorem anatomy : Path.Anatomy "bin/t.exe" "bin/" "t" ".exe" where
  whole := by decide
  closed := .inr ⟨"bin", by decide⟩
  plain := by decide
  ending := .inr ⟨⟨"exe", by decide, by decide⟩, 't', by decide, by decide⟩

theorem absent_shipped : ∀ place ∈ [("bin/t.pdb", "bin/t.pdb"), ("t.pdb", "/t.pdb")],
    shipped.host.isFile place.1 = false := by
  unfold Id
  decide +kernel

theorem present_shipped : shipped.host.isFile "/lib/t.pdb" = true := by
  unfold Id
  decide +kernel

theorem recorded_shipped : (Pe.databaseOf shipped.host "bin/t.exe").1 = .ok none := by
  decide +kernel

end Sample

/-- Beside the binary and in the working directory there is no database. -/
theorem find_first_place_shipped :
    '\x00' ∉ "bin/t.exe".toList ∧
      (find Sample.shipped.host "bin/t.exe" none).1 = .ok (some "/lib/t.pdb") := by
  have clean : '\x00' ∉ "bin/t.exe".toList := by decide
  refine ⟨clean, ?_⟩
  obtain ⟨recorded?, remarks, outcome⟩ :=
    ((find_first_place "bin/t.exe" none).2 "bin/" "t" ".exe" Sample.anatomy).1 Sample.shipped clean
  have recorded := Sample.recorded_shipped
  rw [outcome.recorded] at recorded
  cases recorded
  rw [outcome.first [("bin/t.pdb", "bin/t.pdb"), ("t.pdb", "/t.pdb")] "/lib/t.pdb" "/lib/t.pdb" []
    (by decide +kernel) Sample.absent_shipped Sample.present_shipped]

end Discovery
end TestAtlas
