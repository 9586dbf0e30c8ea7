import Mathlib.Data.List.Sort
import Mathlib.Data.String.Basic
import TestAtlas.Files.Pattern
import TestAtlas.Files.World
import TestAtlas.Proofs.Files.Path
import TestAtlas.Proofs.Text.Glob

/-!
Which files a pattern names. The directory is taken as it stands, and of its entries
those count that are files and have a name that the last component accepts. They are
answered in ascending order, whatever order the directory lists them in.
-/

namespace TestAtlas
namespace FilePattern

theorem insertSorted_eq (text : String) (texts : List String) :
    insertSorted text texts = texts.orderedInsert (· ≤ ·) text := by
  induction texts with
  | nil => rfl
  | cons first rest ih => rw [insertSorted, ih, List.orderedInsert_cons]

theorem sort_eq_insertionSort (texts : List String) :
    sort texts = texts.insertionSort (· ≤ ·) := by
  induction texts with
  | nil => rfl
  | cons first rest ih =>
      rw [sort, List.foldr_cons, ← sort, ih, insertSorted_eq, List.insertionSort_cons]

theorem perm_sort (texts : List String) : (sort texts).Perm texts := by
  rw [sort_eq_insertionSort]
  exact List.perm_insertionSort _ texts

theorem mem_sort {text : String} {texts : List String} : text ∈ sort texts ↔ text ∈ texts :=
  (perm_sort texts).mem_iff

theorem pairwise_sort (texts : List String) : (sort texts).Pairwise (· ≤ ·) := by
  rw [sort_eq_insertionSort]
  exact List.pairwise_insertionSort _ texts

theorem ascending_sort {texts : List String} (once : texts.Nodup) :
    (sort texts).Pairwise (· < ·) := by
  have apart : (sort texts).Pairwise (· ≠ ·) := (perm_sort texts).nodup_iff.mpr once
  exact (pairwise_sort texts).imp₂ (fun _ _ le ne => lt_of_le_of_ne le ne) apart

/-- The order of the texts does not matter. -/
theorem sort_of_perm {texts others : List String} (same : texts.Perm others) :
    sort texts = sort others := by
  have arranged : (sort texts).Perm (sort others) :=
    (perm_sort texts).trans (same.trans (perm_sort others).symm)
  exact arranged.eq_of_pairwise' (pairwise_sort texts) (pairwise_sort others)

/-- In surroundings that do not change the tests of a filter have no effect. -/
theorem filterAuxM_eq (accepts : String → Id Bool) (texts kept : List String) :
    List.filterAuxM accepts texts kept =
      ((texts.filter accepts).reverse ++ kept : List String) := by
  induction texts generalizing kept with
  | nil => rfl
  | cons first rest ih =>
      rw [List.filterAuxM, List.filter_cons]
      change List.filterAuxM accepts rest (cond (accepts first) _ _) = _
      rw [ih]
      cases accepts first <;> simp

theorem filterM_eq (accepts : String → Id Bool) (texts : List String) :
    texts.filterM accepts = (texts.filter accepts : List String) := by
  rw [List.filterM, filterAuxM_eq, List.append_nil]
  exact List.reverse_reverse _

section

variable {host other : Host Id} {directory pattern expanded path : String} {names : List String}

/-- The paths of the files, in the order of the listing. -/
def listed (host : Host Id) (directory pattern : String) (names : List String) : List String :=
  ((names.filter (Glob.accepts pattern)).map (Path.join directory)).filter host.isFile

theorem filesIn_eq (host : Host Id) (directory pattern : String) (names : List String) :
    filesIn host directory pattern names = sort (listed host directory pattern names) := by
  rw [filesIn, filterM_eq]
  rfl

theorem mem_listed : path ∈ listed host directory pattern names ↔
    ∃ name ∈ names, path = Path.join directory name ∧
      Glob.Matches (Glob.parse pattern.toList) name.toList ∧ host.isFile path = true := by
  simp only [listed, List.mem_filter, List.mem_map, Glob.accepts, Glob.matches_iff]
  constructor
  · rintro ⟨⟨name, ⟨member, matched⟩, rfl⟩, file⟩
    exact ⟨name, member, rfl, matched, file⟩
  · rintro ⟨name, member, rfl, matched, file⟩
    exact ⟨⟨name, ⟨member, matched⟩, rfl⟩, file⟩

/-- What a directory may list: each name once, and none with a separator in it. -/
structure IsListing (names : List String) : Prop where
  once : names.Nodup
  plain : ∀ name ∈ names, Path.separator ∉ name.toList

theorem nodup_listed (listing : IsListing names) (host : Host Id) (directory pattern : String) :
    (listed host directory pattern names).Nodup := by
  refine List.Nodup.filter _ (List.Nodup.map_on ?_ (listing.once.filter _))
  intro name member another member' same
  rw [← Path.name_of_plain (listing.plain name (List.mem_of_mem_filter member)),
    ← Path.name_of_plain (listing.plain another (List.mem_of_mem_filter member')),
    ← Path.name_join directory, same, Path.name_join]

/-- The directory that an expanded pattern is about, as seen from the root. -/
def directoryOf (host : Host Id) (expanded : String) : String :=
  Path.absolute host.workingDirectory (Path.directory expanded)

theorem isAbsolute_directoryOf (rooted : Path.isAbsolute host.workingDirectory = true)
    (expanded : String) : Path.isAbsolute (directoryOf host expanded) = true := by
  rw [directoryOf, Path.absolute]
  refine Path.isAbsolute_normalize ?_
  split
  · assumption
  · rw [Path.isAbsolute_join, rooted, Bool.true_or]

theorem isAbsolute_of_mem_listed (rooted : Path.isAbsolute directory = true)
    (member : path ∈ listed host directory pattern names) : Path.isAbsolute path = true := by
  obtain ⟨name, -, rfl, -, -⟩ := mem_listed.mp member
  rw [Path.isAbsolute_join, rooted, Bool.true_or]

/-- What is said about a directory that cannot be listed. -/
def remark (written directory : String) (e : FileError) : Entry :=
  .error s!"Error while getting matching files for pattern {written}: {e.message directory}"

/-- What comes of a pattern whose directory answers this when it is listed. -/
def outcome (host : Host Id) (written directory pattern : String) :
    Except FileError (List String) → List String × List Entry
  | .ok names => (sort (listed host directory pattern names), [])
  | .error .missing => ([], [])
  | .error e => ([], [remark written directory e])

theorem findExpanded_eq (host : Host Id) (written expanded : String) :
    findExpanded host written expanded =
      outcome host written (directoryOf host expanded) (Path.name expanded)
        (host.names (directoryOf host expanded)) := by
  have place : host.absolute (Path.directory expanded) =
      (pure (directoryOf host expanded) : Id String) := rfl
  rw [findExpanded, place, pure_bind]
  generalize directoryOf host expanded = directory
  generalize host.names directory = answer
  cases answer with
  | ok names =>
      rw [outcome, ← filesIn_eq]
      rfl
  | error e => cases e <;> rfl

/-- What comes of a pattern whose variables and home directory were filled in like this. -/
def concluded (host : Host Id) (written : String) :
    Except Failure String → Except Failure (List String) × List Entry
  | .error failure => (.error failure, [])
  | .ok expanded => (findExpanded host written expanded).map .ok id

theorem find_eq (host : Host Id) (pattern : String) :
    find host pattern =
      concluded host pattern (expandHome host (expandVariables host pattern)) := by
  have expansion : expandVariables host pattern =
      (pure (expandVariables host pattern) : Id String) := rfl
  rw [find, expansion, pure_bind]
  generalize expandHome host (expandVariables host pattern) = expanded
  cases expanded <;> rfl

/-- Surroundings that differ at most in the order in which directories list their entries. -/
structure SameButOrder (host other : Host Id) : Prop where
  kind : other.kind = host.kind
  workingDirectory : other.workingDirectory = host.workingDirectory
  variableNamed : other.variableNamed = host.variableNamed
  home? : other.home? = host.home?
  names : ∀ path, other.names path = host.names path ∨ ∃ names names',
    host.names path = .ok names ∧ other.names path = .ok names' ∧ names.Perm names'

theorem outcome_of_same (same : SameButOrder host other) (written directory pattern : String) :
    outcome other written directory pattern (other.names directory) =
      outcome host written directory pattern (host.names directory) := by
  have files : other.isFile = host.isFile := by
    funext path
    rw [Host.isFile, Host.isFile, same.kind]
  obtain equal | ⟨names, names', listing, listing', arranged⟩ := same.names directory
  · rw [equal]
    cases host.names directory with
    | ok names => rw [outcome, outcome, listed, listed, files]
    | error e => cases e <;> rfl
  · have paths := ((arranged.filter (Glob.accepts pattern)).map
      (Path.join directory)).filter host.isFile
    rw [listing, listing', outcome, outcome, listed, listed, files, sort_of_perm paths]

/-- The order in which directories list their entries does not matter. -/
theorem find_of_same (same : SameButOrder host other) (pattern : String) :
    find other pattern = find host pattern := by
  have expansion : expandHome other (expandVariables other pattern) =
      expandHome host (expandVariables host pattern) := by
    obtain ⟨kind, contents, names, workingDirectory, variableNamed, home?⟩ := host
    obtain ⟨kind', contents', names', workingDirectory', variableNamed', home?'⟩ := other
    obtain ⟨rfl, rfl, rfl, rfl, -⟩ := same
    rfl
  rw [find_eq, find_eq, expansion]
  cases expandHome host (expandVariables host pattern) with
  | error failure => rfl
  | ok expanded =>
      have place : directoryOf other expanded = directoryOf host expanded := by
        rw [directoryOf, directoryOf, same.workingDirectory]
      rw [concluded, concluded, findExpanded_eq, findExpanded_eq, place, outcome_of_same same]

end

/-- The files that a pattern names, by the directory in front of its last component as that comes
out of the expansion. If the directory can be listed, the answer has the paths of exactly those
entries that are files and have a name that the last component accepts, each of them once and in
ascending order, and it does not depend on the order of the listing. A directory that is missing has
no files. Any other failure to list it leaves no files either, and one remark. -/
theorem find_matching {host : Host Id} {pattern expanded : String}
    (rooted : Path.isAbsolute host.workingDirectory = true)
    (expands : expandHome host (expandVariables host pattern) = .ok expanded) :
    let directory := directoryOf host expanded
    (∀ names, host.names directory = .ok names → IsListing names →
      ∃ paths, find host pattern = (.ok paths, []) ∧ paths.Pairwise (· < ·) ∧
        (∀ path ∈ paths, Path.isAbsolute path = true) ∧
        ∀ path, path ∈ paths ↔ ∃ name ∈ names, path = Path.join directory name ∧
          Glob.Matches (Glob.parse (Path.name expanded).toList) name.toList ∧
          host.isFile path = true) ∧
    (∀ other, SameButOrder host other → find other pattern = find host pattern) ∧
    (host.names directory = .error .missing → find host pattern = (.ok [], [])) ∧
    ∀ e, host.names directory = .error e → e ≠ .missing →
      find host pattern = (.ok [], [remark pattern directory e]) := by
  intro directory
  have searched : find host pattern =
      (outcome host pattern directory (Path.name expanded) (host.names directory)).map .ok id := by
    rw [find_eq, expands, concluded, findExpanded_eq]
  refine ⟨fun names listing proper => ?_, fun other same => find_of_same same pattern,
    fun missing => ?_, fun e failed present => ?_⟩
  · refine ⟨sort (listed host directory (Path.name expanded) names), ?_, ?_, ?_, ?_⟩
    · rw [searched, listing]
      rfl
    · exact ascending_sort (nodup_listed proper host directory _)
    · intro path member
      exact isAbsolute_of_mem_listed (isAbsolute_directoryOf rooted expanded) (mem_sort.mp member)
    · intro path
      rw [mem_sort, mem_listed]
  · rw [searched, missing]
    rfl
  · rw [searched, failed]
    cases e with
    | missing => exact absurd rfl present
    | _ => rfl

namespace Sample

/-- A directory with three files, and another directory whose name ends like theirs, a variable
that leads there, and a file where patterns look for a directory. -/
def filled : World where
  root := .directory [("d", .directory [("b.pdb", .file #[]), ("sub.pdb", .directory []),
    ("a.pdb", .file #[]), ("a.exe", .file #[])]), ("f", .file #[])]
  environment := [("D", "/d")]

/-- The same with the entries of every directory in reverse. -/
def reversed : Host Id :=
  { filled.host with
    names := fun path =>
      (filled.host.names path : Except FileError (List String)).map List.reverse }

theorem same_reversed : SameButOrder filled.host reversed where
  kind := rfl
  workingDirectory := rfl
  variableNamed := rfl
  home? := rfl
  names path := by
    have order (answer : Except FileError (List String)) :
        answer.map List.reverse = answer ∨ ∃ names names', answer = .ok names ∧
          answer.map List.reverse = .ok names' ∧ names.Perm names' := by
      cases answer with
      | ok names => exact .inr ⟨names, _, rfl, rfl, (List.reverse_perm names).symm⟩
      | error e => exact .inl rfl
    exact order (filled.host.names path)

theorem expands_filled : expandHome filled.host (expandVariables filled.host "$D/*.pdb") =
    (.ok "/d/*.pdb" : Except Failure String) := by
  unfold Id
  decide +kernel

theorem listing_filled : filled.host.names (directoryOf filled.host "/d/*.pdb") =
    .ok ["b.pdb", "sub.pdb", "a.pdb", "a.exe"] := by
  unfold Id
  decide +kernel

theorem proper_filled : IsListing ["b.pdb", "sub.pdb", "a.pdb", "a.exe"] :=
  ⟨by decide, by decide⟩

theorem expands_below_file :
    expandHome filled.host (expandVariables filled.host "f/x/*.pdb") =
      (.ok "f/x/*.pdb" : Except Failure String) := by
  unfold Id
  decide +kernel

theorem names_below_file :
    filled.host.names (directoryOf filled.host "f/x/*.pdb") = .error .notDirectory := by
  unfold Id
  decide +kernel

end Sample

/-- The files that end in `.pdb`, without the directory that does, and what is said where a
directory is looked for below a file. -/
theorem find_matching_filled :
    (∃ paths, find Sample.filled.host "$D/*.pdb" = (.ok paths, []) ∧
      find Sample.reversed "$D/*.pdb" = (.ok paths, []) ∧ paths.Pairwise (· < ·) ∧
      "/d/a.pdb" ∈ paths ∧ "/d/b.pdb" ∈ paths ∧ "/d/sub.pdb" ∉ paths ∧ "/d/a.exe" ∉ paths) ∧
    find Sample.filled.host "f/x/*.pdb" =
      (.ok [], [remark "f/x/*.pdb" "/f/x" .notDirectory]) := by
  have rooted : Path.isAbsolute Sample.filled.host.workingDirectory = true := by decide
  obtain ⟨listed, reordered, -, -⟩ := find_matching rooted Sample.expands_filled
  obtain ⟨-, -, -, failing⟩ := find_matching rooted Sample.expands_below_file
  obtain ⟨paths, found, ascending, -, exactly⟩ :=
    listed _ Sample.listing_filled Sample.proper_filled
  have place : directoryOf Sample.filled.host "/d/*.pdb" = "/d" := by decide +kernel
  have place' : directoryOf Sample.filled.host "f/x/*.pdb" = "/f/x" := by decide +kernel
  have last : Path.name "/d/*.pdb" = "*.pdb" := by decide +kernel
  rw [place, last] at exactly
  rw [place'] at failing
  refine ⟨⟨paths, found, (reordered _ Sample.same_reversed).trans found, ascending, ?_, ?_, ?_,
    ?_⟩, failing _ (place' ▸ Sample.names_below_file) (by decide)⟩
  · exact (exactly _).mpr ⟨"a.pdb", by decide, by decide +kernel,
      Glob.matches_iff.mp (by decide +kernel), by unfold Id; decide +kernel⟩
  · exact (exactly _).mpr ⟨"b.pdb", by decide, by decide +kernel,
      Glob.matches_iff.mp (by decide +kernel), by unfold Id; decide +kernel⟩
  · intro member
    obtain ⟨-, -, -, -, file⟩ := (exactly _).mp member
    revert file
    unfold Id
    decide +kernel
  · intro member
    obtain ⟨name, entry, same, matched, -⟩ := (exactly _).mp member
    have accepted := Glob.matches_iff.mpr matched
    clear exactly matched
    revert name
    decide +kernel

/-- Nothing is at `f/x`, as there is a file at `f`, and this is remarked on. -/
theorem find_remarks_on_absent :
    (∀ tree, Sample.filled.find "/f/x" ≠ .ok tree) ∧
      find Sample.filled.host "f/x/*.pdb" = (.ok [], [.error
        ("Error while getting matching files for pattern f/x/*.pdb: " ++
          "[Errno 20] Not a directory: '/f/x'")]) := by
  refine ⟨fun tree found => ?_, ?_⟩
  · have failed : (Sample.filled.find "/f/x").map Tree.kind = .error .notDirectory := by
      decide +kernel
    rw [found] at failed
    cases failed
  · unfold Id
    decide +kernel

end FilePattern
end TestAtlas
