import TestAtlas.Proofs.Pdb.Session
import TestAtlas.Proofs.Pdb.Writer.ModuleList

/-!
A program database that was written is opened, and asking it for functions gives
those that were written, with their files and lines.
-/

namespace TestAtlas
namespace Pdb
namespace Writer

open LittleEndian
open CodeView (LineEntry Procedure)
open Session (exec symbolWith symbolsWith matching)

variable {modules : List (List Function)} {functions : List Function} {files : List String}
  {f g : Function} {i j : Nat}

/-- The lines of two functions lie in different stretches of addresses. -/
theorem liesIn_of_mem_lineEntries {entry : LineEntry} (h : entry ∈ lineEntries files j g) :
    LineEntry.liesIn (procedure i f) entry = decide (i = j) := by
  rw [lineEntries] at h
  split at h
  · cases h
  · rw [List.mem_singleton.mp h, Bool.eq_iff_iff]
    simp only [LineEntry.liesIn, Bool.and_eq_true, beq_iff_eq, decide_eq_true_eq]
    have size : max ((codeSize : Nat) : Int) 1 = 0x50 := rfl
    simp only [procedure, size, true_and]
    simp only [address]
    omega

theorem filter_lineEntries_self (files : List String) (i : Nat) (f : Function) :
    (lineEntries files i f).filter (LineEntry.liesIn (procedure i f)) = lineEntries files i f := by
  rw [List.filter_eq_self]
  intro entry member
  rw [liesIn_of_mem_lineEntries member, decide_eq_true rfl]

theorem filter_lineEntries_of_ne (files : List String) (f g : Function) (h : i ≠ j) :
    (lineEntries files j g).filter (LineEntry.liesIn (procedure i f)) = [] := by
  rw [List.filter_eq_nil_iff]
  intro entry member
  rw [liesIn_of_mem_lineEntries member, decide_eq_false h]
  exact Bool.false_ne_true

/-- Of the lines of a module, a procedure has those of its function. -/
theorem filter_lines {start : Nat} (h : (f, i) ∈ functions.zipIdx start) :
    ((functions.zipIdx start).flatMap fun (g, j) => lineEntries files j g).filter
      (LineEntry.liesIn (procedure i f)) = lineEntries files i f := by
  induction functions generalizing start with
  | nil => cases h
  | cons g rest ih =>
      rw [List.zipIdx_cons, List.flatMap_cons, List.filter_append]
      rw [List.zipIdx_cons] at h
      rcases List.mem_cons.mp h with same | behind
      · cases same
        -- The functions behind have higher numbers, so none of their lines lie in this code.
        rw [filter_lineEntries_self]
        have none : ((rest.zipIdx (i + 1)).flatMap fun (g, j) => lineEntries files j g).filter
            (LineEntry.liesIn (procedure i f)) = [] := by
          rw [List.filter_flatMap, List.flatMap_eq_nil_iff]
          intro (g, j) member
          have above := List.le_snd_of_mem_zipIdx member
          exact filter_lineEntries_of_ne files f g (Nat.ne_of_lt above)
        rw [none, List.append_nil]
      · have above := List.le_snd_of_mem_zipIdx behind
        rw [ih behind, filter_lineEntries_of_ne files f g (Nat.ne_of_gt above), List.nil_append]

theorem forProcedure?_info (files : List String) (h : (f, i) ∈ functions.zipIdx) :
    LineEntry.forProcedure? (info files functions).lines (procedure i f) =
      (lineEntries files i f).head? := by
  rw [LineEntry.forProcedure?, info, filter_lines h, lineEntries]
  split <;> rfl

/-- The symbol that a function is to be found as. -/
def symbol (f : Function) : Symbol :=
  match f.line? with
  | none => { name := f.name, file := "", line := 0 }
  | some line => { name := f.name, file := f.file, line := line }

/-- The remark on a function that was written without a line. -/
def remarks (path : String) (f : Function) : List Entry :=
  match f.line? with
  | none => [.searchWarning s!"Could not find source location of symbol '{f.name}' in '{path}'"]
  | some _ => []

def accepted (pattern : String) (modules : List (List Function)) : List Function :=
  modules.flatten.filter fun f => Glob.accepts pattern f.name

theorem symbolWith_info (path : String) (h : (f, i) ∈ functions.zipIdx)
    (known : f.line?.isSome → f.file ∈ files ∧ '\x00' ∉ f.file.toList) :
    symbolWith (.ok (strings files)) path (module files j functions) (procedure i f) =
      (.ok (symbol f), remarks path f) := by
  have found := forProcedure?_info files h
  rw [symbolWith, module, found, lineEntries]
  cases written : f.line? with
  | none =>
      simp only [List.head?_nil, symbol, remarks, written]
      rfl
  | some line =>
      rw [written] at known
      obtain ⟨member, plain⟩ := known rfl
      simp only [List.head?_cons, info, find?_checksums member, symbol, remarks, written,
        Except.map, decodeAt_stringOffset member plain]
      rfl

/-- A function with the number and the functions of its module and its number in there. -/
abbrev Place := (List Function × Nat) × Function × Nat

def places (pattern : String) (modules : List (List Function)) : List Place :=
  modules.zipIdx.flatMap fun module =>
    (module.1.zipIdx.filter fun f => Glob.accepts pattern f.1.name).map (module, ·)

theorem map_places (pattern : String) (modules : List (List Function)) :
    (places pattern modules).map (fun place => place.2.1) = accepted pattern modules := by
  have one (functions : List Function) :
      ((functions.zipIdx.filter fun f => Glob.accepts pattern f.1.name).map Prod.fst) =
        functions.filter fun f => Glob.accepts pattern f.name := by
    have moved : (functions.zipIdx.map Prod.fst).filter (fun f => Glob.accepts pattern f.name) =
        (functions.zipIdx.filter fun f => Glob.accepts pattern f.1.name).map Prod.fst :=
      List.filter_map
    rw [← moved, List.zipIdx_map_fst]
  have all := congrArg (List.flatMap fun functions : List Function =>
    functions.filter fun f => Glob.accepts pattern f.name) (List.zipIdx_map_fst 0 modules)
  rw [List.flatMap_map] at all
  rw [accepted, List.filter_flatten, ← List.flatMap_def, ← all, places, List.map_flatMap]
  congr 1
  funext module
  rw [List.map_map, ← one]
  rfl

theorem matching_modules (pattern : String) (files : List String)
    (modules : List (List Function)) :
    matching pattern (modules.zipIdx.map fun (functions, i) => module files i functions) =
      (places pattern modules).map fun place =>
        (module files place.1.2 place.1.1, procedure place.2.2 place.2.1) := by
  rw [matching, places, List.flatMap_map, List.map_flatMap]
  congr 1
  funext module
  rw [List.map_map]
  change ((procedures module.1).filter _).map _ = _
  rw [procedures, List.filter_map, List.map_map]
  rfl

theorem symbolsWith_map {γ : Type} {strings : Except Error StringTable} {path : String}
    {items : List γ} {pair : γ → Module × Procedure} {answer : γ → Symbol}
    {said : γ → List Entry}
    (h : ∀ item ∈ items,
      symbolWith strings path (pair item).1 (pair item).2 = (.ok (answer item), said item)) :
    symbolsWith strings path (items.map pair) = (.ok (items.map answer), items.flatMap said) := by
  induction items with
  | nil => rfl
  | cons item rest ih =>
      have next := ih fun other hm => h other (List.mem_cons_of_mem _ hm)
      rw [List.map_cons]
      simp only [symbolsWith, h item List.mem_cons_self, next]
      rfl

theorem symbolsWith_places (h : Encodable modules) (path pattern : String) :
    symbolsWith (.ok (strings (Writer.files modules))) path
        (matching pattern
          (modules.zipIdx.map fun (functions, i) => module (Writer.files modules) i functions)) =
      (.ok ((accepted pattern modules).map symbol),
        (accepted pattern modules).flatMap (remarks path)) := by
  rw [matching_modules, ← map_places, List.map_map, List.flatMap_map]
  refine symbolsWith_map fun place member => ?_
  obtain ⟨⟨functions, i⟩, listed, member⟩ := List.mem_flatMap.mp member
  obtain ⟨⟨f, j⟩, inside, rfl⟩ := List.mem_map.mp member
  have numbered : (f, j) ∈ functions.zipIdx := (List.mem_filter.mp inside).1
  refine symbolWith_info path numbered fun written => ?_
  have known : f.file ∈ Writer.files modules :=
    mem_files (List.fst_mem_of_mem_zipIdx listed) (List.fst_mem_of_mem_zipIdx numbered) written
  exact ⟨known, h.files f.file known⟩

theorem load_of_streams {opened : Container} (h : Encodable modules)
    (found : ∀ {i : Nat} {bytes : Bytes}, (streams modules)[i]? = some bytes →
      opened.stream i = .ok bytes) :
    StringTable.load opened = .ok (strings (Writer.files modules)) := by
  have number : firstModuleStream + modules.length < limit 4 :=
    Nat.lt_of_le_of_lt h.numbers (by decide)
  have first : (streams modules)[1]? =
      some (namesStream (firstModuleStream + modules.length)) := rfl
  have last := getElem?_stringStream modules
  exact load_of_stringStream number h.length_strings_lt (found first) (found last)

/-- The program database of modules is opened, and asked for a pattern it gives the functions whose
name the pattern accepts, in order, each with its file and line, and one remark for each that was
written without a line. -/
theorem functions_of_database (h : Encodable modules) (path pattern : String) :
    ∃ opened later,
      exec (Session.openFile (database modules).toArray) { path } = (.ok (), opened) ∧
      exec (Session.functions pattern) opened =
        (.ok ((accepted pattern modules).map symbol), later) ∧
      later.remarks = (accepted pattern modules).flatMap (remarks path) := by
  obtain ⟨container, parsed, found⟩ := h.container.parse_container
  have on := Session.on_fresh path container
  have strings : Session.table container (Session.fresh path container) =
      .ok (strings (Writer.files modules)) := load_of_streams h found
  have told := symbolsWith_places h path pattern
  have answer := Session.exec_functions on pattern
  rw [all_of_streams h found] at answer
  dsimp only at answer
  rw [strings, show (Session.fresh path container).path = path from rfl, told] at answer
  exact ⟨_, _, Session.exec_openFile path parsed, answer, rfl⟩

/-- Two modules; the second function of each was written without a line. -/
def sample : List (List Function) :=
  [[⟨"A_Test::TestBody", "a.cpp", some 12⟩, ⟨"helper", "", none⟩],
    [⟨"B_Test::TestBody", "b.cpp", some 7⟩, ⟨"C_Test::TestBody", "", none⟩]]

theorem encodable_sample : Encodable sample where
  files := by decide +kernel
  streams := by
    simp only [sample, List.mem_cons, List.not_mem_nil, or_false, forall_eq_or_imp, forall_eq]
    exact ⟨⟨by decide +kernel, by decide +kernel, by decide +kernel, by decide +kernel⟩,
      by decide +kernel, by decide +kernel, by decide +kernel, by decide +kernel⟩
  numbers := by decide +kernel
  moduleList := by decide +kernel
  container := ⟨by decide +kernel, by decide +kernel, by decide +kernel⟩

theorem functions_of_database_sample :
    Encodable sample ∧ ∃ opened later,
      exec (Session.openFile (database sample).toArray) { path := "a.pdb" } = (.ok (), opened) ∧
      exec (Session.functions "*::TestBody") opened =
        (.ok [⟨"A_Test::TestBody", "a.cpp", 12⟩, ⟨"B_Test::TestBody", "b.cpp", 7⟩,
          ⟨"C_Test::TestBody", "", 0⟩], later) ∧
      later.remarks = [.searchWarning
        "Could not find source location of symbol 'C_Test::TestBody' in 'a.pdb'"] := by
  obtain ⟨opened, later, parsed, found, said⟩ :=
    functions_of_database encodable_sample "a.pdb" "*::TestBody"
  have three : accepted "*::TestBody" sample =
      [⟨"A_Test::TestBody", "a.cpp", some 12⟩, ⟨"B_Test::TestBody", "b.cpp", some 7⟩,
        ⟨"C_Test::TestBody", "", none⟩] := by decide +kernel
  rw [three] at found said
  exact ⟨encodable_sample, opened, later, parsed, found, said.trans (by decide +kernel)⟩

end Writer
end Pdb
end TestAtlas
