import TestAtlas.Proofs.Pdb.Writer.Modules
import TestAtlas.Proofs.Pdb.Writer.Pages

/-!
The module list is read as the modules that were written, provided that their
numbers fit the fields they are written to.
-/

namespace TestAtlas
namespace Pdb
namespace Writer

open LittleEndian
open CodeView (LineEntry LineInfo Procedure)

variable {modules : List (List Function)} {functions : List Function} {opened : Container}
  {file : String} {i : Nat}

/-- The program database of modules has room for all its numbers. The stream numbers of modules stay
below the one that means that a module has no stream. -/
structure Encodable (modules : List (List Function)) : Prop where
  files : ∀ file ∈ files modules, '\x00' ∉ file.toList
  streams : ∀ functions ∈ modules, FitsStream functions
  numbers : firstModuleStream + modules.length ≤ ModuleEntry.noStream
  moduleList : (moduleList (Writer.files modules) modules).length < limit 4 / 2
  container : Fits (Writer.streams modules)

theorem zero_not_mem_moduleName (index : Nat) : 0 ∉ Utf8.encode (moduleName index) := by
  refine Utf8.zero_not_mem_encode fun member => ?_
  have digits : ∀ c ∈ (toString index).toList, c.isDigit = true := by
    intro c inside
    change c ∈ (String.ofList (Nat.toDigits 10 index)).toList at inside
    rw [String.toList_ofList] at inside
    exact Nat.isDigit_of_mem_toDigits (by decide) (by decide) inside
  simp only [moduleName, String.toList_append, List.mem_append] at member
  rcases member with (member | member) | member
  · revert member
    decide
  · exact absurd (digits _ member) (by decide)
  · revert member
    decide

theorem length_pad4 (bytes : Bytes) : (pad4 bytes).length = paddedSize bytes.length := by
  rw [pad4, List.length_append, List.length_replicate, Nat.add_sub_of_le (le_paddedSize _)]

namespace Encodable

theorem length_moduleStream_lt (h : Encodable modules) (member : functions ∈ modules) :
    (moduleStream (Writer.files modules) functions).length < limit 4 := by
  have short := h.container.sizes (moduleStream (Writer.files modules) functions) <|
    List.mem_append_left _ (List.mem_append_right _ (List.mem_map_of_mem member))
  exact Nat.lt_trans short (by decide)

theorem length_symbolBytes_lt (h : Encodable modules) (member : functions ∈ modules) :
    (symbolBytes functions).length < limit 4 := by
  have short := h.length_moduleStream_lt member
  rw [moduleStream, List.length_append] at short
  omega

theorem length_lineBytes_lt (h : Encodable modules) (member : functions ∈ modules) :
    (lineBytes (Writer.files modules) functions).length < limit 4 := by
  have short := h.length_moduleStream_lt member
  rw [moduleStream, List.length_append] at short
  omega

theorem length_checksumTable_lt (h : Encodable modules) (member : functions ∈ modules) :
    (checksumTable (Writer.files modules)).length < limit 4 := by
  have short := h.length_lineBytes_lt member
  rw [lineBytes, List.length_append, checksumSubsection] at short
  split at short
  · rename_i none
    rw [none]
    decide
  · rw [LineInfo.length_writeSubsection] at short
    omega

/-- The entry of every file has a number in the modules that need it. -/
theorem fileId_lt (h : Encodable modules) (member : functions ∈ modules)
    (known : file ∈ Writer.files modules) : 8 * (Writer.files modules).idxOf file < limit 4 := by
  have short := h.length_checksumTable_lt member
  have inside := List.idxOf_lt_length_iff.mpr known
  rw [checksumTable, length_checksumTable] at short
  omega

theorem length_strings_lt (h : Encodable modules) :
    (strings (Writer.files modules)).length < limit 4 := by
  have short := h.container.sizes (stringStream (Writer.files modules)) <|
    List.mem_append_right _ List.mem_cons_self
  have large : Container.nilSize < limit 4 := by decide
  simp only [stringStream, List.length_append] at short
  omega

theorem stringOffset_lt (h : Encodable modules) (known : file ∈ Writer.files modules) :
    stringOffset (Writer.files modules) file < limit 4 :=
  Nat.lt_trans (Writer.stringOffset_lt known) h.length_strings_lt

end Encodable

theorem mem_files {f : Function} (member : functions ∈ modules) (inside : f ∈ functions)
    (h : f.line?.isSome) : f.file ∈ files modules := by
  rw [files, List.mem_eraseDups]
  refine List.mem_map_of_mem (List.mem_filter.mpr ⟨?_, h⟩)
  exact List.mem_flatten_of_mem member inside

theorem add_lineBytes_of_mem (h : Encodable modules) (member : functions ∈ modules) :
    ({} : LineInfo).add (lineBytes (files modules) functions) =
      (info (files modules) functions, none) := by
  have fits := h.streams functions member
  refine add_lineBytes fits.address (fun f inside line found => ?_)
    (fun name known => h.stringOffset_lt known) (h.length_checksumTable_lt member)
  have known : f.file ∈ files modules := by
    refine mem_files member inside ?_
    rw [found]
    rfl
  exact ⟨fits.line f inside line found, h.fileId_lt member known⟩

theorem load_entry (h : Encodable modules) (member : (functions, i) ∈ modules.zipIdx)
    (found : opened.stream (firstModuleStream + i : Nat) =
      .ok (moduleStream (files modules) functions)) :
    (entry (files modules) i functions).load opened = .ok (module (files modules) i functions) := by
  have listed := List.fst_mem_of_mem_zipIdx member
  have below : i < modules.length := List.snd_lt_of_mem_zipIdx member
  have numbered : firstModuleStream + i ≠ ModuleEntry.noStream := by
    have := h.numbers
    omega
  have lines : ((moduleStream (files modules) functions).drop
      ((symbolBytes functions).length + 0)).take (lineBytes (files modules) functions).length =
        lineBytes (files modules) functions := by
    rw [moduleStream, Nat.add_zero, List.drop_left, List.take_length]
  have kept {ε ε' α : Type} (f : ε → ε') (a : α) : (Except.ok a).mapError f = .ok a := rfl
  rw [ModuleEntry.load]
  simp only [entry, numbered, ↓reduceIte, found, bind, Except.bind,
    parse_moduleStream (h.streams functions listed), kept, lines,
    add_lineBytes_of_mem h listed, Utf8.decode_encode]
  rfl

theorem fits_entry (h : Encodable modules) (member : (functions, i) ∈ modules.zipIdx) :
    (entry (files modules) i functions).Fits where
  name := zero_not_mem_moduleName i
  objectName := Utf8.zero_not_mem_encode (show '\x00' ∉ objectName.toList by decide)
  stream := by
    have below : i < modules.length := List.snd_lt_of_mem_zipIdx member
    have numbered := h.numbers
    have narrow : ModuleEntry.noStream < limit 2 := by decide
    change firstModuleStream + i < limit 2
    omega
  symbolBytes := h.length_symbolBytes_lt (List.fst_mem_of_mem_zipIdx member)
  skippedBytes := Nat.pow_pos (by decide)
  lineBytes := h.length_lineBytes_lt (List.fst_mem_of_mem_zipIdx member)

theorem lists_moduleList (h : Encodable modules)
    (found : ∀ functions i, (functions, i) ∈ modules.zipIdx →
      opened.stream (firstModuleStream + i : Nat) =
        .ok (moduleStream (files modules) functions)) :
    Module.Lists opened (moduleList (files modules) modules)
      (modules.zipIdx.map fun (functions, i) => module (files modules) i functions) := by
  refine .flatMap fun (functions, i) member => ?_
  refine .entry (fits_entry h member) zeros ?_ (load_entry h member (found functions i member))
  rw [ModuleEntry.size, ← ModuleEntry.length_write _ zeros]
  exact length_pad4 _

/-- Behind the five fixed streams come those of the modules and the string table. -/
theorem getElem?_streams (modules : List (List Function)) (i : Nat) :
    (streams modules)[firstModuleStream + i]? =
      (modules.map (moduleStream (files modules)) ++ [stringStream (files modules)])[i]? := by
  rw [Nat.add_comm]
  rfl

theorem getElem?_moduleStream (h : (functions, i) ∈ modules.zipIdx) :
    (streams modules)[firstModuleStream + i]? = some (moduleStream (files modules) functions) := by
  obtain ⟨inside, rfl⟩ := exists_getElem_of_mem_zipIdx h
  have before : i < (modules.map (moduleStream (files modules))).length := by
    rwa [List.length_map]
  rw [getElem?_streams, List.getElem?_append_left before, List.getElem?_map,
    List.getElem?_eq_getElem inside]
  rfl

theorem getElem?_stringStream (modules : List (List Function)) :
    (streams modules)[firstModuleStream + modules.length]? =
      some (stringStream (files modules)) := by
  have length : (modules.map (moduleStream (files modules))).length = modules.length :=
    List.length_map _
  rw [getElem?_streams, List.getElem?_append_right (Nat.le_of_eq length), length, Nat.sub_self]
  rfl

/-- The modules of a container that has the streams of a program database. -/
theorem all_of_streams (h : Encodable modules)
    (found : ∀ {i : Nat} {bytes : Bytes}, (streams modules)[i]? = some bytes →
      opened.stream i = .ok bytes) :
    Module.all opened =
      .ok (modules.zipIdx.map fun (functions, i) => module (files modules) i functions) := by
  have third : (streams modules)[3]? = some (listStream (files modules) modules) := rfl
  have list : opened.stream Module.listStream =
      .ok (listHead (moduleList (files modules) modules).length ++
        (moduleList (files modules) modules ++ [])) := by
    rw [List.append_nil]
    exact found third
  refine Module.all_of_lists list rfl rfl h.moduleList ?_
  exact lists_moduleList h fun functions i member => found (getElem?_moduleStream member)

end Writer
end Pdb
end TestAtlas
