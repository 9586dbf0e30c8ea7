import TestAtlas.Files.World
import TestAtlas.Pe.File
import TestAtlas.Proofs.Pe.Walk
import TestAtlas.Proofs.Text.Utf8

/-!
What can go wrong with images in files. Whatever the bytes are, a reader of
images fails only because the input runs out or because it is no image, and the
walk along the import table ends after no more descriptors than the file has room
for. A failure costs the whole answer, and there is one remark on it.
-/

namespace TestAtlas
namespace Pe

variable {α β : Type} {image : Image} {file : Array UInt8} {position size : Nat}

/-- The failures that users of images in files are prepared for: the input ran out, or it is no
image. -/
inductive Error.Foreseen : Error → Prop
  | truncated (cause : ReadError) : Foreseen (.truncated cause)
  | noDosSignature : Foreseen .noDosSignature
  | noSignature : Foreseen .noSignature
  | unknownMagic (magic : Nat) : Foreseen (.unknownMagic magic)
  | unmapped (address : Int) : Foreseen (.unmapped address)

def FailsForeseen (step : Except Error α) : Prop := ∀ e, step = .error e → e.Foreseen

namespace FailsForeseen

theorem ok (a : α) : FailsForeseen (.ok a) := nofun

theorem error {e : Error} (h : e.Foreseen) : FailsForeseen (.error e : Except Error α) := by
  intro e' same
  cases same
  exact h

theorem bind {step : Except Error α} {next : α → Except Error β} (first : FailsForeseen step)
    (later : ∀ a, FailsForeseen (next a)) : FailsForeseen (step >>= next) := by
  cases step with
  | error e => exact error (first e rfl)
  | ok a => exact later a

theorem readRecord (reader : Reader α) :
    FailsForeseen (Pe.readRecord file position size reader) := by
  rw [Pe.readRecord]
  split
  · exact ok _
  · exact error (.truncated _)

theorem readTable (reader : Reader α) (count : Nat) :
    FailsForeseen (Pe.readTable file size reader count position) := by
  induction count generalizing position with
  | zero => exact ok []
  | succ count ih => exact (readRecord reader).bind fun _ => ih.bind fun _ => ok _

theorem readText : FailsForeseen (Pe.readText file position) :=
  (readRecord Reader.terminated).bind fun _ => ok _

/-- A section that covers an address starts at or below it, so no position is negative. -/
theorem readPosition (address : Nat) : FailsForeseen (image.readPosition address) := by
  rw [Image.readPosition, Image.position]
  split
  · rename_i s found
    have covers := List.find?_some found
    rw [Section.covers, Bool.and_eq_true, decide_eq_true_eq] at covers
    simp only [Bind.bind, Except.bind]
    rw [if_neg (by omega)]
    exact ok _
  · split
    · simp only [Bind.bind, Except.bind]
      rw [if_neg (by omega)]
      exact ok _
    · exact error (.unmapped _)

theorem textAt (address : Nat) : FailsForeseen (image.textAt address) :=
  (readPosition address).bind fun _ => readText

theorem directory? (index : Nat) : FailsForeseen (image.directory? index) := by
  rw [Image.directory?]
  split
  · exact ok none
  · simp only [Int.not_lt.mpr (Int.natCast_nonneg index), if_false]
    split
    · exact ok _
    · exact ok none

theorem parse (file : Array UInt8) : FailsForeseen (Image.parse file) := by
  refine (readRecord _).bind fun (dos, start) => ?_
  dsimp only
  split
  · exact error .noDosSignature
  refine (readRecord _).bind fun signature => ?_
  split
  · exact error .noSignature
  refine (readRecord _).bind fun header => (readRecord _).bind fun magic => ?_
  split
  · exact error (.unknownMagic _)
  · exact (readRecord _).bind fun base => (readTable _ _).bind fun _ =>
      (readTable _ _).bind fun _ => ok _

end FailsForeseen

namespace Image

theorem Walk.failsForeseen {names : List String} {failure? : Option Error}
    (walk : Walk image position names failure?) : ∀ e ∈ failure?, e.Foreseen := by
  induction walk with
  | unread read =>
      rintro _ ⟨⟩
      exact FailsForeseen.readRecord _ _ read
  | last _ => exact nofun
  | unnamed _ _ spelled =>
      rintro _ ⟨⟩
      exact FailsForeseen.textAt _ _ spelled
  | entry _ _ _ _ ih => exact ih

theorem failsForeseen_walkImports (image : Image) (position : Nat) :
    FailsForeseen (walkImports image [] position) := by
  obtain ⟨names, failure?, walk⟩ := exists_walk image position
  rw [walk.walkImports_eq]
  cases failure? with
  | none => exact .ok _
  | some e => exact .error (walk.failsForeseen e rfl)

theorem failsForeseen_imports (image : Image) : FailsForeseen image.imports := by
  refine (FailsForeseen.directory? 1).bind fun directory => ?_
  cases directory with
  | none => exact .ok []
  | some directory =>
      exact (FailsForeseen.readPosition directory.address).bind (failsForeseen_walkImports image)

theorem walk_of_walkImports {names : List String}
    (h : walkImports image [] position = .ok names) : Walk image position names none := by
  obtain ⟨all, failure?, walk⟩ := exists_walk image position
  rw [walk.walkImports_eq] at h
  cases failure? with
  | some e => cases h
  | none =>
      cases h
      exact walk

theorem walk_of_imports {names : List String} (h : image.imports = .ok names) :
    names = [] ∨ ∃ position, Walk image position names none := by
  rw [imports] at h
  cases found : image.directory? importDirectory with
  | error e =>
      rw [found] at h
      cases h
  | ok directory? =>
      rw [found] at h
      cases directory? with
      | none =>
          cases h
          exact .inl rfl
      | some directory =>
          change image.readPosition directory.address >>= walkImports image [] = .ok names at h
          cases read : image.readPosition directory.address with
          | error e =>
              rw [read] at h
              cases h
          | ok position =>
              rw [read] at h
              exact .inr ⟨position, walk_of_walkImports h⟩

theorem length_imports_le {names : List String} (h : image.imports = .ok names) :
    names.length ≤ image.file.size / descriptorSize := by
  rcases walk_of_imports h with rfl | ⟨position, walk⟩
  · exact Nat.zero_le _
  · exact walk.length_le_div

end Image

theorem failsForeseen_fileName? (entry : DebugEntry) : FailsForeseen (entry.fileName? file) :=
  (FailsForeseen.readRecord _).bind fun _ => FailsForeseen.readText.bind fun _ => .ok _

theorem failsForeseen_firstFileName? (entries : List DebugEntry) :
    FailsForeseen (DebugEntry.firstFileName? file entries) := by
  induction entries with
  | nil => exact .ok none
  | cons entry rest ih =>
      rw [DebugEntry.firstFileName?]
      split
      · split
        · rename_i e failed
          exact .error (failsForeseen_fileName? entry e failed)
        · exact .ok _
        · exact ih
      · exact ih

theorem Image.failsForeseen_databasePath? (image : Image) :
    FailsForeseen image.databasePath? := by
  refine (FailsForeseen.directory? 6).bind fun directory => ?_
  cases directory with
  | none => exact .ok none
  | some directory =>
      refine FailsForeseen.bind ?_ fun entries => failsForeseen_firstFileName? entries
      exact (FailsForeseen.readPosition directory.address).bind fun _ => .readTable _ _

/-- What comes of reading something from the image in a file: a value, or why there is none. -/
def reading (host : Host Id) (path : String) (read : Image → Except Error α) : Except String α :=
  match host.contents path with
  | .error e => .error (e.message path)
  | .ok bytes => (Image.parse bytes >>= read).mapError Error.message

theorem readFile_eq {host : Host Id} {path : String}
    (named : host.contents path ≠ .error .nullInPath) (read : Image → Except Error α) :
    readFile (m := Id) host path read = Except.ok (reading host path read) := by
  rw [readFile, reading]
  rcases contents : host.contents path with e | bytes
  · cases e with
    | nullInPath => exact absurd contents named
    | _ => rfl
  · rfl

/-- What is read from a file is answered without a remark; what cannot be read is answered by
nothing and one remark. -/
structure AnswersOrRemarks (host : Host Id) (path : String) : Prop where
  imports : ∀ names, reading host path Image.imports = .ok names →
    importsOf (m := Id) host path = (Except.ok names, [])
  noImports : ∀ reason, reading host path Image.imports = .error reason →
    importsOf (m := Id) host path =
      (Except.ok [], [.warning s!"Could not parse imports of '{path}': {reason}"])
  database : ∀ found?, reading host path Image.databasePath? = .ok found? →
    databaseOf (m := Id) host path = (Except.ok found?, [])
  noDatabase : ∀ reason, reading host path Image.databasePath? = .error reason →
    databaseOf (m := Id) host path =
      (Except.ok none, [.searchWarning s!"Could not read PDB path from '{path}': {reason}"])

theorem answersOrRemarks {host : Host Id} {path : String}
    (named : host.contents path ≠ .error .nullInPath) : AnswersOrRemarks host path where
  imports names read := by
    simp only [importsOf, readFile_eq named, read]
    rfl
  noImports reason read := by
    simp only [importsOf, readFile_eq named, read]
    rfl
  database found? read := by
    simp only [databaseOf, readFile_eq named, read]
    rfl
  noDatabase reason read := by
    simp only [databaseOf, readFile_eq named, read]
    rfl

/-- Following components, one may miss the way but never meets a null byte. -/
theorem follow_ne_nullInPath (above : List Tree) (here : Tree) (components : List String) :
    Tree.follow above here components ≠ .error .nullInPath := by
  induction components generalizing above here with
  | nil => exact nofun
  | cons component rest ih =>
      cases here with
      | file bytes => exact nofun
      | directory entries =>
          simp only [Tree.follow]
          split
          · exact ih above _
          split
          · split
            · exact ih [] _
            · exact ih _ _
          split
          · exact nofun
          split
          · exact nofun
          · exact ih _ _

theorem find_ne_nullInPath (root : Tree) (directory : String) {path : String}
    (clean : '\x00' ∉ path.toList) : root.find directory path ≠ .error .nullInPath := by
  have spelled : ¬ path.toList.contains (Char.ofNat 0) = true := by
    rw [List.contains_iff_mem]
    exact clean
  rw [Tree.find, if_neg spelled]
  split
  · exact nofun
  split
  · exact nofun
  · exact follow_ne_nullInPath _ _ _

theorem contents_ne_nullInPath (world : World) {path : String} (clean : '\x00' ∉ path.toList) :
    world.host.contents path ≠ .error .nullInPath := by
  intro failed
  change (world.root.find world.workingDirectory path).bind Tree.contents = _ at failed
  cases found : world.root.find world.workingDirectory path with
  | error e =>
      rw [found] at failed
      cases failed
      exact find_ne_nullInPath _ _ clean found
  | ok tree =>
      rw [found] at failed
      cases tree <;> cases failed

theorem contents_eq_nullInPath_iff (world : World) (path : String) :
    world.host.contents path = .error .nullInPath ↔ '\x00' ∈ path.toList := by
  refine ⟨fun failed => ?_, fun null => ?_⟩
  · exact Decidable.byContradiction fun clean => contents_ne_nullInPath world clean failed
  · change (world.root.find world.workingDirectory path).bind Tree.contents = _
    rw [Tree.find, if_pos (List.contains_iff_mem.mpr null)]
    rfl

/-- Reading images in files always comes to an end, with all of what was asked for or with none
of it, and fails only in ways that are prepared for. -/
theorem readings_total :
    (∀ file, FailsForeseen (Image.parse file)) ∧
    (∀ image : Image, FailsForeseen image.imports ∧ FailsForeseen image.databasePath?) ∧
    (∀ (image : Image) (position : Nat), ∃ names failure?,
      Image.Walk image position names failure? ∧
      Image.walkImports image [] position = Image.walked names failure? ∧
      names.length ≤ image.file.size / 20) ∧
    (∀ (image : Image) (names : List String), image.imports = .ok names →
      names.length ≤ image.file.size / 20) ∧
    (∀ (world : World) (path : String), '\x00' ∉ path.toList →
      AnswersOrRemarks world.host path) ∧
    (∀ (host : Host Id) (path : String), host.contents path ≠ .error .nullInPath →
      AnswersOrRemarks host path) := by
  refine ⟨FailsForeseen.parse,
    fun image => ⟨image.failsForeseen_imports, image.failsForeseen_databasePath?⟩, ?_,
    fun image names listed => Image.length_imports_le listed,
    fun world path clean => answersOrRemarks (contents_ne_nullInPath world clean),
    fun host path named => answersOrRemarks named⟩
  intro image position
  obtain ⟨names, failure?, walk⟩ := Image.exists_walk image position
  exact ⟨names, failure?, walk, walk.walkImports_eq [], walk.length_le_div⟩

namespace Sample

/-- A file that breaks off after its first two bytes. -/
def broken : World := { root := .directory [("cut.exe", .file #[77, 90])] }

/-- A descriptor for a name of one letter, the descriptor that ends the table, and the name. -/
def lone : Image where
  file := (List.replicate 13 (0 : UInt8) ++ [41, 0, 0, 0] ++ List.replicate 24 0 ++ [97, 0]).toArray
  machine := 0
  characteristics := 0
  form := .narrow
  imageBase := 0
  headersSize := 64
  directories := [⟨0, 0⟩, ⟨1, 40⟩]
  sections := []

theorem lone_imports : lone.imports = .ok ["a"] := by
  have spelled : lone.textAt 41 = .ok "a" := by
    change Except.ok (Utf8.decode (Utf8.encode "a")) = _
    rw [Utf8.decode_encode]
  have walk : Image.Walk lone 1 ["a"] none := .entry rfl (by decide) spelled (.last rfl)
  change Image.walkImports lone [] 1 = _
  rw [walk.walkImports_eq]
  rfl

theorem broken_contents : broken.host.contents "cut.exe" = .ok #[77, 90] := by
  have parts : Text.pieces Path.separator
      (if Path.isAbsolute "cut.exe" then "cut.exe" else Path.join "/" "cut.exe") =
        ["", "cut.exe"] := by
    decide +kernel
  change (broken.root.find "/" "cut.exe").bind Tree.contents = _
  rw [Tree.find, if_neg (by decide), if_neg (by decide), if_neg (by decide +kernel)]
  dsimp only
  rw [parts]
  rfl

end Sample

/-- A file that breaks off, and an image that imports one module. -/
theorem readings_total_sample :
    Sample.broken.host.contents "cut.exe" ≠ .error .nullInPath ∧
      '\x00' ∉ "cut.exe".toList ∧
      importsOf (m := Id) Sample.broken.host "cut.exe" =
        (Except.ok [], [.warning "Could not parse imports of 'cut.exe': "]) ∧
      databaseOf (m := Id) Sample.broken.host "cut.exe" =
        (Except.ok none, [.searchWarning "Could not read PDB path from 'cut.exe': "]) ∧
      Sample.lone.imports = .ok ["a"] ∧ ["a"].length ≤ Sample.lone.file.size / 20 := by
  have clean : '\x00' ∉ "cut.exe".toList := by decide
  have named : Sample.broken.host.contents "cut.exe" ≠ .error .nullInPath := by
    rw [Sample.broken_contents]
    exact nofun
  obtain ⟨-, -, -, bound, inWorld, onHost⟩ := readings_total
  have noImports : reading Sample.broken.host "cut.exe" Image.imports = .error "" := by
    rw [reading, Sample.broken_contents]
    rfl
  have noDatabase : reading Sample.broken.host "cut.exe" Image.databasePath? = .error "" := by
    rw [reading, Sample.broken_contents]
    rfl
  refine ⟨named, clean, ?_, ?_, Sample.lone_imports, bound _ _ Sample.lone_imports⟩
  · exact (inWorld Sample.broken "cut.exe" clean).noImports "" noImports
  · exact (onHost Sample.broken.host "cut.exe" named).noDatabase "" noDatabase

end Pe
end TestAtlas
