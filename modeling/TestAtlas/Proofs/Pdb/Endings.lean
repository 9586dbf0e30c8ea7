import TestAtlas.Proofs.Pdb.RoundTrip
import TestAtlas.Proofs.Text.Glob
import TestAtlas.SymbolTable

/-!
The procedures of a database by the endings of their names. A database is asked
for them once for each ending; that both answers are right takes one string
table for both, which need not be readable if no procedure refers to it.
-/

namespace TestAtlas
namespace Pdb

open CodeView (Procedure LineEntry)

/-- The procedures whose name has an ending, each with its module, in the order of the modules and
of the records. -/
def endingIn (ending : List Char) (modules : List Module) : List (Module × Procedure) :=
  modules.flatMap fun module =>
    (module.procedures.filter fun p => ending.isSuffixOf p.name.toList).map (module, ·)

/-- The symbol of a procedure of a module, its file taken from a string table. -/
def located (strings : StringTable) (module : Module) (procedure : Procedure) : Symbol :=
  match LineEntry.forProcedure? module.info.lines procedure with
  | none => { name := procedure.name }
  | some entry =>
      { name := procedure.name
        file := ((module.info.checksums.find? entry.fileId).map (Utf8.decodeAt strings)).getD ""
        line := entry.line }

/-- The symbols of the procedures whose name has an ending. -/
def symbolsEndingIn (ending : List Char) (modules : List Module) (strings : StringTable) :
    List Symbol :=
  (endingIn ending modules).map fun (module, procedure) => located strings module procedure

theorem name_located (strings : StringTable) (module : Module) (procedure : Procedure) :
    (located strings module procedure).name = procedure.name := by
  unfold located
  split <;> rfl

theorem suffix_of_mem_symbolsEndingIn {ending : List Char} {modules : List Module}
    {strings : StringTable} {symbol : Symbol}
    (h : symbol ∈ symbolsEndingIn ending modules strings) : ending <:+ symbol.name.toList := by
  obtain ⟨⟨module, procedure⟩, paired, rfl⟩ := List.mem_map.mp h
  obtain ⟨other, -, paired⟩ := List.mem_flatMap.mp paired
  obtain ⟨_, kept, same⟩ := List.mem_map.mp paired
  cases same
  rw [name_located]
  exact List.isSuffixOf_iff_suffix.mp (List.mem_filter.mp kept).2

namespace Session

variable {container : Container} {session : Session}

/-- The string table with which procedures are located. One that cannot be read does no harm as
long as none of them refers to it. -/
def Serves (table : Except Error StringTable) (pairs : List (Module × Procedure))
    (strings : StringTable) : Prop :=
  table = .ok strings ∨ strings = [] ∧ referToStrings pairs = false

theorem matching_star {ending : List Char} (plain : ∀ c ∈ ending, Glob.Plain c)
    (modules : List Module) :
    matching (String.ofList ('*' :: ending)) modules = endingIn ending modules := by
  have same (name : String) :
      Glob.accepts (String.ofList ('*' :: ending)) name = ending.isSuffixOf name.toList := by
    rw [Bool.eq_iff_iff, Glob.accepts_star_iff plain, List.isSuffixOf_iff_suffix]
  simp only [matching, endingIn, same]

theorem matching_testPattern (modules : List Module) :
    matching Symbol.testPattern modules = endingIn Symbol.testBody modules :=
  matching_star (Glob.plain_of_all (by decide)) modules

theorem matching_traitPattern (modules : List Module) :
    matching Symbol.traitPattern modules = endingIn Symbol.traitAppendix modules :=
  matching_star (Glob.plain_of_all (by decide)) modules

theorem symbolWith_ok (strings : StringTable) (path : String) (module : Module)
    (procedure : Procedure) :
    (symbolWith (.ok strings) path module procedure).1 =
      .ok (located strings module procedure) := by
  unfold symbolWith located
  cases LineEntry.forProcedure? module.info.lines procedure with
  | none => rfl
  | some entry =>
      cases named : module.info.checksums.find? entry.fileId with
      | none => simp only [named, Option.map_none, Option.getD_none]
      | some offset => simp only [named, Except.map, Option.map_some, Option.getD_some]

theorem symbolsWith_ok_eq (strings : StringTable) (path : String)
    (pairs : List (Module × Procedure)) :
    (symbolsWith (.ok strings) path pairs).1 =
      .ok (pairs.map fun (module, procedure) => located strings module procedure) := by
  induction pairs with
  | nil => rfl
  | cons pair rest ih =>
      obtain ⟨module, procedure⟩ := pair
      have first := symbolWith_ok strings path module procedure
      rw [symbolsWith]
      cases answer : symbolWith (.ok strings) path module procedure with
      | mk outcome said =>
          rw [answer] at first
          cases first
          simp only [ih, Except.map, List.map_cons]

theorem referToStrings_append (pairs more : List (Module × Procedure)) :
    referToStrings (pairs ++ more) = (referToStrings pairs || referToStrings more) :=
  List.any_append

theorem symbolsWith_of_serves {table : Except Error StringTable}
    {pairs : List (Module × Procedure)} {strings : StringTable} (h : Serves table pairs strings)
    (path : String) :
    (symbolsWith table path pairs).1 =
      .ok (pairs.map fun (module, procedure) => located strings module procedure) := by
  obtain rfl | ⟨rfl, unreferred⟩ := h
  · exact symbolsWith_ok_eq strings path pairs
  · rw [symbolsWith_of_not_refer table (.ok []) path pairs unreferred]
    exact symbolsWith_ok_eq [] path pairs

theorem serves_of_symbolsWith {table : Except Error StringTable} {path : String}
    {pairs : List (Module × Procedure)} {found : List Symbol}
    (h : (symbolsWith table path pairs).1 = .ok found) : ∃ strings, Serves table pairs strings := by
  cases table with
  | ok strings => exact ⟨strings, .inl rfl⟩
  | error e =>
      cases refer : referToStrings pairs with
      | false => exact ⟨[], .inr ⟨rfl, refer⟩⟩
      | true =>
          rw [symbolsWith_error e path pairs refer] at h
          cases h

theorem Serves.left {table : Except Error StringTable} {pairs more : List (Module × Procedure)}
    {strings : StringTable} (h : Serves table (pairs ++ more) strings) :
    Serves table pairs strings := by
  refine h.imp_right fun ⟨empty, unreferred⟩ => ⟨empty, ?_⟩
  rw [referToStrings_append, Bool.or_eq_false_iff] at unreferred
  exact unreferred.1

/-- The table that is there after it was looked at, if it was. -/
def relooked (table : Except Error StringTable) (looked : Bool) : Except Error StringTable :=
  if looked then .ok (table.toOption.getD []) else table

theorem table_grown_eq (said : List Entry) (looked : Bool) :
    table container (grown container said looked session) =
      relooked (table container session) looked := by
  cases looked <;> rfl

theorem Serves.right {table : Except Error StringTable} {pairs more : List (Module × Procedure)}
    {strings : StringTable} (h : Serves table (pairs ++ more) strings) :
    Serves (relooked table (referToStrings pairs)) more strings := by
  obtain rfl | ⟨rfl, unreferred⟩ := h
  · left
    cases referToStrings pairs <;> rfl
  · rw [referToStrings_append, Bool.or_eq_false_iff] at unreferred
    exact .inr ⟨rfl, unreferred.2⟩

/-- Procedures of both kinds are located with one table: it is looked at a second time only if it
could be read the first time. -/
theorem Serves.append {table : Except Error StringTable} {pairs more : List (Module × Procedure)}
    {first second : StringTable} (h : Serves table pairs first)
    (h' : Serves (relooked table (referToStrings pairs)) more second) :
    ∃ strings, Serves table (pairs ++ more) strings := by
  cases table with
  | ok strings => exact ⟨strings, .inl rfl⟩
  | error e =>
      obtain readable | ⟨-, unreferred⟩ := h
      · cases readable
      · rw [unreferred] at h'
        obtain readable | ⟨-, unreferred'⟩ := h'
        · cases readable
        · refine ⟨[], .inr ⟨rfl, ?_⟩⟩
          rw [referToStrings_append, unreferred, unreferred']
          rfl

end Session

/-- The container can be read to the end, and these are the modules and the string table in it. -/
def Tells (container : Container) (modules : List Module) (strings : StringTable) : Prop :=
  Module.all container = .ok modules ∧ Session.Serves (StringTable.load container)
    (endingIn Symbol.testBody modules ++ endingIn Symbol.traitAppendix modules) strings

/-- The file can be read to the end, and these are the modules and the string table in it. -/
def Readable (file : Array UInt8) (modules : List Module) (strings : StringTable) : Prop :=
  ∃ container, Container.parse file = .ok container ∧ Tells container modules strings

/-- The methods of both kinds. -/
def methods (modules : List Module) (strings : StringTable) : SymbolTable where
  tests := symbolsEndingIn Symbol.testBody modules strings
  traits := symbolsEndingIn Symbol.traitAppendix modules strings

namespace Writer

/-- The modules that are read back from a database that was written. -/
def parsed (modules : List (List Function)) : List Module :=
  modules.zipIdx.map fun (functions, i) => module (files modules) i functions

theorem readable_database {modules : List (List Function)} (h : Encodable modules) :
    Readable (database modules).toArray (parsed modules) (strings (files modules)) := by
  obtain ⟨container, opened, found⟩ := h.container.parse_container
  exact ⟨container, opened, all_of_streams h found, .inl (load_of_streams h found)⟩

end Writer
end Pdb

end TestAtlas
