import TestAtlas.Diagnostics
import TestAtlas.Pdb.Module
import TestAtlas.Pdb.NamedStream
import TestAtlas.Symbol
import TestAtlas.Text.Glob

/-!
An open program database and what was learned from it. Modules and the string
table are read when they are first asked for and kept, also when the file is
closed in between. A string table that cannot be read is kept as empty.
-/

namespace TestAtlas
namespace Pdb

open CodeView (Procedure LineEntry)

structure Session where
  path : String
  container : Option Container := none
  modules : Option (List Module) := none
  strings : Option StringTable := none
  /-- What there was to say so far. -/
  remarks : List Entry := []

namespace Session

/-- An operation on a session, which keeps what it learned even if it fails. -/
abbrev Op (α : Type) := ExceptT Error (StateM Session) α

/-- Starts over with the bytes of the file; what was learned is kept. -/
def openFile (file : Array UInt8) : Op Unit := do
  match Container.parse file with
  | .ok container => modify ({ · with container := some container })
  | .error e =>
      modify ({ · with container := none })
      throw e

def close : Op Unit := modify ({ · with container := none })

/-- The container, if the session is open. -/
def opened : Op Container := do
  let session ← get
  match session.container with
  | some container => return container
  | none => throw (.notOpen session.path)

def getModules : Op (List Module) := do
  match (← get).modules with
  | some modules => return modules
  | none =>
      let modules ← Module.all (← opened)
      modify ({ · with modules := some modules })
      return modules

def getNamedStreams : Op NamedStreams := do
  NamedStreams.all (← opened)

def getStream (index : Int) : Op Bytes := do
  (← opened).stream index

def getStrings : Op StringTable := do
  match (← get).strings with
  | some strings => return strings
  | none =>
      modify ({ · with strings := some [] })
      let strings ← StringTable.load (← opened)
      modify ({ · with strings := some strings })
      return strings

/-- The name of the file that a line entry of a module refers to, empty if the module has no
checksum entry for it. -/
def fileName (module : Module) (fileId : Int) : Op String := do
  match module.info.checksums.find? fileId with
  | none => return ""
  | some offset => return Utf8.decodeAt (← getStrings) offset

/-- The symbol of a procedure of a module, with file and line if the module has a line entry in
the procedure's code. -/
def symbol (module : Module) (procedure : Procedure) : Op Symbol := do
  match LineEntry.forProcedure? module.info.lines procedure with
  | none =>
      modify fun s => { s with
        remarks := s.remarks ++ [Entry.searchWarning
          s!"Could not find source location of symbol '{procedure.name}' in '{s.path}'"] }
      return { name := procedure.name }
  | some entry =>
      let file ← fileName module entry.fileId
      return { name := procedure.name, file, line := entry.line }

/-- The procedures whose name a pattern accepts, each with its module, in the order of the
modules and of the records. -/
def matching (pattern : String) (modules : List Module) : List (Module × Procedure) :=
  modules.flatMap fun module =>
    (module.procedures.filter fun p => Glob.accepts pattern p.name).map (module, ·)

/-- The symbols of the procedures whose name a pattern accepts. -/
def functions (pattern : String) : Op (List Symbol) := do
  (matching pattern (← getModules)).mapM fun (module, procedure) => symbol module procedure

end Session
end Pdb
end TestAtlas
