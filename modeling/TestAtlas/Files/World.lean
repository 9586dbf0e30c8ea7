import TestAtlas.Files.Tree

/-!
Surroundings that are a value: a tree of files, a working directory, variables
and home directories.
-/

namespace TestAtlas

structure World where
  root : Tree := Tree.empty
  workingDirectory : String := "/"
  environment : List (String × String) := []
  /-- Home directories by user; the entry without a user is that of the current one. -/
  homes : List (Option String × String) := []

namespace World

/-- The components of a path as seen from the root. -/
def components (world : World) (path : String) : List String :=
  (Text.pieces Path.separator (Path.absolute world.workingDirectory path)).filter (· != "")

def find (world : World) (path : String) : Except FileError Tree :=
  world.root.find world.workingDirectory path

/-- The world with a file at a path and the directories that lead to it. -/
def writeFile (world : World) (path : String) (contents : Array UInt8) : World :=
  { world with root := Tree.insert (.file contents) (world.components path) world.root }

/-- The world with a directory at a path; one that is there stays as it is. -/
def makeDirectory (world : World) (path : String) : World :=
  match world.find path with
  | .ok _ => world
  | .error _ => { world with root := Tree.insert .empty (world.components path) world.root }

/-- The world without what is at a path, which has to be something. -/
def remove (world : World) (path : String) : Except FileError World := do
  let _ ← world.find path
  return { world with root := Tree.erase (world.components path) world.root }

/-- The world with another working directory. -/
def enter (world : World) (path : String) : Except FileError World := do
  match (← world.find path).kind with
  | .file => throw .notDirectory
  | .directory =>
      return { world with workingDirectory := Path.absolute world.workingDirectory path }

/-- The world with a variable set, or unset. -/
def setVariable (world : World) (name : String) (value : Option String) : World :=
  let others := world.environment.filter fun e => e.1 != name
  { world with environment := others ++ (value.map (name, ·)).toList }

/-- The world as the surroundings of a run that cannot change it. -/
def host (world : World) : Host Id where
  kind path := (world.find path).map Tree.kind
  contents path := (world.find path).bind Tree.contents
  names path := (world.find path).bind Tree.names
  workingDirectory := world.workingDirectory
  variableNamed name := (world.environment.find? fun e => e.1 == name).map (·.2)
  home? user := (world.homes.find? fun e => e.1 == user).map (·.2)

end World
end TestAtlas
