import TestAtlas.Files.Host

/-!
A file system that is a value: a tree of directories and files without links.
A path is followed component by component from the root; every component but
the last has to be a directory, and so has the last one if a separator follows.
-/

namespace TestAtlas

/-- A file, or a directory with its entries. -/
inductive Tree where
  | file (contents : Array UInt8)
  | directory (entries : List (String × Tree))
  deriving Inhabited

namespace Tree

def empty : Tree := directory []

def kind : Tree → FileKind
  | file _ => .file
  | directory _ => .directory

/-- The entry of a directory with this name. -/
def child? (name : String) : Tree → Option Tree
  | file _ => none
  | directory entries => (entries.find? fun e => e.1 == name).map (·.2)

/-- The entries with one of them set. -/
def setEntry (name : String) (tree : Tree) : List (String × Tree) → List (String × Tree)
  | [] => [(name, tree)]
  | (n, t) :: rest => if n = name then (name, tree) :: rest else (n, t) :: setEntry name tree rest

/-- The number of bytes that a component may have. -/
def longestName : Nat := 255

/-- The number of bytes that a path may have. -/
def longestPath : Nat := 4095

/-- Follows components from a directory whose ancestors are `above`, the nearest first. -/
def follow (above : List Tree) (here : Tree) : List String → Except FileError Tree
  | [] => .ok here
  | component :: rest =>
      match here with
      | file _ => .error .notDirectory
      | directory _ =>
          if component = "" || component = "." then follow above here rest
          else if component = ".." then
            match above with
            | [] => follow [] here rest
            | parent :: above => follow above parent rest
          else if longestName < component.utf8ByteSize then .error .nameTooLong
          else
            match here.child? component with
            | none => .error .missing
            | some next => follow (here :: above) next rest

/-- What a path leads to, seen from a working directory. -/
def find (root : Tree) (workingDirectory path : String) : Except FileError Tree :=
  if path.toList.contains (Char.ofNat 0) then .error .nullInPath
  else if path.isEmpty then .error .missing
  else if longestPath < path.utf8ByteSize then .error .nameTooLong
  else
    let full := if Path.isAbsolute path then path else Path.join workingDirectory path
    follow [] root (Text.pieces Path.separator full)

/-- The bytes of a file. -/
def contents : Tree → Except FileError (Array UInt8)
  | file bytes => .ok bytes
  | directory _ => .error .isDirectory

/-- The names in a directory. -/
def names : Tree → Except FileError (List String)
  | file _ => .error .notDirectory
  | directory entries => .ok (entries.map (·.1))

/-- Puts a tree at the end of a list of components; directories on the way are made, and a file
on the way is replaced by one. -/
def insert (tree : Tree) : List String → Tree → Tree
  | [], _ => tree
  | component :: rest, here =>
      let entries := match here with
        | directory entries => entries
        | file _ => []
      let next := (here.child? component).getD empty
      directory (setEntry component (insert tree rest next) entries)

/-- Takes away what is at the end of a list of components. -/
def erase : List String → Tree → Tree
  | [], here => here
  | _, file bytes => file bytes
  | [component], directory entries => directory (entries.filter fun e => e.1 != component)
  | component :: rest, directory entries =>
      directory (entries.map fun (n, t) => if n = component then (n, erase rest t) else (n, t))

end Tree
end TestAtlas
