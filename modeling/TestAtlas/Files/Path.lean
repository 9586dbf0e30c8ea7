import TestAtlas.Text.Split

/-!
Paths as text. Slashes separate components; an absolute path starts with one.
Nothing here looks at a file system, so a component of two dots is cancelled
against the one before it by spelling alone.
-/

namespace TestAtlas
namespace Path

def separator : Char := '/'

def isAbsolute (path : String) : Bool := path.toList.head? == some separator

/-- A path below a directory; an absolute path stays what it is. -/
def join (directory path : String) : String :=
  if isAbsolute path then path
  else if directory.isEmpty || directory.toList.getLast? == some separator then directory ++ path
  else directory ++ String.singleton separator ++ path

/-- The text without the separators at its end, unless it has only those. -/
def dropTrailing (path : List Char) : List Char :=
  match path.reverse.dropWhile (· == separator) with
  | [] => path
  | rest => rest.reverse

/-- The position after the last separator. -/
def nameStart (path : List Char) : Nat :=
  match Text.lastIndex? [separator] path with
  | none => 0
  | some i => i + 1

/-- What stands before the last component. -/
def directory (path : String) : String :=
  let chars := path.toList
  String.ofList (dropTrailing (chars.take (nameStart chars)))

/-- The last component. -/
def name (path : String) : String :=
  let chars := path.toList
  String.ofList (chars.drop (nameStart chars))

/-- The path without the extension of its last component. Dots in front of the component do not
start an extension. -/
def stem (path : String) : String :=
  let chars := path.toList
  let start := nameStart chars
  match Text.lastIndex? ['.'] chars with
  | none => path
  | some dot =>
      if start ≤ dot && ((chars.take dot).drop start).any (· != '.') then
        String.ofList (chars.take dot)
      else path

/-- Adds a component to the ones before it, which are in reverse. -/
def pushComponent (absolute : Bool) (before : List String) (component : String) : List String :=
  if component = "" || component = "." then before
  else if component = ".." then
    match before with
    | [] => if absolute then [] else [component]
    | last :: rest => if last = ".." then component :: before else rest
  else component :: before

/-- The separators that a normal path keeps at its start: two stay two, and more become one. -/
def root (path : String) : String :=
  match (path.toList.takeWhile (· == separator)).length with
  | 0 => ""
  | 2 => "//"
  | _ => "/"

/-- The path without superfluous separators and dots. -/
def normalize (path : String) : String :=
  let parts := (Text.pieces separator path).foldl (pushComponent (isAbsolute path)) []
  let normal := root path ++ String.intercalate "/" parts.reverse
  if normal.isEmpty then "." else normal

/-- The path as seen from the root. -/
def absolute (workingDirectory path : String) : String :=
  normalize (if isAbsolute path then path else join workingDirectory path)

/-- The path without superfluous separators and single dots. Two dots stay, as they may lead
elsewhere than the spelling says. -/
def tidy (path : String) : String :=
  let parts := (Text.pieces separator path).filter fun c => c != "" && c != "."
  let tidied := root path ++ String.intercalate "/" parts
  if tidied.isEmpty then "." else tidied

end Path
end TestAtlas
