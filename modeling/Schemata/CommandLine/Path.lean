/-!
# Paths

A path is a text of names with slashes between them, and an absolute path begins with a slash. The
empty name and `.` lead from a directory to itself, and `..` leads to the directory above it.
-/

namespace Schemata.CommandLine.Path

/-- The names of a path. -/
def names (path : String) : List String :=
  (path.toList.splitOn '/').map String.ofList

/-- The path of names. -/
def ofNames (names : List String) : String :=
  "/".intercalate names

/-- The path does not depend on a working directory. -/
def isAbsolute (path : String) : Bool :=
  path.startsWith "/"

/-- The name leads from a directory to itself. -/
def isIdle (name : String) : Bool :=
  name == "" || name == "."

/-- The names of a path without the slashes at its end. -/
def namesToLast (path : String) : List String :=
  ((names path).reverse.dropWhile (· == "")).reverse

/-- The beginnings of a list of names that end in a name that leads elsewhere, the shortest
first. -/
def stages : List String → List (List String)
  | [] => []
  | name :: rest =>
    let longer := (stages rest).map (name :: ·)
    if isIdle name then longer else [name] :: longer

/-- The paths above a path, the nearest first. None of them ends in a slash or in `.`, and a path
of one name has none. -/
def above (path : String) : List String :=
  (stages (names path)).dropLast.reverse.map ofNames

/-- The path of a name below a directory. An absolute name is a path by itself. -/
def join (directory name : String) : String :=
  if isAbsolute name then name
  else if directory.isEmpty || directory.endsWith "/" then directory ++ name
  else directory ++ "/" ++ name

/-- The part of a file name behind its last period, unless that period comes first. -/
def extension? (name : String) : Option String :=
  let backwards := name.toList.reverse
  match backwards.dropWhile (· != '.') with
  | [] | [_] => none
  | _ => some (String.ofList (backwards.takeWhile (· != '.')).reverse)

end Schemata.CommandLine.Path
