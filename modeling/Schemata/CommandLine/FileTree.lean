import Schemata.CommandLine.Files

/-!
# A file tree

A file tree is the content of a file system as far as a run can see it: directories, files with
their bytes, and the working directory from which relative paths start. A path is followed name by
name, and every name but the last has to lead to a directory. The empty path leads nowhere. Names
and paths have a greatest size, which is checked for a path as a whole and for a name when it is
followed. `Session` gives the operations of a run their meaning on a file tree, and keeps the events
that the run reports.
-/

namespace Schemata.CommandLine

/-- The names that lead from the root to a file or a directory. -/
abbrev Place := List String

/-- What is found at a place. -/
inductive Node where
  | directory
  | file (content : ByteArray)

/-- The directories and the files of a file system. The root is always a directory. -/
structure FileTree where
  directories : List Place := []
  files : List (Place × ByteArray) := []
  working : Place := []

/-- The number of bytes that a name has at most. -/
def maxNameSize : Nat := 255

/-- The number of bytes that a path has at most. -/
def maxPathSize : Nat := 4095

/-- Why a path leads nowhere in any tree. The empty path does not lead to the working directory. -/
def pathFault? (path : String) : Option FileFault :=
  if path.isEmpty then some .notFound
  else if path.toList.contains (Char.ofNat 0) then some .nulInName
  else if maxPathSize < path.utf8ByteSize then some .nameTooLong
  else none

namespace FileTree

/-- The content of the file at a place. -/
def content? (tree : FileTree) (place : Place) : Option ByteArray :=
  (tree.files.find? (·.1 == place)).map Prod.snd

/-- What is found at a place. -/
def node? (tree : FileTree) (place : Place) : Option Node :=
  match tree.content? place with
  | some content => some (.file content)
  | none => if place = [] ∨ place ∈ tree.directories then some .directory else none

/-- The place where a path starts. -/
def origin (tree : FileTree) (path : String) : Place :=
  if Path.isAbsolute path then [] else tree.working

/-- Follows names from a place. The place they lead to need not exist. -/
def follow (tree : FileTree) (place : Place) : List String → Except FileFault Place
  | [] => .ok place
  | name :: rest =>
    match tree.node? place with
    | none => .error .notFound
    | some (.file _) => .error .notDirectory
    | some .directory =>
      if maxNameSize < name.utf8ByteSize then .error .nameTooLong
      else if Path.isIdle name then tree.follow place rest
      else if name = ".." then tree.follow place.dropLast rest
      else tree.follow (place ++ [name]) rest

/-- The place that the given names of a path lead to. -/
def reach (tree : FileTree) (path : String) (names : List String) : Except FileFault Place :=
  match pathFault? path with
  | some fault => .error fault
  | none => tree.follow (tree.origin path) names

/-- The place that a path leads to. -/
def locate (tree : FileTree) (path : String) : Except FileFault Place :=
  tree.reach path (Path.names path)

/-- What a path leads to. -/
def lookup (tree : FileTree) (path : String) : Except FileFault Node := do
  match tree.node? (← tree.locate path) with
  | some node => pure node
  | none => .error .notFound

/-- The text of a file. -/
def readText (tree : FileTree) (path : String) : Except FileFault String := do
  match ← tree.lookup path with
  | .directory => .error .isDirectory
  | .file content =>
    match String.fromUTF8? content with
    | some text => pure text
    | none => .error .notText

/-- The path leads to a directory. -/
def isDirectory (tree : FileTree) (path : String) : Bool :=
  match tree.lookup path with
  | .ok .directory => true
  | _ => false

/-- The path leads to a file. -/
def isFile (tree : FileTree) (path : String) : Bool :=
  match tree.lookup path with
  | .ok (.file _) => true
  | _ => false

/-- The name of a place right below another one. -/
def nameBelow? (parent place : Place) : Option String :=
  match place.getLast? with
  | some name => if place.dropLast = parent then some name else none
  | none => none

/-- The entries of a directory. -/
def entries (tree : FileTree) (path : String) : Except FileFault (List Entry) := do
  let place ← tree.locate path
  match tree.node? place with
  | none => .error .notFound
  | some (.file _) => .error .notDirectory
  | some .directory =>
    let names := (tree.files.map (·.1) ++ tree.directories).filterMap (nameBelow? place)
    pure (names.map fun name => ⟨name, tree.isFile (Path.join path name)⟩)

/-- Makes one directory. Nothing may be there, and slashes at the end of the path do not count. -/
def makeDirectory (tree : FileTree) (path : String) : Except FileFault FileTree := do
  let place ← tree.reach path (Path.namesToLast path)
  match tree.node? place with
  | some _ => .error .alreadyExists
  | none => pure { tree with directories := tree.directories ++ [place] }

/-- The tree with the given content in the file at a place. -/
def setFile (tree : FileTree) (place : Place) (content : ByteArray) : FileTree :=
  if tree.files.any (·.1 == place) then
    { tree with
      files := tree.files.map fun file => if file.1 = place then (place, content) else file }
  else
    { tree with files := tree.files ++ [(place, content)] }

/-- Writes a file. -/
def writeFile (tree : FileTree) (path : String) (content : ByteArray) :
    Except FileFault FileTree := do
  let place ← tree.locate path
  match tree.node? place with
  | some .directory => .error .isDirectory
  | _ => pure (tree.setFile place content)

/-- The file at a place has another content than earlier, or it was not there. -/
def isChanged (earlier : FileTree) (place : Place) (content : ByteArray) : Bool :=
  (earlier.content? place).map (·.data) != some content.data

/-- The files below the working directory that changed since an earlier tree, by their path from
there. -/
def changesSince (tree earlier : FileTree) : List (String × ByteArray) :=
  tree.files.filterMap fun (place, content) =>
    if tree.working.isPrefixOf place && earlier.isChanged place content then
      some ("/".intercalate (place.drop tree.working.length), content)
    else
      none

end FileTree

/-- A file tree together with the events reported so far. -/
structure World where
  tree : FileTree
  log : List Event := []

/-- Computations on a file tree. -/
abbrev Session := StateM World

namespace Session

/-- Changes the tree unless the change fails. -/
def change (update : FileTree → Except FileFault FileTree) : Session (Except FileFault Unit) :=
  fun world =>
    match update world.tree with
    | .ok tree => (.ok (), { world with tree })
    | .error fault => (.error fault, world)

end Session

/-- The operations of a run on a file tree. -/
instance : Files Session where
  readText path world := (world.tree.readText path, world)
  isDirectory path world := (world.tree.isDirectory path, world)
  entries path world := (world.tree.entries path, world)
  makeDirectory path := Session.change (·.makeDirectory path)
  writeText path text := Session.change (·.writeFile path text.toUTF8)
  report event world := ((), { world with log := world.log ++ [event] })

/-- Writes a file and makes the directories above it. -/
def Session.place (path : String) (content : ByteArray) : Session (Except FileFault Unit) := do
  match Path.above path with
  | [] => Session.change (·.writeFile path content)
  | parent :: above =>
    match ← ensureBelow parent above with
    | .ok _ => Session.change (·.writeFile path content)
    | .error fault => pure (.error fault)

end Schemata.CommandLine
