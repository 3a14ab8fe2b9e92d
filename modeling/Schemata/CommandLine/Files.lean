import Schemata.CommandLine.Path
import Schemata.Event

/-!
# What a run needs from its surroundings

A run reads and writes files and reports events. `Files` names these operations, so that the same
program runs on the files of the machine and on a `FileTree`.
-/

namespace Schemata.CommandLine

/-- Why an operation on files fails. -/
inductive FileFault where
  | notFound
  | notDirectory
  | isDirectory
  | alreadyExists
  | nameTooLong
  | nulInName
  | notText
  | other (text : String)
  deriving DecidableEq, Repr

/-- The wording of a fault. -/
def FileFault.message : FileFault → String
  | notFound => "No such file or directory (os error 2)"
  | notDirectory => "Not a directory (os error 20)"
  | isDirectory => "Is a directory (os error 21)"
  | alreadyExists => "File exists (os error 17)"
  | nameTooLong => "File name too long (os error 36)"
  | nulInName => "file name contained an unexpected NUL byte"
  | notText => "stream did not contain valid UTF-8"
  | other text => text

/-- An entry of a directory. -/
structure Entry where
  name : String
  /-- The path of the entry leads to a file. -/
  isFile : Bool
  deriving DecidableEq, Repr

/-- The operations on files, and the report of an event. -/
class Files (m : Type → Type) where
  readText : String → m (Except FileFault String)
  isDirectory : String → m Bool
  entries : String → m (Except FileFault (List Entry))
  /-- Makes one directory, in a directory that is there. -/
  makeDirectory : String → m (Except FileFault Unit)
  writeText : String → String → m (Except FileFault Unit)
  report : Event → m Unit

section Directories

variable {m : Type → Type} [Monad m] [Files m]

/-- Makes one directory unless it is there. -/
def ensureDirectory (path : String) : m (Except FileFault Unit) := do
  match ← Files.makeDirectory path with
  | .ok _ => pure (.ok ())
  | .error fault =>
    if ← Files.isDirectory path then pure (.ok ()) else pure (.error fault)

/-- Makes a directory below the given paths, of which the nearest comes first. Where it cannot be
found, the directory above it is made before. -/
def ensureBelow (path : String) : List String → m (Except FileFault Unit)
  | [] => ensureDirectory path
  | parent :: above => do
    match ← ensureDirectory path with
    | .error .notFound =>
      match ← ensureBelow parent above with
      | .ok _ => ensureDirectory path
      | .error fault => pure (.error fault)
    | result => pure result

/-- Makes a directory and the directories above it, as far as they are missing. The paths above end
in a name, but the path itself may end in `.`, which asks for a directory that is there. Nothing is
made for the empty path. -/
def makeDirectories (path : String) : m (Except FileFault Unit) :=
  if path.isEmpty then pure (.ok ()) else ensureBelow path (Path.above path)

end Directories

end Schemata.CommandLine
