import Schemata.CommandLine.Arguments
import Schemata.CommandLine.Files
import Schemata.Settings.Read
import Schemata.Trace

/-!
# A run of the program

A run reads its settings and its definition files, generates all bundles, and only then writes the
three files of each bundle. The first failure ends the run. If the input is a directory, its
definition files are compiled in the order of their names, whatever order it is listed in. `runWith`
is a run with any reader of settings, and `run` is the one whose reader is `Settings.read`.
-/

namespace Schemata.CommandLine

/-- Why a run fails. -/
inductive Failure where
  | settings (cause : SettingsError)
  | readSettings (path : String) (fault : FileFault)
  | read (path : String) (fault : FileFault)
  | create (path : String) (fault : FileFault)
  | write (path : String) (fault : FileFault)
  | generate (error : Error)
  deriving DecidableEq, Repr

namespace Failure

/-- What failed, in one line. -/
def context : Failure → String
  | settings cause => cause.message
  | readSettings path fault => "Failed to read config " ++ path ++ ": " ++ fault.message
  | read path _ => "Failed to read " ++ path
  | create path _ => "Failed to create " ++ path
  | write path _ => "Failed to write " ++ path
  | generate error => error.message

/-- Why it failed, if there is more to say. -/
def cause? : Failure → Option String
  | settings _ => none
  | readSettings _ fault | read _ fault | create _ fault | write _ fault => some fault.message
  | generate error => some error.causeMessage

/-- A text with every line but the first indented like a cause. -/
def indented (text : String) : String :=
  String.ofList (text.toList.flatMap fun c => if c = '\n' then "\n    ".toList else [c])

/-- The report of a failure. -/
def report (failure : Failure) : String :=
  "Error: " ++ failure.context ++ "\n" ++
    match failure.cause? with
    | some cause => "\nCaused by:\n    " ++ indented cause ++ "\n"
    | none => ""

end Failure

/-- The entry is a file with definitions. -/
def isDefinition (entry : Entry) : Bool :=
  entry.isFile &&
    (Path.extension? entry.name == some "tdl" || Path.extension? entry.name == some "ele")

/-- The definition files among the entries of a directory, in the order of their names. -/
def definitionFiles (directory : String) (entries : List Entry) : List String :=
  let names := (entries.filter isDefinition).map (·.name)
  (names.mergeSort fun left right => decide (left ≤ right)).map (Path.join directory)

/-- The files of a bundle in the output directory, with their texts. -/
def bundleFiles (output : String) (bundle : Bundle) : List (String × String) :=
  [(Path.join output (bundle.objectName ++ ".sql"), bundle.statements.creation),
   (Path.join output (bundle.objectName ++ ".cs"), bundle.record.source),
   (Path.join output (bundle.repositoryName ++ ".cs"), bundle.repository.source)]

/-- Reads settings from the text of a settings file. -/
abbrev SettingsReader :=
  String → Except SettingsError Settings

section Run

variable {m : Type → Type} [Monad m] [Files m]

/-- Runs an operation on files and words its failure. -/
def attempt {α : Type} (failure : FileFault → Failure) (operation : m (Except FileFault α)) :
    ExceptT Failure m α := do
  match ← operation with
  | .ok result => pure result
  | .error fault => throw (failure fault)

/-- Reports an event. -/
def report (event : Event) : ExceptT Failure m Unit :=
  ExceptT.lift (Files.report event)

/-- Loads the settings of a run. -/
def loadSettings (reader : SettingsReader) (request : Request) : ExceptT Failure m Settings := do
  let settings : Settings ←
    match request.config with
    | none => pure {}
    | some path => do
      let text ← attempt (.readSettings path) (Files.readText path)
      match reader text with
      | .ok settings => pure settings
      | .error cause => throw (.settings cause)
  pure { settings with
    classNamespace := request.classNamespace.getD settings.classNamespace }

/-- The definition files of a run, in the order in which they are compiled. -/
def inputFiles (input : String) : ExceptT Failure m (List String) := do
  if ← ExceptT.lift (Files.isDirectory input) then
    definitionFiles input <$> attempt (.read input) (Files.entries input)
  else
    pure [input]

/-- Generates the bundles of a batch and reports the events of doing so. -/
def generateBundles (settings : Settings) (texts : List String) :
    ExceptT Failure m (List Bundle) := do
  (trace settings texts).forM report
  match Schemata.generate settings texts with
  | .ok bundles => pure bundles
  | .error error => throw (.generate error)

/-- Writes one file. -/
def writeArtifact (file : String × String) : ExceptT Failure m Unit := do
  attempt (.write file.1) (Files.writeText file.1 file.2)
  report (.wroteFile file.1)

/-- Carries out a request, with a reader of settings. -/
def runWith (reader : SettingsReader) (request : Request) : ExceptT Failure m Unit := do
  let settings ← loadSettings reader request
  let files ← inputFiles request.input
  let texts ← files.mapM fun file => attempt (.read file) (Files.readText file)
  let bundles ← generateBundles settings texts
  attempt (.create request.output) (makeDirectories request.output)
  (bundles.flatMap (bundleFiles request.output)).forM writeArtifact
  report (.finished bundles.length files.length request.output)

/-- Carries out a request. -/
def run (request : Request) : ExceptT Failure m Unit :=
  runWith Settings.read request

end Run

end Schemata.CommandLine
