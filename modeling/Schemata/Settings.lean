/-!
# Settings

What can be chosen about the generated texts: indentation, the names of repository classes and their
fields, the schema of tables that name none, and the namespaces of the classes.
-/

namespace Schemata

/-- How the private fields of generated classes are spelled. -/
inductive FieldNaming where
  /-- As the variable they are set from, so that they are assigned through `this`. -/
  | camelCase
  /-- With an underscore in front. -/
  | underscore
  deriving DecidableEq, Repr

/-- The field that is set from the variable with the given name. -/
def FieldNaming.fieldName (naming : FieldNaming) (name : String) : String :=
  match naming with
  | camelCase => name
  | underscore => "_" ++ name

/-- The settings of a run. -/
structure Settings where
  /-- The number of blanks of one level of indentation. -/
  tabSize : Nat := 4
  /-- Indents by one tab character instead of blanks. -/
  useTabs : Bool := false
  repositorySuffix : String := "Repository"
  fieldNaming : FieldNaming := .camelCase
  defaultSchema : String := "public"
  classNamespace : String := "Generated"
  /-- The namespace of repositories, which is that of the records if it is missing. -/
  repositoryNamespace : Option String := none
  deriving DecidableEq, Repr

namespace Settings

/-- One level of indentation. -/
def indentUnit (settings : Settings) : String :=
  if settings.useTabs then "\t" else String.ofList (List.replicate settings.tabSize ' ')

/-- The namespace in which repositories are generated. -/
def effectiveRepositoryNamespace (settings : Settings) : String :=
  settings.repositoryNamespace.getD settings.classNamespace

end Settings

end Schemata
