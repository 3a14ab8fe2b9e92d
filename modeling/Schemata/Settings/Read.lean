import Schemata.Document.Read
import Schemata.Settings

/-!
# Reading settings

A settings document defines any of the seven settings, each under its own name. A setting that is
missing keeps its default; an unknown name or a value of the wrong kind makes the whole document
invalid. Only a document without such a fault is checked for the size of the indentation.
-/

namespace Schemata

/-- Why settings cannot be used. -/
inductive SettingsError where
  | invalidDocument
  | invalidTabSize (size : Nat)
  deriving DecidableEq, Repr

/-- The wording of a settings error. -/
def SettingsError.message : SettingsError → String
  | invalidDocument => "Invalid config"
  | invalidTabSize size => "tab_size must be between 1 and 16, got " ++ toString size

/-- The field naming with the given name. -/
def FieldNaming.ofName? (name : String) : Option FieldNaming :=
  if name = "camel_case" then some .camelCase
  else if name = "underscore" then some .underscore
  else none

namespace Settings

open Document

/-- The item has no content. -/
def isVoid (tree : Tree) (path : Path) : Item → Bool
  | .emptyList => true
  | .table _ => (tree.children path).isEmpty
  | _ => false

/-- The field naming that an item stands for. Besides a text it can be a table with one name, whose
value has no content. -/
def fieldNamingOf? (tree : Tree) (path : Path) (item : Item) : Option FieldNaming :=
  match item with
  | .text name => FieldNaming.ofName? name
  | .table _ =>
    match tree.children path with
    | [(name, inner)] =>
      if isVoid tree (path ++ [name]) inner then FieldNaming.ofName? name else none
    | _ => none
  | _ => none

/-- The size of the indentation, which is an unsigned number of 64 bits. -/
def sizeOf? (value : Int) : Option Nat :=
  if 0 ≤ value ∧ value < 0x10000000000000000 then some value.toNat else none

/-- The settings after one more of them was read. -/
def define (tree : Tree) (settings : Settings) (name : String) (item : Item) : Option Settings :=
  match name, item with
  | "tab_size", .integer value =>
    (sizeOf? value).map fun size => { settings with tabSize := size }
  | "use_tabs", .boolean value => some { settings with useTabs := value }
  | "repository_suffix", .text value => some { settings with repositorySuffix := value }
  | "field_naming", item =>
    (fieldNamingOf? tree [name] item).map fun naming => { settings with fieldNaming := naming }
  | "default_schema", .text value => some { settings with defaultSchema := value }
  | "class_namespace", .text value => some { settings with classNamespace := value }
  | "repository_namespace", .text value => some { settings with repositoryNamespace := some value }
  | _, _ => none

/-- The settings that a document defines. -/
def ofTree? (tree : Tree) : Option Settings :=
  (tree.children []).foldlM (fun settings (name, item) => settings.define tree name item) {}

/-- Settings whose indentation has a sensible size. -/
def validate (settings : Settings) : Except SettingsError Settings :=
  if 1 ≤ settings.tabSize ∧ settings.tabSize ≤ 16 then .ok settings
  else .error (.invalidTabSize settings.tabSize)

/-- Reads settings from the text of a document. -/
def read (text : String) : Except SettingsError Settings :=
  match Document.read? text >>= ofTree? with
  | none => .error .invalidDocument
  | some settings => settings.validate

end Settings

end Schemata
