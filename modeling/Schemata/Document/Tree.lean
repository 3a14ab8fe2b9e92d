/-!
# The contents of a settings document

A document is a tree of tables with values at its leaves. It is kept as the list of its items, each
with the path of names that leads to it, in the order in which they were added. A name is never
defined twice. Whether a table can still be extended depends on how it came about: a table that only
the header of one of its parts has implied can get a header of its own, a table that dotted keys
have opened can be extended by dotted keys, and a table written in braces is complete.
-/

namespace Schemata.Document

/-- The names that lead from the root to an item. -/
abbrev Path := List String

/-- How a table came about. -/
inductive Origin where
  | implied
  | header
  | dotted
  | braces
  deriving DecidableEq, Repr

/-- An item of a document. -/
inductive Item where
  | text (value : String)
  | integer (value : Int)
  | boolean (value : Bool)
  | emptyList
  | table (origin : Origin)
  deriving DecidableEq, Repr

/-- The items of a document, by path. -/
structure Tree where
  items : List (Path × Item) := []
  deriving DecidableEq, Repr

namespace Tree

/-- The item at a path. -/
def find? (tree : Tree) (path : Path) : Option Item :=
  (tree.items.find? (·.1 == path)).map Prod.snd

/-- The tree with one more item. -/
def add (tree : Tree) (path : Path) (item : Item) : Tree :=
  ⟨tree.items ++ [(path, item)]⟩

/-- The tree with another item at a path. -/
def set (tree : Tree) (path : Path) (item : Item) : Tree :=
  ⟨tree.items.map fun entry => if entry.1 = path then (path, item) else entry⟩

/-- The items right below a path, by name. -/
def children (tree : Tree) (path : Path) : List (String × Item) :=
  tree.items.filterMap fun (place, item) =>
    match place.getLast? with
    | some name => if place.dropLast = path then some (name, item) else none
    | none => none

/-- Adds an item under a dotted key, whose first names lead through tables that dotted keys have
opened. -/
def addKey (tree : Tree) (parent : Path) (key : Path) (item : Item) : Option Tree :=
  match key with
  | [] => none
  | [name] =>
    match tree.find? (parent ++ [name]) with
    | none => some (tree.add (parent ++ [name]) item)
    | some _ => none
  | name :: next :: rest =>
    let here := parent ++ [name]
    match tree.find? here with
    | none => (tree.add here (.table .dotted)).addKey here (next :: rest) item
    | some (.table .dotted) => tree.addKey here (next :: rest) item
    | some _ => none

/-- Adds the table of a header. -/
def addHeader (tree : Tree) (parent : Path) (key : Path) : Option Tree :=
  match key with
  | [] => none
  | [name] =>
    let here := parent ++ [name]
    match tree.find? here with
    | none => some (tree.add here (.table .header))
    | some (.table .implied) => some (tree.set here (.table .header))
    | some _ => none
  | name :: next :: rest =>
    let here := parent ++ [name]
    match tree.find? here with
    | none => (tree.add here (.table .implied)).addHeader here (next :: rest)
    | some (.table .braces) => none
    | some (.table _) => tree.addHeader here (next :: rest)
    | some _ => none

end Tree

end Schemata.Document
