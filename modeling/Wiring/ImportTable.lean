import Wiring.Identifier.Fresh
import Wiring.Import
import Wiring.Keyed

namespace Wiring

/-!
# Import tables

An import table gives every package of a generated file one name of its own. It
may start from the imports of an enclosing file: their names are kept and given to
no other package, but only packages that the generated code uses are listed.
-/

namespace ImportTable

/-- The name of a package inside the file, and whether generated code uses it. -/
structure Entry where
  name : String
  used : Bool
  deriving Repr, DecidableEq

end ImportTable

/-- The known packages by path, and names that no further package may get. -/
structure ImportTable where
  known : Keyed ImportTable.Entry
  reserved : List String

namespace ImportTable

/-- No packages and no reserved names. -/
def empty : ImportTable where
  known := Keyed.empty
  reserved := []

/-- Keep an import of the enclosing file; a path that is already known keeps its name. -/
def keep
    (imports : ImportTable)
    (entry : Import) :
    ImportTable :=
  match imports.known.get? entry.path with
  | some _ =>
      imports
  | none =>
      { imports with
        known := imports.known.insert entry.path { name := entry.name, used := false } }

/-- The table that starts from the imports of an enclosing file. -/
def ofImports (entries : List Import) : ImportTable :=
  entries.foldl keep empty

/-- Give a name to no further package. -/
def reserve
    (imports : ImportTable)
    (name : String) :
    ImportTable :=
  { imports with reserved := name :: imports.reserved }

/-- The names of all known packages. -/
def names (imports : ImportTable) : List String :=
  imports.known.entries.map (fun entry => entry.2.name)

/-- Whether some known package has a name. -/
def isName
    (imports : ImportTable)
    (name : String) :
    Bool :=
  imports.names.contains name

/-- The name of a known package. -/
def nameOf?
    (imports : ImportTable)
    (path : String) :
    Option String :=
  (imports.known.get? path).map Entry.name

/-- Names that a new package may not get. -/
def takenNames (imports : ImportTable) : List String :=
  Identifier.reserved ++ imports.names ++ imports.reserved

/-- The name that a new package gets: its assumed name, numbered if that is taken. -/
def freshName
    (imports : ImportTable)
    (path : String) :
    String :=
  Identifier.fresh imports.takenNames (ImportPath.assumedPackageName path) []

/-- Use a package, naming it if it is new. -/
def use
    (imports : ImportTable)
    (path : String) :
    ImportTable :=
  match imports.known.get? path with
  | some entry =>
      { imports with
        known := imports.known.insert path { entry with used := true } }
  | none =>
      { imports with
        known := imports.known.insert path { name := imports.freshName path, used := true } }

/-- The used packages, standard library first, each group by path. -/
def listed (imports : ImportTable) : List Import :=
  ((imports.known.entries.filter (fun entry => entry.2.used)).map fun entry =>
    { path := entry.1, name := entry.2.name : Import }).mergeSort Import.precedes

/-- The number of known packages. -/
def size (imports : ImportTable) : Nat :=
  imports.known.size

/-- Whether no package is known. -/
def isEmpty (imports : ImportTable) : Bool :=
  imports.known.isEmpty

/-- The import block of the used packages. -/
def block (imports : ImportTable) : String :=
  Import.block imports.listed

end ImportTable

end Wiring
