import Wiring.Identifier.Spelling
import Wiring.Keyed
import Wiring.NamedType

namespace Wiring

/-!
# Packages

What a search sees of a package: its top-level functions, record types, type
aliases and interfaces, each in the order of declaration. All types are already
written with their import paths.
-/

namespace Package

/-- A parameter of a declared function; a variadic one may only be the last. -/
structure Param where
  name : Option String
  type : NamedType
  variadic : Bool
  deriving Repr, DecidableEq

/-- A declared function, or a method if it has a receiver. -/
structure Func where
  name : String
  receiver : Option NamedType
  params : List Param
  results : List NamedType
  deriving Repr, DecidableEq

/-- A field of a declared record type; an embedded field has no name. -/
structure Field where
  name : Option String
  type : NamedType
  deriving Repr, DecidableEq

/-- A declared record type. -/
structure Struct where
  name : String
  fields : List Field
  deriving Repr, DecidableEq

/-- A declared name for an existing type. -/
structure Alias where
  name : String
  target : NamedType
  deriving Repr, DecidableEq

namespace Field

/-- The name that a composite literal uses for the field; an embedded field is named by its type. -/
def key (field : Field) : String :=
  field.name.getD field.type.name

end Field

end Package

/-- A package as a search sees it. -/
structure Package where
  importPath : String
  name : String
  functions : List Package.Func
  structs : List Package.Struct
  aliases : List Package.Alias
  interfaces : List String
  deriving Repr, DecidableEq

namespace Package

/-- Whether the package declares an interface of this name. -/
def hasInterface
    (package : Package)
    (name : String) :
    Bool :=
  package.interfaces.contains name

end Package

/-- Packages filed under their import paths. -/
abbrev PackageIndex := Keyed Package

namespace PackageIndex

/-- Add a package, replacing any package at the same import path. -/
def add
    (index : PackageIndex)
    (package : Package) :
    PackageIndex :=
  index.insert package.importPath package

/-- File packages one after the other. -/
def ofList (packages : List Package) : PackageIndex :=
  packages.foldl add Keyed.empty

end PackageIndex

end Wiring
