import Wiring.Lookup
import Wiring.Package

namespace Wiring

/-!
# Package searches

A type is produced by the first fitting symbol of its package: a function that
returns it, else the record type of its name, else the type alias of its name,
each in the order of declaration. Symbols of other packages fit only if they are
visible from the package that the search is made for.
-/

namespace PackageIndex

/-- The package at an import path, or why there is none. -/
def packageAt
    (index : PackageIndex)
    (importPath : String) :
    Except LookupError Package :=
  match index.get? importPath with
  | some package => .ok package
  | none => .error (.missingPackage importPath "package not found")

end PackageIndex

/-- Packages to search, and the package whose view of them counts, if any. -/
structure PackageSearch where
  packages : PackageIndex
  viewpoint : Option String

namespace PackageSearch

/-- Whether a name of a package can be used from the viewpoint. -/
def sees
    (search : PackageSearch)
    (package : Package)
    (name : String) :
    Bool :=
  match search.viewpoint with
  | none => true
  | some importPath => importPath == package.importPath || Identifier.isExported name

/--
A result list split at its last result that is not an error.

There is no such split when every result is an error.
-/
def splitOutput? :
    List NamedType →
    Option (List NamedType × NamedType × List NamedType)
  | [] =>
      none
  | result :: rest =>
      match splitOutput? rest with
      | some (leading, output, trailing) =>
          some (result :: leading, output, trailing)
      | none =>
          if result.isError then
            none
          else
            some ([], result, rest)

/-- The types of the parameters that a call has to fill. -/
def requiredParams (function : Package.Func) : List NamedType :=
  (function.params.filter (fun param => !param.variadic)).map Package.Param.type

/-- Why a result without an import path cannot be used. -/
def unclearImportPath
    (result : NamedType)
    (function : Package.Func) :
    String :=
  "unable to determine the import path of " ++ result.name ++ " returned by " ++ function.name

/--
What a function says about a wanted type: nothing, that it returns the type, or
that it would but its result has no import path.

A method is never used, and neither is a function with a parameter of the
universe block, because values of such types mean too many things.
-/
def tryFunction
    (search : PackageSearch)
    (package : Package)
    (wanted : NamedType)
    (function : Package.Func) :
    Option (Except LookupError Recipe) :=
  match function.receiver, splitOutput? function.results with
  | none, some (leading, output, trailing) =>
      if output.name ≠ wanted.name then
        none
      else if output.importPath = "" ∧ output.kind ≠ .builtin then
        some (.error (.malformed wanted.identity (unclearImportPath output function)))
      else if output.importPath ≠ wanted.importPath then
        none
      else if search.sees package function.name = false then
        none
      else if (requiredParams function).any NamedType.isBuiltin then
        none
      else
        some (.ok (.call {
          importPath := package.importPath
          name := function.name
          params := requiredParams function
          leading
          output
          trailing }))
  | _, _ =>
      none

/-- The fields of a record type that a literal fills: visible, and not of the universe block. -/
def filledFields
    (search : PackageSearch)
    (package : Package)
    (struct : Package.Struct) :
    List Field :=
  (struct.fields.filter fun field =>
      !field.type.isBuiltin && search.sees package field.key).map fun field =>
    { name := field.key, type := field.type }

/-- The literal of a record type that has the wanted name and is visible. -/
def tryStruct
    (search : PackageSearch)
    (package : Package)
    (wanted : NamedType)
    (struct : Package.Struct) :
    Option (Except LookupError Recipe) :=
  if struct.name = wanted.name ∧ search.sees package struct.name = true then
    some (.ok (.literal (Record.ofFields wanted (search.filledFields package struct))))
  else
    none

/--
The type alias that has the wanted name and is visible.

When a pointer is wanted, the pointer to the aliased type is needed.
-/
def tryAlias
    (search : PackageSearch)
    (package : Package)
    (wanted : NamedType)
    (declared : Package.Alias) :
    Option (Except LookupError Recipe) :=
  if declared.name = wanted.name ∧ search.sees package declared.name = true then
    some (.ok (.forward {
      importPath := package.importPath
      name := declared.name
      target := if wanted.pointer then declared.target.toPointer else declared.target }))
  else
    none

/-- What the first symbol that has anything to say about a wanted type says. -/
def firstAnswer?
    (search : PackageSearch)
    (package : Package)
    (wanted : NamedType) :
    Option (Except LookupError Recipe) :=
  match package.functions.findSome? (search.tryFunction package wanted) with
  | some answer =>
      some answer
  | none =>
      match package.structs.findSome? (search.tryStruct package wanted) with
      | some answer =>
          some answer
      | none =>
          package.aliases.findSome? (search.tryAlias package wanted)

/-- What to do about a type of the universe block. -/
def builtinHint : String :=
  "builtin types must be passed in as parameters"

/-- What to do about an interface. -/
def interfaceHint : String :=
  "interfaces need an alias to a concrete type"

/-- Search the package of a type. -/
def lookup (search : PackageSearch) : Lookup :=
  fun wanted =>
    if wanted.isBuiltin then
      .error (.notFound wanted.identity (some builtinHint))
    else
      match search.packages.packageAt wanted.importPath with
      | .error failure =>
          .error failure
      | .ok package =>
          match search.firstAnswer? package wanted with
          | some answer =>
              answer
          | none =>
              .error (.notFound wanted.identity
                (if package.hasInterface wanted.name then some interfaceHint else none))

/-- The identities of the types that a package needs for its parameters, fields and aliases. -/
def mentionedBy (package : Package) : List String :=
  (package.functions.flatMap requiredParams
    ++ package.structs.flatMap (fun struct => struct.fields.map Package.Field.type)
    ++ package.aliases.map Package.Alias.target).map NamedType.identity

/-- The search with every identity that its packages mention. -/
def catalog (search : PackageSearch) : Catalog where
  lookup := search.lookup
  mentioned := search.packages.entries.flatMap (fun entry => mentionedBy entry.2)

end PackageSearch

end Wiring
