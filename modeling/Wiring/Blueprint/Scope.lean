import Wiring.Blueprint
import Wiring.ImportTable
import Wiring.Tree

namespace Wiring

/-!
# Scopes

Before a function is laid out, its whole tree is read once: every package that
the function refers to is imported, in the order of paths, and every symbol of
the goal's own package that it mentions is set aside. No local name hides either
of them, and no import takes a name that the package already declares.
-/

/-- Why a tree cannot be laid out as a function. -/
inductive BlueprintError where
  /-- A value has to be constructed, but nothing says how. -/
  | missingRecipe (identity : String)
  /-- A value is needed for its own construction. -/
  | cycle (identity : String)
  /-- A goal occurs below the root. -/
  | nestedGoal (identity : String)
  /-- A package is mentioned that was not imported. -/
  | missingImport (path : String)
  deriving Repr, DecidableEq

namespace BlueprintError

/-- The wording of a failed layout. -/
def message : BlueprintError → String
  | .missingRecipe identity => "no declaration for " ++ identity
  | .cycle identity => identity ++ " depends on itself"
  | .nestedGoal identity => identity ++ " is a target and may only be the root"
  | .missingImport path => "package " ++ path ++ " was never imported"

end BlueprintError

/-- A package-level name with the import path of its package. -/
structure Reference where
  importPath : String
  name : String
  deriving Repr, DecidableEq

namespace NamedType

/-- The mention of a type. -/
def reference (type : NamedType) : Reference where
  importPath := type.importPath
  name := type.name

end NamedType

namespace Recipe

/-- The symbols that a recipe itself mentions when it is carried out. -/
def references : Recipe → List Reference
  | .call function => [{ importPath := function.importPath, name := function.name }]
  | .literal record => [record.type.reference]
  | _ => []

end Recipe

namespace Tree

mutual

/-- The symbols that laying out a tree mentions; below a supplied value nothing is laid out. -/
def references : Tree → List Reference
  | .node type origin hoist children =>
      if (Tree.node type origin hoist children).isSupplied then
        [type.reference]
      else
        (match origin with
          | .recipe recipe => recipe.references
          | _ => []) ++ referencesOfEach children

/-- The symbols that laying out a list of trees mentions. -/
def referencesOfEach : List Tree → List Reference
  | [] => []
  | tree :: rest => references tree ++ referencesOfEach rest

end

end Tree

/-- What is fixed before a function is laid out. -/
structure Scope where
  goal : Goal
  imports : ImportTable
  locals : List String

namespace Scope

/-- Names in ascending order, each once. -/
def sortedOnce (names : List String) : List String :=
  (names.mergeSort (fun left right => decide (left ≤ right))).eraseReps

/-- Everything that a function for a goal mentions: its result types and its tree below the root. -/
def mentioned
    (goal : Goal)
    (root : Tree) :
    List Reference :=
  goal.results.map (fun result => result.wanted.reference)
    ++ Tree.referencesOfEach root.children

/-- The name of the goal and the mentioned symbols of its own package. -/
def localNames
    (goal : Goal)
    (references : List Reference) :
    List String :=
  sortedOnce (goal.name ::
    (references.filter fun reference =>
      reference.importPath != "" && reference.importPath == goal.importPath).map
        Reference.name)

/-- The mentioned packages other than the goal's own. -/
def foreignPaths
    (goal : Goal)
    (references : List Reference) :
    List String :=
  sortedOnce ((references.filter fun reference =>
    reference.importPath != "" && reference.importPath != goal.importPath).map
      Reference.importPath)

/-- The scope of a function for a goal, over the imports of an enclosing file. -/
def ofTree
    (goal : Goal)
    (imports : ImportTable)
    (root : Tree) :
    Scope :=
  let references := mentioned goal root
  let locals := localNames goal references
  let reserved := locals.foldl ImportTable.reserve imports
  { goal
    imports := (foreignPaths goal references).foldl ImportTable.use reserved
    locals }

/--
The written form of a symbol.

It is bare in the goal's own package and in the universe block, and qualified by
the name of its package anywhere else.
-/
def symbol
    (scope : Scope)
    (importPath name : String) :
    Except BlueprintError Symbol :=
  if importPath = "" ∨ importPath = scope.goal.importPath then
    .ok { importPath, qualifier := none, name }
  else
    match scope.imports.nameOf? importPath with
    | some qualifier => .ok { importPath, qualifier := some qualifier, name }
    | none => .error (.missingImport importPath)

/-- The written form of a type. -/
def typeExpr
    (scope : Scope)
    (type : NamedType) :
    Except BlueprintError TypeExpr :=
  match scope.symbol type.importPath type.name with
  | .ok symbol => .ok { pointer := type.pointer, symbol }
  | .error failure => .error failure

/-- Types of the universe block whose zero value is the number zero. -/
def numericTypes : List String :=
  ["int", "int8", "int16", "int32", "int64", "uint", "uint8", "uint16", "uint32",
   "uint64", "uintptr", "byte", "rune", "float32", "float64", "complex64",
   "complex128"]

/-- The zero value of a type of the universe block, for types that have a plain one. -/
def builtinZero? (name : String) : Option ZeroValue :=
  if name = "string" then
    some (.constant "\"\"")
  else if name = "bool" then
    some (.constant "false")
  else if name = "error" ∨ name = "any" then
    some .nil
  else if numericTypes.contains name then
    some (.constant "0")
  else
    none

/-- The zero value of a result type. -/
def zeroValue
    (scope : Scope)
    (type : NamedType) :
    Except BlueprintError ZeroValue :=
  if type.pointer || type.kind.isNilable || type.isError then
    .ok .nil
  else
    match scope.symbol type.importPath type.name with
    | .error failure =>
        .error failure
    | .ok symbol =>
        match type.kind with
        | .struct | .array =>
            .ok (.composite symbol)
        | .builtin =>
            if type.importPath = "" then
              .ok ((builtinZero? type.name).getD (.pointee symbol))
            else
              .ok (.pointee symbol)
        | _ =>
            .ok (.pointee symbol)

/-- The zero values of the results other than the error slot, in order. -/
def zeroValues (scope : Scope) : Except BlueprintError (List ZeroValue) :=
  (scope.goal.results.filter (fun result => !result.isError)).mapM
    (fun result => scope.zeroValue result.wanted)

end Scope

end Wiring
