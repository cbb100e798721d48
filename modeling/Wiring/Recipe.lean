import Wiring.Need

namespace Wiring

/-!
# Recipes

A recipe is a way of producing a value: calling a constructor function, filling
in a record literal, following a type alias, or passing no error. The function
that is to be generated counts as a recipe as well; what it needs are its
results.
-/

/-- The text that identifies a package-level symbol. -/
def symbolIdentity
    (importPath name : String) :
    String :=
  "\"" ++ importPath ++ "\"." ++ name

/--
A function that provides one of its results.

The result list is kept split at the result it provides, so that this result
always exists.
-/
structure Constructor where
  importPath : String
  name : String
  params : List NamedType
  leading : List NamedType
  output : NamedType
  trailing : List NamedType
  deriving Repr, DecidableEq

namespace Constructor

/-- All results in order. -/
def results (function : Constructor) : List NamedType :=
  function.leading ++ function.output :: function.trailing

/-- The function with these results that provides the result at `index`, if there is one. -/
def ofResults?
    (importPath name : String)
    (params results : List NamedType)
    (index : Nat) :
    Option Constructor :=
  match results.drop index with
  | [] =>
      none
  | output :: trailing =>
      some { importPath, name, params, leading := results.take index, output, trailing }

/-- Whether the last result is `error`. -/
def returnsError (function : Constructor) : Bool :=
  (function.trailing.getLastD function.output).isError

theorem results_of_ofResults?
    {importPath name : String}
    {params results : List NamedType}
    {index : Nat}
    {function : Constructor}
    (accepted : ofResults? importPath name params results index = some function) :
    function.results = results := by
  unfold ofResults? at accepted
  split at accepted
  · simp at accepted
  · rename_i output trailing remaining
    cases accepted
    simp only [Constructor.results, ← remaining, List.take_append_drop]

end Constructor

/-- A declared name for an existing type. -/
structure TypeAlias where
  importPath : String
  name : String
  target : NamedType
  deriving Repr, DecidableEq

/-- The function to generate: the package it goes into, its name, and the results it returns. -/
structure Goal where
  importPath : String
  name : String
  package : String
  results : List Need
  deriving Repr, DecidableEq

namespace Goal

/-- The identity of the generated function. -/
def identity (goal : Goal) : String :=
  symbolIdentity goal.importPath goal.name

/-- Whether the result list ends in the error slot. -/
def wantsError (goal : Goal) : Bool :=
  match goal.results.getLast? with
  | none => false
  | some last => last.isError

end Goal

/-- A way of producing a value. -/
inductive Recipe where
  /-- Call a function and use one of its results. -/
  | call (function : Constructor)
  /-- Fill in a record literal. -/
  | literal (record : Record)
  /-- Use the value of the type that an alias stands for. -/
  | forward (synonym : TypeAlias)
  /-- Fill the error slot: nothing has failed. -/
  | noError
  /-- Generate the function itself. -/
  | goal (whole : Goal)
  deriving Repr, DecidableEq

namespace Recipe

/-- The identity of the symbol that is called, filled in or followed. -/
def identity : Recipe → String
  | .call function => symbolIdentity function.importPath function.name
  | .literal record => record.type.identity
  | .forward synonym => symbolIdentity synonym.importPath synonym.name
  | .noError => "error"
  | .goal whole => whole.identity

/-- The import path of the package that the symbol belongs to. -/
def importPath : Recipe → String
  | .call function => function.importPath
  | .literal record => record.type.importPath
  | .forward synonym => synonym.importPath
  | .noError => ""
  | .goal whole => whole.importPath

/--
What has to be produced first, in the order in which it is used: parameters,
fields, the aliased type, or the results of the generated function.
-/
def needs : Recipe → List Need
  | .call function => function.params.map .named
  | .literal record => record.fields.map (fun field => .named field.type)
  | .forward synonym => [.named synonym.target]
  | .noError => []
  | .goal whole => whole.results

/-- The shape of the produced value, as far as the recipe knows it. -/
def outputKind : Recipe → Kind
  | .call function => function.output.kind
  | .literal _ => .struct
  | .forward synonym => synonym.target.kind
  | .noError => .builtin
  | .goal _ => .unknown

end Recipe

end Wiring
