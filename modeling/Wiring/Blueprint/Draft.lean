import Wiring.Blueprint.Scope

namespace Wiring

/-!
# Laying out a function

The tree is walked children first. Every identity is laid out once: a supplied
value becomes a parameter and a constructed one a statement, and later uses refer
to the same name. Supplied and constructed values are kept apart, so a result
that is also needed below a hoisted value is still constructed for the result.
-/

/--
The part of a function that has been laid out.

Next to its parameters and statements it holds the values constructed so far,
filed under the identities they were constructed for.
-/
structure Draft where
  built : Keyed Value
  parameters : List Blueprint.Parameter
  statements : List Statement

namespace Draft

/-- Nothing laid out. -/
def empty : Draft where
  built := Keyed.empty
  parameters := []
  statements := []

/-- The names that parameters and statements bind. -/
def names (draft : Draft) : List String :=
  draft.parameters.map (fun parameter => parameter.value.name)
    ++ draft.statements.filterMap Statement.boundName?

/-- The parameter that supplies an identity. -/
def parameter?
    (draft : Draft)
    (identity : String) :
    Option Blueprint.Parameter :=
  draft.parameters.find? (fun parameter => parameter.value.identity == identity)

/-- Add a parameter. -/
def addParameter
    (draft : Draft)
    (parameter : Blueprint.Parameter) :
    Draft :=
  { draft with parameters := draft.parameters ++ [parameter] }

/-- Add statements at the end. -/
def addStatements
    (draft : Draft)
    (statements : List Statement) :
    Draft :=
  { draft with statements := draft.statements ++ statements }

/-- Remember the value that was constructed for an identity. -/
def remember
    (draft : Draft)
    (identity : String)
    (value : Value) :
    Draft :=
  { draft with built := draft.built.insert identity value }

end Draft

namespace Scope

/-- The first choice of a name for a value of a type. -/
def baseName (type : NamedType) : String :=
  let camel := Identifier.lowerCamel type.name
  if camel.isEmpty || Identifier.startsWithDigit camel then
    "v" ++ camel
  else
    camel

/-- The second choice: the same with the package in front, for types of other packages. -/
def qualifiedNames
    (scope : Scope)
    (type : NamedType) :
    List String :=
  if type.importPath = "" ∨ type.importPath = scope.goal.importPath then
    []
  else
    match scope.imports.nameOf? type.importPath with
    | none => []
    | some qualifier => [Identifier.lowerCamel (qualifier ++ Identifier.upperFirst type.name)]

/-- Names that a new binding may not have. -/
def takenNames
    (scope : Scope)
    (draft : Draft) :
    List String :=
  Identifier.reserved ++ draft.names ++ scope.locals ++ scope.imports.names

/-- A name for a new value of a type. -/
def freshName
    (scope : Scope)
    (draft : Draft)
    (type : NamedType) :
    String :=
  Identifier.fresh (scope.takenNames draft) (baseName type) (scope.qualifiedNames type)

/-- Receive a value of a type as a parameter. -/
def layParameter
    (scope : Scope)
    (type : NamedType)
    (hoisted : Bool)
    (draft : Draft) :
    Except BlueprintError (Value × Draft) :=
  match scope.typeExpr type with
  | .error failure =>
      .error failure
  | .ok expression =>
      let value : Value := { name := scope.freshName draft type, type }
      .ok (value, draft.addParameter { value, hoisted, type := expression })

/-- The type of a call's provided result, with the shape that the tree knows of it. -/
def calledType
    (function : Constructor)
    (type : NamedType) :
    NamedType :=
  match function.output.kind with
  | .unknown => function.output.withKind type.kind
  | _ => function.output

/-- Call a function, and return early if it can fail and does. -/
def layCall
    (scope : Scope)
    (zeros : List ZeroValue)
    (type : NamedType)
    (function : Constructor)
    (inputs : List Value)
    (draft : Draft) :
    Except BlueprintError (Value × Draft) :=
  match scope.symbol function.importPath function.name with
  | .error failure =>
      .error failure
  | .ok callee =>
      let output := calledType function type
      let name := scope.freshName draft output
      let arguments := List.zipWith (fun param input => input.passedAs param) function.params inputs
      let call := Statement.call type.identity function callee name arguments
      let check := if function.returnsError then [Statement.guard zeros] else []
      .ok ({ name, type := output }, draft.addStatements (call :: check))

/-- Fill in a record literal. -/
def layLiteral
    (scope : Scope)
    (type : NamedType)
    (record : Record)
    (inputs : List Value)
    (draft : Draft) :
    Except BlueprintError (Value × Draft) :=
  match scope.symbol record.type.importPath record.type.name with
  | .error failure =>
      .error failure
  | .ok literal =>
      let name := scope.freshName draft record.type
      let fields :=
        List.zipWith (fun field input => (field.name, input.passedAs field.type))
          record.fields inputs
      .ok ({ name, type := record.type },
        draft.addStatements [.literal type.identity record literal name fields])

/--
Carry out a recipe for a value of a type, with the values that it needs.

An alias forwards its only input under the aliased type, and the error slot is
`nil`; neither needs a statement.
-/
def layRecipe
    (scope : Scope)
    (zeros : List ZeroValue)
    (type : NamedType)
    (recipe : Recipe)
    (inputs : List Value)
    (draft : Draft) :
    Except BlueprintError (Value × Draft) :=
  match recipe with
  | .call function =>
      scope.layCall zeros type function inputs draft
  | .literal record =>
      scope.layLiteral type record inputs draft
  | .forward _ =>
      match inputs with
      | [] =>
          .error (.missingRecipe type.identity)
      | inner :: _ =>
          .ok ({ name := inner.name, type := type.withKind inner.type.kind }, draft)
  | .noError =>
      .ok (Value.nilError, draft)
  | .goal _ =>
      .error (.nestedGoal type.identity)

mutual

/--
Lay out a tree, unless its identity has been laid out before.

`constructing` holds the identities whose construction needs this tree.
-/
def layTree
    (scope : Scope)
    (zeros : List ZeroValue)
    (constructing : List String) :
    Tree →
    Draft →
    Except BlueprintError (Value × Draft)
  | .node type origin hoist children, draft =>
      if (Tree.node type origin hoist children).isSupplied then
        match draft.parameter? type.identity with
        | some parameter =>
            .ok (parameter.value, draft)
        | none =>
            scope.layParameter type hoist draft
      else
        match draft.built.get? type.identity with
        | some value =>
            .ok (value, draft)
        | none =>
            if type.identity ∈ constructing then
              .error (.cycle type.identity)
            else
              match origin with
              | .recipe recipe =>
                  match layEach scope zeros (type.identity :: constructing) children draft with
                  | .error failure =>
                      .error failure
                  | .ok (inputs, draft) =>
                      match scope.layRecipe zeros type recipe inputs draft with
                      | .error failure =>
                          .error failure
                      | .ok (value, draft) =>
                          .ok (value, draft.remember type.identity value)
              | _ =>
                  .error (.missingRecipe type.identity)

/-- Lay out a list of trees, one after the other. -/
def layEach
    (scope : Scope)
    (zeros : List ZeroValue)
    (constructing : List String) :
    List Tree →
    Draft →
    Except BlueprintError (List Value × Draft)
  | [], draft =>
      .ok ([], draft)
  | tree :: rest, draft =>
      match layTree scope zeros constructing tree draft with
      | .error failure =>
          .error failure
      | .ok (value, draft) =>
          match layEach scope zeros constructing rest draft with
          | .error failure =>
              .error failure
          | .ok (values, draft) =>
              .ok (value :: values, draft)

end

/-- The written types of the results for which there is a value. -/
def resultTypes
    (scope : Scope)
    (results : List Value) :
    Except BlueprintError (List TypeExpr) :=
  (scope.goal.results.zip results).mapM
    (fun result => scope.typeExpr result.1.wanted)

/-- The operands that pass values as the results of a goal. -/
def returnedOperands
    (goal : Goal)
    (results : List Value) :
    List Operand :=
  (goal.results.zip results).map
    (fun result => result.2.passedAs result.1.wanted)

end Scope

namespace Blueprint

/--
The function for a goal over a tree whose children supply the results.

A function with an early return has an error result, whether or not the goal
asks for one.
-/
def layOut
    (goal : Goal)
    (imports : ImportTable)
    (root : Tree) :
    Except BlueprintError Blueprint := do
  let scope := Scope.ofTree goal imports root
  let zeros ← scope.zeroValues
  let (results, draft) ← scope.layEach zeros [] root.children Draft.empty
  let resultTypes ← scope.resultTypes results
  let addsError := draft.statements.any Statement.isGuard && !goal.wantsError
  return {
    goal
    imports := scope.imports.listed
    parameters := draft.parameters.mergeSort Parameter.precedes
    results
    resultTypes := resultTypes ++ (if addsError then [TypeExpr.error] else [])
    statements := draft.statements
    returned :=
      Scope.returnedOperands goal results
        ++ (if addsError then [{ adjustment := .unchanged, name := "nil" }] else []) }

/-- The function for a tree whose root is a goal. -/
def ofTree
    (root : Tree)
    (imports : ImportTable) :
    Except BlueprintError Blueprint :=
  match root.origin with
  | .recipe (.goal goal) =>
      layOut goal imports root
  | _ =>
      .error (.missingRecipe root.identity)

end Blueprint

end Wiring
