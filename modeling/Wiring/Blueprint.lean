import Wiring.Import
import Wiring.Recipe
import Wiring.Text.Joined
import Wiring.Value

namespace Wiring

/-!
# Blueprints

A blueprint is a generated function before it becomes text: its parameters, its
statements in order, and what it returns. Calls and literals record which
identity they build, so that a blueprint can be compared with the tree it was
laid out from.
-/

/-- A package-level name as it is written inside the generated file. -/
structure Symbol where
  importPath : String
  qualifier : Option String
  name : String
  deriving Repr, DecidableEq

namespace Symbol

/-- The name, with its package in front if it has a qualifier. -/
def text (symbol : Symbol) : String :=
  match symbol.qualifier with
  | none => symbol.name
  | some qualifier => qualifier ++ "." ++ symbol.name

end Symbol

/-- A type as it is written in a signature. -/
structure TypeExpr where
  pointer : Bool
  symbol : Symbol
  deriving Repr, DecidableEq

namespace TypeExpr

/-- The written form of a type. -/
def text (type : TypeExpr) : String :=
  (if type.pointer then "*" else "") ++ type.symbol.text

/-- The `error` interface. -/
def error : TypeExpr where
  pointer := false
  symbol := { importPath := "", qualifier := none, name := "error" }

end TypeExpr

/-- What an early return gives back in place of a result. -/
inductive ZeroValue where
  | nil
  | constant (text : String)
  | composite (type : Symbol)
  | pointee (type : Symbol)
  deriving Repr, DecidableEq

namespace ZeroValue

/-- The written form of a zero value. -/
def text : ZeroValue → String
  | .nil => "nil"
  | .constant text => text
  | .composite type => type.text ++ "\x7b\x7d"
  | .pointee type => "*new(" ++ type.text ++ ")"

end ZeroValue

/-- What a call does with one of the results of its function. -/
inductive Binding where
  | output (name : String)
  | failure
  | blank
  deriving Repr, DecidableEq

namespace Binding

/-- The written form of a binding. -/
def text : Binding → String
  | .output name => name
  | .failure => "err"
  | .blank => "_"

end Binding

namespace Constructor

/-- What a call does with the results behind the provided one; a last error is the failure. -/
def trailingBindings : List NamedType → List Binding
  | [] => []
  | [last] => [if last.isError then .failure else .blank]
  | _ :: rest => .blank :: trailingBindings rest

/-- What a call does with each result when the provided one gets a name. -/
def bindings
    (function : Constructor)
    (name : String) :
    List Binding :=
  function.leading.map (fun _ => .blank)
    ++ .output name :: trailingBindings function.trailing

end Constructor

/-- A statement of a generated function. -/
inductive Statement where
  /-- Bind a name to the provided result of a function call. -/
  | call
      (identity : String)
      (function : Constructor)
      (callee : Symbol)
      (name : String)
      (arguments : List Operand)
  /-- Bind a name to a record literal. -/
  | literal
      (identity : String)
      (record : Record)
      (type : Symbol)
      (name : String)
      (fields : List (String × Operand))
  /-- Return early if the call before has failed. -/
  | guard (zeros : List ZeroValue)
  deriving Repr, DecidableEq

namespace Statement

/-- The name that a statement binds for later use. -/
def boundName? : Statement → Option String
  | .call _ _ _ name _ => some name
  | .literal _ _ _ name _ => some name
  | .guard _ => none

/-- The identity that a statement builds. -/
def builtIdentity? : Statement → Option String
  | .call identity _ _ _ _ => some identity
  | .literal identity _ _ _ _ => some identity
  | .guard _ => none

/-- Whether a statement is an early return. -/
def isGuard : Statement → Bool
  | .guard _ => true
  | _ => false

/-- A field of a record literal. -/
def fieldText (field : String × Operand) : String :=
  field.1 ++ ": " ++ field.2.text

/-- The lines of a statement, without their common indentation. -/
def lines : Statement → List String
  | .call _ function callee name arguments =>
      [Text.commas ((function.bindings name).map Binding.text)
        ++ " := " ++ callee.text
        ++ "(" ++ Text.commas (arguments.map Operand.text) ++ ")"]
  | .literal _ record type name fields =>
      [name ++ " := " ++ (if record.type.pointer then "&" else "") ++ type.text
        ++ "\x7b" ++ Text.commas (fields.map fieldText) ++ "\x7d"]
  | .guard zeros =>
      ["if err != nil \x7b",
       "\treturn " ++ Text.commas (zeros.map ZeroValue.text ++ ["err"]),
       "\x7d"]

end Statement

namespace Blueprint

/-- A value that the generated function receives. -/
structure Parameter where
  value : Value
  hoisted : Bool
  type : TypeExpr
  deriving Repr, DecidableEq

namespace Parameter

/-- Hoisted parameters first, then by name. -/
def precedes
    (left right : Parameter) :
    Bool :=
  if left.hoisted = right.hoisted then
    left.value.name ≤ right.value.name
  else
    left.hoisted

end Parameter

end Blueprint

/-- A generated function before it becomes text. -/
structure Blueprint where
  goal : Goal
  imports : List Import
  parameters : List Blueprint.Parameter
  results : List Value
  resultTypes : List TypeExpr
  statements : List Statement
  returned : List Operand
  deriving Repr, DecidableEq

namespace Blueprint

/-- The lines of the function body, without their common indentation. -/
def bodyLines (blueprint : Blueprint) : List String :=
  blueprint.statements.flatMap Statement.lines
    ++ ["return " ++ Text.commas (blueprint.returned.map Operand.text)]

/-- The function body, one line for each line of a statement, indented by a tab. -/
def body (blueprint : Blueprint) : String :=
  String.join (blueprint.bodyLines.map fun line => "\t" ++ line ++ "\n")

end Blueprint

end Wiring
