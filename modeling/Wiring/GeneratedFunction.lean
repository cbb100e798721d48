import Wiring.Blueprint

namespace Wiring

/-!
# Generated functions

A generated function as text, in parts: a caller may splice the parts into a
template or take a complete file.
-/

namespace GeneratedFunction

/-- A value that the function receives, with its type as written. -/
structure Parameter where
  value : Value
  hoisted : Bool
  typeText : String
  deriving Repr, DecidableEq

namespace Parameter

/-- The identity of the parameter's type. -/
def identity (parameter : Parameter) : String :=
  parameter.value.identity

/-- The parameter as it stands in a parameter list. -/
def text (parameter : Parameter) : String :=
  parameter.value.name ++ " " ++ parameter.typeText

end Parameter

end GeneratedFunction

/-- The parts of a generated function. -/
structure GeneratedFunction where
  name : String
  package : String
  importPath : String
  imports : List Import
  parameters : List GeneratedFunction.Parameter
  results : List Value
  resultTypes : List String
  body : String
  deriving Repr, DecidableEq

namespace GeneratedFunction

/-- The first line of every generated file. -/
def header : String :=
  "// Code generated by di. DO NOT EDIT."

/-- The parameter list without its parentheses. -/
def parameterList (generated : GeneratedFunction) : String :=
  Text.commas (generated.parameters.map Parameter.text)

/-- The result types as they stand after the parameter list: one bare, several in parentheses. -/
def resultList (generated : GeneratedFunction) : String :=
  match generated.resultTypes with
  | [] => ""
  | [single] => single
  | many => "(" ++ Text.commas many ++ ")"

/-- The function's first line without the opening brace. -/
def signature (generated : GeneratedFunction) : String :=
  let call := "func " ++ generated.name ++ "(" ++ generated.parameterList ++ ")"
  if generated.resultList = "" then
    call
  else
    call ++ " " ++ generated.resultList

/-- The complete function. -/
def definition (generated : GeneratedFunction) : String :=
  generated.signature ++ " \x7b\n" ++ generated.body ++ "\x7d\n"

/-- A complete file: header, package clause, imports and the function. -/
def file (generated : GeneratedFunction) : String :=
  let block := Import.block generated.imports
  header ++ "\n\n"
    ++ "package " ++ generated.package ++ "\n\n"
    ++ (if block = "" then "" else block ++ "\n")
    ++ generated.definition

/-- The name of the parameter that has the type of a text; a star in the text does not matter. -/
def parameterName?
    (generated : GeneratedFunction)
    (importPath text : String) :
    Option String :=
  let wanted := (NamedType.ofText importPath text).identity
  (generated.parameters.find? (fun parameter => parameter.identity == wanted)).map
    (fun parameter => parameter.value.name)

/-- The parameters that the caller computes once. -/
def hoistedParameters (generated : GeneratedFunction) : List Parameter :=
  generated.parameters.filter Parameter.hoisted

/-- The text of a blueprint. -/
def ofBlueprint (blueprint : Blueprint) : GeneratedFunction where
  name := blueprint.goal.name
  package := blueprint.goal.package
  importPath := blueprint.goal.importPath
  imports := blueprint.imports
  parameters := blueprint.parameters.map fun parameter =>
    { value := parameter.value
      hoisted := parameter.hoisted
      typeText := parameter.type.text }
  results := blueprint.results
  resultTypes := blueprint.resultTypes.map TypeExpr.text
  body := blueprint.body

end GeneratedFunction

end Wiring
