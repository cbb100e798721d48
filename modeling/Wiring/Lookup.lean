import Wiring.Recipe
import Wiring.Text.Quoted

namespace Wiring

/-!
# Lookups

A lookup answers, for a type, which recipe produces its values, or why none does.
Only named types are looked up: a record and the error slot bring their recipe
with them.
-/

/-- Why a type has no recipe. -/
inductive LookupError where
  /-- A single candidate does not fit. -/
  | noMatch
  /-- No candidate fits; the hint says what may be done about it. -/
  | notFound (identity : String) (hint : Option String)
  /-- A candidate fits but cannot be used. -/
  | malformed (identity reason : String)
  /-- The import path leads to no package. -/
  | missingPackage (importPath reason : String)
  deriving Repr, DecidableEq

namespace LookupError

/-- The wording of a failed lookup. -/
def message : LookupError → String
  | .noMatch =>
      "no match"
  | .notFound identity none =>
      "unclear how to provide " ++ identity
  | .notFound identity (some hint) =>
      "unclear how to provide " ++ identity ++ " (" ++ hint ++ ")"
  | .malformed identity reason =>
      identity ++ ": " ++ reason
  | .missingPackage importPath reason =>
      "unable to resolve package " ++ Text.quoted importPath ++ ": " ++ reason

end LookupError

/-- Answers which recipe produces the values of a type. -/
abbrev Lookup := NamedType → Except LookupError Recipe

namespace Need

/-- The type that has to be looked up, if any. -/
def lookedUp? : Need → Option NamedType
  | .named type => if type.isError then none else some type
  | .record _ => none
  | .error => none

/-- The recipe for a need, which only a named type has to be looked up for. -/
def recipe
    (need : Need)
    (lookup : Lookup) :
    Except LookupError Recipe :=
  match need with
  | .named type =>
      if type.isError then
        .ok .noError
      else
        lookup type
  | .record listed =>
      .ok (.literal listed)
  | .error =>
      .ok .noError

/-- The identities that a need speaks of: its own and those of its listed fields. -/
def mentioned : Need → List String
  | .named type => [type.identity]
  | .record listed => listed.type.identity :: listed.fields.map (fun field => field.type.identity)
  | .error => [NamedType.error.identity]

end Need

namespace Recipe

/-- The identities that the needs of a recipe speak of. -/
def mentioned (recipe : Recipe) : List String :=
  recipe.needs.flatMap Need.mentioned

end Recipe

/-- A lookup together with the identities that its recipes speak of. -/
structure Catalog where
  lookup : Lookup
  mentioned : List String

end Wiring
