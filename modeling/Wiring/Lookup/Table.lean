import Wiring.Keyed
import Wiring.Lookup

namespace Wiring

/-!
# Lookups by table

A table answers by identity alone, so that a pointer and a value of the same type
have the same answer. An identity without a row is not found.
-/

namespace LookupTable

/-- What a table says about an identity. -/
inductive Row where
  | found (recipe : Recipe)
  | noMatch
  | notFound
  | malformed (reason : String)
  | missingPackage (reason : String)
  deriving Repr, DecidableEq

namespace Row

/-- The answer of a row about a wanted type. -/
def answer
    (row : Row)
    (wanted : NamedType) :
    Except LookupError Recipe :=
  match row with
  | .found recipe => .ok recipe
  | .noMatch => .error .noMatch
  | .notFound => .error (.notFound wanted.identity none)
  | .malformed reason => .error (.malformed wanted.identity reason)
  | .missingPackage reason => .error (.missingPackage wanted.importPath reason)

/-- The identities that a row speaks of. -/
def mentioned : Row → List String
  | .found recipe => recipe.mentioned
  | _ => []

end Row

end LookupTable

/-- Rows filed under identities. -/
abbrev LookupTable := Keyed LookupTable.Row

namespace LookupTable

/-- Answer from the row of the wanted identity. -/
def lookup (table : LookupTable) : Lookup :=
  fun wanted =>
    match table.get? wanted.identity with
    | some row => row.answer wanted
    | none => .error (.notFound wanted.identity none)

/-- The table with every identity that its rows mention. -/
def catalog (table : LookupTable) : Catalog where
  lookup := table.lookup
  mentioned := table.entries.flatMap (fun entry => entry.2.mentioned)

end LookupTable

end Wiring
