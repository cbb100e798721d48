import Wiring.Keyed
import Wiring.Lookup
import Wiring.Text.Joined
import Wiring.Tree

namespace Wiring

/-!
# Resolution

A goal is resolved into a tree from its results downwards. At every place the
caller's substitution is applied once, then a type that the caller supplies
becomes a leaf, and for any other need a recipe is looked up and its own needs
are resolved below it. A need that reappears on its own path is a cycle.

Recipes are remembered by identity, also from one goal to the next and after
failures, so every identity is looked up at most once with success.

A lookup may lead to new needs without end, so resolution takes a limit on the
depth of recursion. For a catalog, which mentions finitely many identities, the
limit is computed from them: a path repeats no identity.
-/

/-- Needs that are resolved in place of others, filed under the identity they replace. -/
abbrev Substitutions := Keyed Need

namespace Substitutions

/-- Resolve `replacement` wherever the identity of `replaced` is needed. -/
def add
    (substitutions : Substitutions)
    (replaced replacement : Need) :
    Substitutions :=
  substitutions.insert replaced.identity replacement

/-- Substitutions given as pairs of what is replaced and what replaces it; later pairs count. -/
def ofPairs (pairs : List (Need × Need)) : Substitutions :=
  pairs.foldl (fun substitutions pair => add substitutions pair.1 pair.2) Keyed.empty

/-- The need to resolve in place of a need; a replacement is not replaced again. -/
def apply
    (substitutions : Substitutions)
    (need : Need) :
    Need :=
  (substitutions.get? need.identity).getD need

end Substitutions

/--
Identities whose values the caller supplies, with whether the caller computes the
value only once.
-/
abbrev Supplied := Keyed Bool

namespace Supplied

/-- Supply the values of a need's identity. -/
def add
    (supplied : Supplied)
    (need : Need)
    (hoist : Bool) :
    Supplied :=
  supplied.insert need.identity hoist

/-- Supplied values given as needs with their marks; later ones count. -/
def ofPairs (pairs : List (Need × Bool)) : Supplied :=
  pairs.foldl (fun supplied pair => add supplied pair.1 pair.2) Keyed.empty

end Supplied

/-- Why a goal has no tree. -/
inductive ResolutionError where
  /-- The last identity of the chain needs a value without a recipe. -/
  | unresolved (chain : List String) (cause : LookupError)
  /-- The last identity of the path occurs in it before. -/
  | cycle (path : List String)
  /-- The chain is as long as the depth limit allows. -/
  | tooDeep (chain : List String)
  deriving Repr, DecidableEq

namespace ResolutionError

/-- The wording of a failed resolution. -/
def message : ResolutionError → String
  | .unresolved chain cause => Text.arrows chain ++ ": " ++ cause.message
  | .cycle path => "dependency cycle: " ++ Text.arrows path
  | .tooDeep chain => Text.arrows chain ++ ": dependency chain exceeds the depth limit"

/-- The wordings of the errors behind a failed resolution, outermost first. -/
def causes : ResolutionError → List String
  | .unresolved _ cause => [cause.message]
  | .cycle _ => []
  | .tooDeep _ => []

end ResolutionError

namespace Resolution

/-- What stays the same while goals are resolved. -/
structure Setting where
  lookup : Lookup
  substitutions : Substitutions
  supplied : Supplied

/-- What is remembered from goal to goal: the known recipes, and every type looked up so far. -/
structure Memory where
  known : Keyed Recipe
  searched : List NamedType

/-- A memory before anything is looked up. -/
def Memory.empty : Memory where
  known := Keyed.empty
  searched := []

/-- The recipe for a need, remembered or looked up. -/
def recipeFor
    (setting : Setting)
    (need : Need)
    (memory : Memory) :
    Except LookupError Recipe × Memory :=
  match memory.known.get? need.identity with
  | some recipe =>
      (.ok recipe, memory)
  | none =>
      let searched := memory.searched ++ need.lookedUp?.toList
      match need.recipe setting.lookup with
      | .error cause =>
          (.error cause, { memory with searched })
      | .ok recipe =>
          (.ok recipe, { known := memory.known.insert need.identity recipe, searched })

/-- Resolve one need after the other, up to the first failure. -/
def resolveEach
    (resolve : Need → Memory → Except ResolutionError Tree × Memory) :
    List Need →
    Memory →
    Except ResolutionError (List Tree) × Memory
  | [], memory =>
      (.ok [], memory)
  | need :: rest, memory =>
      match resolve need memory with
      | (.error failure, memory) =>
          (.error failure, memory)
      | (.ok tree, memory) =>
          match resolveEach resolve rest memory with
          | (.error failure, memory) =>
              (.error failure, memory)
          | (.ok trees, memory) =>
              (.ok (tree :: trees), memory)

/-- The shape of the value that a node supplies; an alias has the shape of what it stands for. -/
def suppliedKind
    (recipe : Recipe)
    (children : List Tree) :
    Kind :=
  match recipe, children with
  | .forward _, [] => .unknown
  | .forward _, child :: _ => child.type.kind
  | _, _ => recipe.outputKind

/-- The type of a node: the wanted type, with the shape that is known of it. -/
def nodeType
    (wanted : NamedType)
    (recipe : Recipe)
    (children : List Tree) :
    NamedType :=
  match suppliedKind recipe children with
  | .unknown => wanted
  | kind => wanted.withKind kind

/--
Resolve a need of the last identity on the path.

`root` is the identity of the goal and `path` the identities below it, outermost
first; the number limits the depth.
-/
def resolveNeed
    (setting : Setting)
    (root : String) :
    Nat →
    List String →
    Need →
    Memory →
    Except ResolutionError Tree × Memory
  | 0, path, _, memory =>
      (.error (.tooDeep (root :: path)), memory)
  | limit + 1, path, stated, memory =>
      let need := setting.substitutions.apply stated
      match setting.supplied.get? need.identity with
      | some hoist =>
          (.ok (.node need.wanted .caller hoist []), memory)
      | none =>
          if need.identity ∈ path then
            (.error (.cycle (root :: path ++ [need.identity])), memory)
          else
            match recipeFor setting need memory with
            | (.error cause, memory) =>
                (.error (.unresolved (root :: path) cause), memory)
            | (.ok recipe, memory) =>
                match resolveEach
                    (resolveNeed setting root limit (path ++ [need.identity]))
                    recipe.needs memory with
                | (.error failure, memory) =>
                    (.error failure, memory)
                | (.ok children, memory) =>
                    (.ok (.node
                      (nodeType need.wanted recipe children)
                      (.recipe recipe)
                      false
                      children), memory)

/-- The root of a goal's tree, whose children supply the results. -/
def rootNode
    (goal : Goal)
    (children : List Tree) :
    Tree :=
  .node
    (NamedType.ofText goal.importPath goal.name)
    (.recipe (.goal goal))
    false
    children

/-- Resolve a goal with a limit on the depth. -/
def resolveWithin
    (limit : Nat)
    (setting : Setting)
    (goal : Goal)
    (memory : Memory) :
    Except ResolutionError Tree × Memory :=
  match resolveEach (resolveNeed setting goal.identity limit []) goal.results memory with
  | (.error failure, memory) =>
      (.error failure, memory)
  | (.ok children, memory) =>
      (.ok (rootNode goal children), memory)

/--
The identities that resolution can meet, each once: those of the results, of the
replacements, of the catalog's recipes, and of the remembered recipes.
-/
def reachable
    (catalog : Catalog)
    (substitutions : Substitutions)
    (goal : Goal)
    (memory : Memory) :
    List String :=
  (goal.results.flatMap Need.mentioned
    ++ substitutions.entries.flatMap (fun entry => entry.2.mentioned)
    ++ catalog.mentioned
    ++ memory.known.entries.flatMap (fun entry => entry.2.mentioned)).eraseDups

/-- One level more than there are identities that resolution can meet. -/
def depthLimit
    (catalog : Catalog)
    (substitutions : Substitutions)
    (goal : Goal)
    (memory : Memory) :
    Nat :=
  (reachable catalog substitutions goal memory).length + 1

/-- Resolve a goal from a catalog. -/
def resolve
    (catalog : Catalog)
    (substitutions : Substitutions)
    (supplied : Supplied)
    (goal : Goal)
    (memory : Memory) :
    Except ResolutionError Tree × Memory :=
  resolveWithin
    (depthLimit catalog substitutions goal memory)
    { lookup := catalog.lookup, substitutions, supplied }
    goal
    memory

end Resolution

end Wiring
