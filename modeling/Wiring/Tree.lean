import Wiring.Recipe

namespace Wiring

/-!
# Trees of needs

A node supplies a value of a type. Its origin says where the value comes from,
and its children supply, in order, what its recipe needs. The hoist mark says
that the value can be computed once, before the generated function is called.
-/

/-- Where the value of a node comes from. -/
inductive Origin where
  /-- The caller passes the value in. -/
  | caller
  /-- Nothing is known about the value. -/
  | unknown
  /-- The value is produced by a recipe. -/
  | recipe (recipe : Recipe)
  deriving Repr, DecidableEq

/-- A node with the subtrees of what it needs. -/
inductive Tree where
  | node (type : NamedType) (origin : Origin) (hoist : Bool) (children : List Tree)
  deriving Repr

namespace Tree

/-- The type of the value that the root node supplies. -/
def type : Tree → NamedType
  | .node type _ _ _ => type

/-- Where the value of the root node comes from. -/
def origin : Tree → Origin
  | .node _ origin _ _ => origin

/-- Whether the value of the root node can be computed once. -/
def hoist : Tree → Bool
  | .node _ _ hoist _ => hoist

/-- The subtrees of what the root node needs. -/
def children : Tree → List Tree
  | .node _ _ _ children => children

/-- The identity of the supplied type. -/
def identity (tree : Tree) : String :=
  tree.type.identity

/-- Whether the caller passes the value in. -/
def isExternal (tree : Tree) : Bool :=
  match tree.origin with
  | .caller => true
  | _ => false

/-- The recipe for the value of the root node, if there is one. -/
def recipe? (tree : Tree) : Option Recipe :=
  match tree.origin with
  | .recipe recipe => some recipe
  | _ => none

/-- Whether the generated function receives the value as a parameter. -/
def isSupplied (tree : Tree) : Bool :=
  tree.isExternal || tree.hoist

mutual

/-- All nodes with their depths, each before its descendants. -/
def rows
    (depth : Nat) :
    Tree →
    List (Nat × Tree)
  | .node type origin hoist children =>
      (depth, .node type origin hoist children) :: rowsOfEach (depth + 1) children

/-- The rows of a list of trees, one tree after the other. -/
def rowsOfEach
    (depth : Nat) :
    List Tree →
    List (Nat × Tree)
  | [] => []
  | tree :: rest => rows depth tree ++ rowsOfEach depth rest

end

/-- All nodes, each before its descendants. -/
def nodes (tree : Tree) : List Tree :=
  (tree.rows 0).map Prod.snd

mutual

/-- The number of nodes. -/
def count : Tree → Nat
  | .node _ _ _ children => 1 + countEach children

/-- The number of nodes in a list of trees. -/
def countEach : List Tree → Nat
  | [] => 0
  | tree :: rest => count tree + countEach rest

end

end Tree

end Wiring
