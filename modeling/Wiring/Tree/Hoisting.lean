import Wiring.Tree

namespace Wiring.Tree

/-!
# Hoisting

A value that needs nothing fresh from the caller can be computed once, outside
the generated function, and passed in. The pass marks such nodes: a node that the
caller supplies keeps its mark, and any other node is marked exactly when all its
children are. The root and the results below it are constructed by the generated
function in any case, so the pass starts at the children of the results.
-/

mutual

/-- The tree with every node marked that needs marked nodes only. -/
def promote : Tree → Tree
  | .node type .caller hoist children =>
      .node type .caller hoist children
  | .node type origin _ children =>
      let promoted := promoteEach children
      .node type origin (promoted.all Tree.hoist) promoted

/-- The promoted trees of a list. -/
def promoteEach : List Tree → List Tree
  | [] => []
  | tree :: rest => promote tree :: promoteEach rest

end

/-- The tree with a function applied to the list of its children. -/
def mapChildren
    (change : List Tree → List Tree) :
    Tree →
    Tree
  | .node type origin hoist children =>
      .node type origin hoist (change children)

/-- The tree with everything below the results promoted. -/
def hoisted (root : Tree) : Tree :=
  root.mapChildren (List.map (mapChildren promoteEach))

/-- Whether a node is marked although the caller does not supply it on its own account. -/
def isPromoted (tree : Tree) : Bool :=
  tree.hoist && !tree.isExternal

mutual

/-- The number of promoted nodes. -/
def promotedCount : Tree → Nat
  | .node type origin hoist children =>
      (if (Tree.node type origin hoist children).isPromoted then 1 else 0)
        + promotedCountEach children

/-- The number of promoted nodes in a list of trees. -/
def promotedCountEach : List Tree → Nat
  | [] => 0
  | tree :: rest => promotedCount tree + promotedCountEach rest

end

end Wiring.Tree
