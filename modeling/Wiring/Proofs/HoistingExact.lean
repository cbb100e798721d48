import Wiring.Proofs.Promotion

namespace Wiring.Tree

/-!
# Hoisting is exact

Hoisting changes marks only, and among these only the marks of nodes below the
results that the caller does not supply. Such a node is marked afterwards exactly
if every leaf below it that the caller supplies is marked. What a node was marked
with before plays no part in this, so hoisting twice is hoisting once.
-/

/-- Nothing stands below the nodes that the caller supplies. -/
def CallerLeaves (tree : Tree) : Prop :=
  ∀ node ∈ tree.nodes, node.isExternal = true → node.children = []

/-- The caller supplies the nodes of this origin. -/
theorem isExternal_iff
    (tree : Tree) :
    tree.isExternal = true ↔ tree.origin = .caller := by
  unfold isExternal
  split <;> simp_all

/-- Whether the caller supplies a node is a matter of its origin. -/
theorem isExternal_eq_of_origin_eq
    {tree other : Tree}
    (same : tree.origin = other.origin) :
    tree.isExternal = other.isExternal := by
  rw [isExternal, same, isExternal]

/-- A node is one of its own nodes. -/
theorem mem_nodes_self
    (tree : Tree) :
    tree ∈ tree.nodes := by
  rw [nodes_eq]
  exact List.mem_cons_self

/-- The nodes of a child are nodes of its parent. -/
theorem mem_nodes_of_mem_children
    {tree child node : Tree}
    (member : child ∈ tree.children)
    (below : node ∈ child.nodes) :
    node ∈ tree.nodes := by
  rw [nodes_eq]
  exact List.mem_cons_of_mem _ (List.mem_flatMap.mpr ⟨child, member, below⟩)

namespace CallerLeaves

variable {tree : Tree}

/-- What holds of the leaves of a tree holds of the leaves of its children. -/
theorem child
    (leaves : tree.CallerLeaves)
    {child : Tree}
    (member : child ∈ tree.children) :
    child.CallerLeaves :=
  fun node below => leaves node (mem_nodes_of_mem_children member below)

/-- Promotion reaches the children of every node, because supplied nodes have none. -/
theorem children_promote
    (leaves : tree.CallerLeaves) :
    tree.promote.children = tree.children.map promote := by
  by_cases isCaller : tree.origin = .caller
  · have leaf : tree.children = [] :=
      leaves tree tree.mem_nodes_self (tree.isExternal_iff.mpr isCaller)
    rw [promote_of_caller isCaller, leaf]
    rfl
  · exact Tree.children_promote isCaller

/-- The nodes of a promoted tree are the promoted nodes of the tree. -/
theorem nodes_promote
    (leaves : tree.CallerLeaves) :
    tree.promote.nodes = tree.nodes.map promote := by
  induction tree with
  | node type origin hoist children inductionHypothesis =>
      rw [nodes_eq, leaves.children_promote, nodes_eq (.node type origin hoist children),
        List.map_cons, List.flatMap_map, List.map_flatMap]
      congr 1
      apply List.flatMap_congr
      intro child member
      exact inductionHypothesis child member (leaves.child member)

/-- A promoted node is marked exactly if every supplied leaf below it is. -/
theorem hoist_promote_iff
    (leaves : tree.CallerLeaves) :
    tree.promote.hoist = true ↔
      ∀ node ∈ tree.promote.nodes, node.isExternal = true → node.hoist = true := by
  induction tree with
  | node type origin hoist children inductionHypothesis =>
      -- Only a node that the caller supplies keeps its mark; all others take it from below.
      by_cases isCaller : (Tree.node type origin hoist children).origin = .caller
      · have leaf : (Tree.node type origin hoist children).children = [] :=
          leaves _ (mem_nodes_self _) ((isExternal_iff _).mpr isCaller)
        rw [promote_of_caller isCaller, nodes_eq, leaf]
        simp [(isExternal_iff _).mpr isCaller]
      · have notExternal :
            (Tree.node type origin hoist children).promote.isExternal = false := by
          rw [← Bool.not_eq_true, isExternal_iff, origin_promote]
          exact isCaller
        rw [hoist_promote isCaller, List.all_eq_true, nodes_eq,
          Tree.children_promote isCaller, children_node]
        constructor
        · intro allMarked node member external
          rcases List.mem_cons.mp member with isTop | isBelow
          · rw [isTop, notExternal] at external
            cases external
          · obtain ⟨promoted, promotedMember, below⟩ := List.mem_flatMap.mp isBelow
            obtain ⟨child, childMember, rfl⟩ := List.mem_map.mp promotedMember
            exact
              (inductionHypothesis child childMember (leaves.child childMember)).mp
                (allMarked _ promotedMember) node below external
        · intro leavesMarked promoted promotedMember
          obtain ⟨child, childMember, rfl⟩ := List.mem_map.mp promotedMember
          refine
            (inductionHypothesis child childMember (leaves.child childMember)).mpr ?_
          intro node below external
          exact leavesMarked node
            (List.mem_cons_of_mem _
              (List.mem_flatMap.mpr ⟨_, promotedMember, below⟩)) external

end CallerLeaves

/-- Promoting a promoted tree changes nothing. -/
theorem promote_promote
    (tree : Tree) :
    tree.promote.promote = tree.promote := by
  induction tree with
  | node type origin hoist children inductionHypothesis =>
      have childrenAgain :
          (children.map promote).map promote = children.map promote := by
        rw [List.map_map]
        exact List.map_congr_left inductionHypothesis
      cases origin with
      | caller =>
          rfl
      | unknown =>
          simp only [promote, promoteEach_eq_map, childrenAgain]
      | recipe recipe =>
          simp only [promote, promoteEach_eq_map, childrenAgain]

/-- Hoisting a hoisted tree changes nothing. -/
theorem hoisted_hoisted
    (root : Tree) :
    root.hoisted.hoisted = root.hoisted := by
  have eachAgain :
      ∀ child : Tree,
        (child.mapChildren promoteEach).mapChildren promoteEach =
          child.mapChildren promoteEach := by
    rintro ⟨type, origin, hoist, children⟩
    simp only [mapChildren, promoteEach_eq_map, List.map_map]
    congr 2
    funext below
    exact promote_promote below
  cases root with
  | node type origin hoist children =>
      simp only [hoisted, mapChildren, List.map_map]
      congr 2
      funext child
      exact eachAgain child

/-- The promoted nodes of some trees are counted tree by tree. -/
theorem promotedCountEach_eq_countP
    {trees : List Tree}
    (each : ∀ tree ∈ trees, tree.promotedCount = tree.nodes.countP isPromoted) :
    promotedCountEach trees = (trees.flatMap nodes).countP isPromoted := by
  induction trees with
  | nil =>
      rfl
  | cons tree rest inductionHypothesis =>
      rw [promotedCountEach, List.flatMap_cons, List.countP_append,
        each tree (by simp),
        inductionHypothesis
          (fun other member => each other (List.mem_cons_of_mem tree member))]

/-- The promoted nodes are counted, each once. -/
theorem promotedCount_eq_countP
    (tree : Tree) :
    tree.promotedCount = tree.nodes.countP isPromoted := by
  induction tree with
  | node type origin hoist children inductionHypothesis =>
      rw [promotedCount, promotedCountEach_eq_countP inductionHypothesis, nodes_eq,
        List.countP_cons, children_node, Nat.add_comm]

section Rows

variable {relation : Nat × Tree → Nat × Tree → Prop}

/-- The rows of a tree are that of its root and those of its children, one deeper. -/
theorem rows_eq
    (tree : Tree)
    (depth : Nat) :
    tree.rows depth = (depth, tree) :: rowsOfEach (depth + 1) tree.children := by
  cases tree
  rfl

/-- The rows of two lists of trees are related if those of each pair of trees are. -/
theorem forall₂_rowsOfEach
    {depth : Nat}
    {trees others : List Tree}
    (each :
      List.Forall₂
        (fun tree other => List.Forall₂ relation (tree.rows depth) (other.rows depth))
        trees others) :
    List.Forall₂ relation (rowsOfEach depth trees) (rowsOfEach depth others) := by
  induction each with
  | nil =>
      exact .nil
  | cons first later inductionHypothesis =>
      exact List.rel_append first inductionHypothesis

/-- The rows of a tree are related to those of a tree with changed children. -/
theorem forall₂_rows_of_map
    {change : Tree → Tree}
    {depth : Nat}
    {tree other : Tree}
    (top : relation (depth, tree) (depth, other))
    (children : other.children = tree.children.map change)
    (each :
      ∀ child ∈ tree.children,
        List.Forall₂ relation (child.rows (depth + 1)) ((change child).rows (depth + 1))) :
    List.Forall₂ relation (tree.rows depth) (other.rows depth) := by
  rw [rows_eq, rows_eq other, children]
  refine .cons top (forall₂_rowsOfEach ?_)
  exact List.forall₂_map_right_iff.mpr (List.forall₂_same.mpr each)

/--
What hoisting makes of one row.

Only the mark of a node below the results may change, and only if the caller does
not supply the node. That mark says whether all supplied leaves below are marked.
-/
structure HoistedRow (before after : Nat × Tree) : Prop where
  depth : after.1 = before.1
  type : after.2.type = before.2.type
  origin : after.2.origin = before.2.origin
  arity : after.2.children.length = before.2.children.length
  kept :
    before.2.isExternal = true ∨ before.1 < 2 →
    after.2.hoist = before.2.hoist
  marked :
    2 ≤ after.1 →
    after.2.isExternal = false →
    (after.2.hoist = true ↔
      ∀ node ∈ after.2.nodes, node.isExternal = true → node.hoist = true)

/-- The rows of a promoted tree below the results. -/
theorem CallerLeaves.rows_promote
    {tree : Tree}
    (leaves : tree.CallerLeaves)
    {depth : Nat}
    (deep : 2 ≤ depth) :
    List.Forall₂ HoistedRow (tree.rows depth) (tree.promote.rows depth) := by
  induction tree generalizing depth with
  | node type origin hoist children inductionHypothesis =>
      refine forall₂_rows_of_map ?top leaves.children_promote ?each
      case top =>
        exact {
          depth := rfl
          type := type_promote _
          origin := origin_promote _
          arity := by rw [leaves.children_promote, List.length_map]
          kept := by
            rintro (external | shallow)
            · rw [promote_of_caller ((isExternal_iff _).mp external)]
            · exact absurd deep (Nat.not_le.mpr shallow)
          marked := fun _ _ => leaves.hoist_promote_iff }
      case each =>
        intro child member
        exact inductionHypothesis child member (leaves.child member)
          (Nat.le_succ_of_le deep)

/-- The row of a node at the top, of which only the children change. -/
theorem hoistedRow_mapChildren
    {depth : Nat}
    (shallow : depth < 2)
    (tree : Tree)
    (change : Tree → Tree) :
    HoistedRow (depth, tree) (depth, tree.mapChildren (List.map change)) where
  depth := rfl
  type := type_mapChildren _ tree
  origin := origin_mapChildren _ tree
  arity := by rw [children_mapChildren, List.length_map]
  kept := fun _ => hoist_mapChildren _ tree
  marked := fun deep => absurd shallow (Nat.not_lt.mpr deep)

/-- The rows of a hoisted tree. -/
theorem CallerLeaves.rows_hoisted
    {root : Tree}
    (leaves : root.CallerLeaves) :
    List.Forall₂ HoistedRow (root.rows 0) (root.hoisted.rows 0) := by
  refine forall₂_rows_of_map ?top (children_hoisted root) ?results
  case top =>
    exact hoistedRow_mapChildren (by decide) root _
  case results =>
    intro result member
    refine
      forall₂_rows_of_map
        (hoistedRow_mapChildren (by decide) result promote)
        (children_mapChildren _ result) ?_
    intro child below
    exact ((leaves.child member).child below).rows_promote (Nat.le_refl 2)

end Rows

/--
Hoisting is exact, keeps everything but the marks it sets, and is idempotent.

The rows list all nodes with their depths, so rows at the same place belong to
the same node. The number of promoted nodes counts each marked node that the
caller does not supply, in the results and the root as well.
-/
theorem hoisted_exact
    {root : Tree}
    (leaves : root.CallerLeaves) :
    List.Forall₂ HoistedRow (root.rows 0) (root.hoisted.rows 0) ∧
      root.hoisted.promotedCount =
        root.hoisted.nodes.countP (fun node => node.hoist && !node.isExternal) ∧
      root.hoisted.hoisted = root.hoisted ∧
      root.hoisted.hoisted.promotedCount = root.hoisted.promotedCount :=
  ⟨leaves.rows_hoisted,
    promotedCount_eq_countP root.hoisted,
    hoisted_hoisted root,
    congrArg promotedCount (hoisted_hoisted root)⟩

namespace Stale

/-- A node of a type of the package `p` with a record literal as its recipe. -/
def made
    (name : String)
    (hoist : Bool)
    (children : List Tree) :
    Tree :=
  .node (.ofText "p" name)
    (.recipe (.literal (Record.ofFields (.ofText "p" name) []))) hoist children

/--
A service needs settings and a session, which needs a request from the caller.

The marks are the wrong way round: the session is marked and the settings are not.
-/
def root : Tree :=
  made "Provide" false
    [made "Service" false
      [made "Settings" false [],
        made "Session" true [.node (.ofText "p" "Request") .caller false []]]]

end Stale

/-- Marks from before do not matter: the settings become marked, and the session unmarked. -/
theorem hoisted_exact_stale :
    Stale.root.CallerLeaves ∧
      List.Forall₂ HoistedRow (Stale.root.rows 0) (Stale.root.hoisted.rows 0) ∧
      (Stale.root.rows 0).map (fun row => (row.1, row.2.hoist)) =
        [(0, false), (1, false), (2, false), (2, true), (3, false)] ∧
      (Stale.root.hoisted.rows 0).map (fun row => (row.1, row.2.hoist)) =
        [(0, false), (1, false), (2, true), (2, false), (3, false)] ∧
      Stale.root.hoisted.promotedCount = 1 ∧
      Stale.root.hoisted.hoisted = Stale.root.hoisted := by
  have leaves : Stale.root.CallerLeaves := by
    unfold CallerLeaves
    decide
  obtain ⟨rows, count, again, countAgain⟩ := hoisted_exact leaves
  exact ⟨leaves, rows, rfl, rfl, rfl, again⟩

end Wiring.Tree
