import Wiring.Tree.Hoisting

namespace Wiring.Tree

/-!
# Occurrences in trees

Every property of trees below is proved from the children to their parent. The
layout of a function looks into a tree only down to the supplied values; the
nodes that it can come to are the exposed ones. A node is larger than everything
below it, so no two nodes above one another have the same children.
-/

/-- A property holds of every tree if each node inherits it from its children. -/
@[elab_as_elim, induction_eliminator]
theorem induct
    {motive : Tree → Prop}
    (node :
      ∀ type origin hoist children,
        (∀ child ∈ children, motive child) →
        motive (.node type origin hoist children)) :
    ∀ tree, motive tree
  | .node type origin hoist children =>
      node type origin hoist children
        (fun child _ => induct node child)

@[simp] theorem type_node
    (type : NamedType)
    (origin : Origin)
    (hoist : Bool)
    (children : List Tree) :
    (Tree.node type origin hoist children).type = type :=
  rfl

@[simp] theorem origin_node
    (type : NamedType)
    (origin : Origin)
    (hoist : Bool)
    (children : List Tree) :
    (Tree.node type origin hoist children).origin = origin :=
  rfl

@[simp] theorem hoist_node
    (type : NamedType)
    (origin : Origin)
    (hoist : Bool)
    (children : List Tree) :
    (Tree.node type origin hoist children).hoist = hoist :=
  rfl

@[simp] theorem children_node
    (type : NamedType)
    (origin : Origin)
    (hoist : Bool)
    (children : List Tree) :
    (Tree.node type origin hoist children).children = children :=
  rfl

@[simp] theorem identity_node
    (type : NamedType)
    (origin : Origin)
    (hoist : Bool)
    (children : List Tree) :
    (Tree.node type origin hoist children).identity = type.identity :=
  rfl

/-- What the caller supplies is supplied. -/
theorem isSupplied_of_caller
    {tree : Tree}
    (isCaller : tree.origin = .caller) :
    tree.isSupplied = true := by
  simp [isSupplied, isExternal, isCaller]

/-- A node with a recipe is supplied if it is marked. -/
theorem isSupplied_of_recipe
    {tree : Tree}
    {recipe : Recipe}
    (isRecipe : tree.origin = .recipe recipe) :
    tree.isSupplied = tree.hoist := by
  simp [isSupplied, isExternal, isRecipe]

/-- An unmarked node is supplied only if it is a leaf that the caller supplies. -/
theorem origin_of_isSupplied
    {tree : Tree}
    (supplied : tree.isSupplied = true)
    (unmarked : tree.hoist = false) :
    tree.origin = .caller := by
  rw [isSupplied, unmarked, Bool.or_false, isExternal] at supplied
  split at supplied
  · rename_i isCaller
    exact isCaller
  · cases supplied

theorem promoteEach_eq_map
    (trees : List Tree) :
    promoteEach trees = trees.map promote := by
  induction trees with
  | nil =>
      rfl
  | cons tree rest inductionHypothesis =>
      simp [promoteEach, inductionHypothesis]

/-- A node counts itself and what its children count. -/
theorem count_eq
    (tree : Tree) :
    tree.count = 1 + countEach tree.children := by
  cases tree with
  | node type origin hoist children =>
      simp only [count, children_node]

/-- A tree of a list has no more nodes than the list. -/
theorem count_le_countEach_of_mem
    {trees : List Tree}
    {tree : Tree}
    (member : tree ∈ trees) :
    tree.count ≤ countEach trees := by
  induction trees with
  | nil =>
      simp at member
  | cons first rest inductionHypothesis =>
      simp only [countEach]
      rcases List.mem_cons.mp member with isFirst | inRest
      · subst tree
        omega
      · have inRestBound := inductionHypothesis inRest
        omega

/-- A child has fewer nodes than its parent. -/
theorem count_lt_of_mem_children
    {tree child : Tree}
    (member : child ∈ tree.children) :
    child.count < tree.count := by
  have bound := count_le_countEach_of_mem member
  rw [count_eq tree]
  omega

/-- Nodes with the same children have the same size. -/
theorem count_eq_of_children_eq
    {tree other : Tree}
    (same : tree.children = other.children) :
    tree.count = other.count := by
  rw [count_eq tree, count_eq other, same]

/-- The depths at which rows start do not matter to the nodes of a list of trees. -/
theorem map_snd_rowsOfEach
    {trees : List Tree}
    (each :
      ∀ tree ∈ trees, ∀ depth,
        (tree.rows depth).map Prod.snd = tree.nodes)
    (depth : Nat) :
    (rowsOfEach depth trees).map Prod.snd = trees.flatMap nodes := by
  induction trees with
  | nil =>
      rfl
  | cons tree rest inductionHypothesis =>
      rw [rowsOfEach, List.map_append, List.flatMap_cons, each tree (by simp) depth,
        inductionHypothesis
          (fun other member => each other (List.mem_cons_of_mem tree member))]

/-- The depth at which rows start does not matter to the nodes. -/
theorem map_snd_rows
    (tree : Tree)
    (depth : Nat) :
    (tree.rows depth).map Prod.snd = tree.nodes := by
  induction tree generalizing depth with
  | node type origin hoist children inductionHypothesis =>
      unfold nodes
      simp only [rows, List.map_cons, map_snd_rowsOfEach inductionHypothesis]

/-- The nodes of a tree are its root and the nodes of its children. -/
theorem nodes_eq
    (tree : Tree) :
    tree.nodes = tree :: tree.children.flatMap nodes := by
  cases tree with
  | node type origin hoist children =>
      unfold nodes
      simp only [rows, List.map_cons, children_node]
      rw [map_snd_rowsOfEach (fun child _ => map_snd_rows child)]
      rfl

/-- `node` stands in `tree` with no supplied node above it. -/
inductive Exposes : Tree → Tree → Prop where
  | self
      (tree : Tree) :
      Exposes tree tree
  | under
      {tree child node : Tree}
      (constructed : tree.isSupplied = false)
      (member : child ∈ tree.children)
      (exposed : Exposes child node) :
      Exposes tree node

namespace Exposes

/-- What an exposed node exposes is exposed as well. -/
theorem trans
    {tree middle node : Tree}
    (first : Exposes tree middle)
    (later : Exposes middle node) :
    Exposes tree node := by
  induction first with
  | self tree =>
      exact later
  | under constructed member exposed inductionHypothesis =>
      exact .under constructed member (inductionHypothesis later)

/-- An exposed node is one of the nodes. -/
theorem mem_nodes
    {tree node : Tree}
    (exposed : Exposes tree node) :
    node ∈ tree.nodes := by
  induction exposed with
  | self tree =>
      rw [nodes_eq]
      exact List.mem_cons_self
  | @under tree child node constructed member exposed inductionHypothesis =>
      rw [nodes_eq]
      exact List.mem_cons_of_mem _
        (List.mem_flatMap.mpr ⟨child, member, inductionHypothesis⟩)

/-- An exposed node is at most as large as the tree that exposes it. -/
theorem count_le
    {tree node : Tree}
    (exposes : Exposes tree node) :
    node.count ≤ tree.count := by
  induction exposes with
  | self tree =>
      exact Nat.le_refl _
  | under constructed member exposes inductionHypothesis =>
      exact Nat.le_trans inductionHypothesis (Nat.le_of_lt (count_lt_of_mem_children member))

end Exposes

/-- `node` is one of the nodes that laying out a function for `root` can come to. -/
def Exposed
    (root node : Tree) :
    Prop :=
  ∃ child ∈ root.children, Exposes child node

namespace Exposed

/-- The children of an exposed constructed node are exposed. -/
theorem child
    {root node child : Tree}
    (exposed : Exposed root node)
    (constructed : node.isSupplied = false)
    (member : child ∈ node.children) :
    Exposed root child := by
  obtain ⟨top, topMember, reaches⟩ := exposed
  exact ⟨top, topMember,
    reaches.trans (.under constructed member (.self child))⟩

/-- An exposed node is one of the nodes. -/
theorem mem_nodes
    {root node : Tree}
    (exposed : Exposed root node) :
    node ∈ root.nodes := by
  obtain ⟨child, member, exposes⟩ := exposed
  rw [nodes_eq]
  exact List.mem_cons_of_mem _ (List.mem_flatMap.mpr ⟨child, member, exposes.mem_nodes⟩)

end Exposed

end Wiring.Tree
