import Wiring.Proofs.DependencyGraph
import Wiring.Proofs.HoistingExact
import Wiring.Proofs.IdentityText

namespace Wiring

/-!
# The identity determines the subtree

Below the root of a resolved tree, nodes of one identity agree in everything but
the type that they were asked for: in their origin, their mark and everything
below them. Their types have one identity, and hence the same import path and the
same name if quotes do not blur the two. Hoisting keeps this below the results,
because what a node is promoted to depends on its origin, its mark and its
children only.
-/

namespace Tree

/-- A row of a list of trees is a row of one of the trees. -/
theorem exists_of_mem_rowsOfEach
    {depth : Nat}
    {trees : List Tree}
    {row : Nat × Tree}
    (member : row ∈ rowsOfEach depth trees) :
    ∃ tree ∈ trees, row ∈ tree.rows depth := by
  induction trees with
  | nil =>
      simp [rowsOfEach] at member
  | cons tree rest inductionHypothesis =>
      rw [rowsOfEach, List.mem_append] at member
      rcases member with inFirst | inRest
      · exact ⟨tree, List.mem_cons_self, inFirst⟩
      · obtain ⟨other, listed, inOther⟩ := inductionHypothesis inRest
        exact ⟨other, List.mem_cons_of_mem tree listed, inOther⟩

/-- A row below the top of a tree is a row of one of its children. -/
theorem exists_child_of_mem_rows
    {tree node : Tree}
    {depth top : Nat}
    (member : (depth, node) ∈ tree.rows top)
    (below : top < depth) :
    ∃ child ∈ tree.children, (depth, node) ∈ child.rows (top + 1) := by
  rw [rows_eq, List.mem_cons, Prod.mk.injEq] at member
  rcases member with ⟨isTop, same⟩ | inChildren
  · exact absurd isTop (Nat.ne_of_gt below)
  · exact exists_of_mem_rowsOfEach inChildren

/-- The rows of a tree are rows of its nodes. -/
theorem mem_nodes_of_mem_rows
    {tree node : Tree}
    {depth top : Nat}
    (member : (depth, node) ∈ tree.rows top) :
    node ∈ tree.nodes := by
  rw [← map_snd_rows tree top]
  exact List.mem_map_of_mem member

/-- Two nodes differ at most in the type that they supply. -/
structure SharesSubtree (node other : Tree) : Prop where
  origin : node.origin = other.origin
  hoist : node.hoist = other.hoist
  children : node.children = other.children

/-- What a node is promoted to depends on its type only in its type. -/
theorem SharesSubtree.promote
    {node other : Tree}
    (shares : node.SharesSubtree other) :
    node.promote.SharesSubtree other.promote where
  origin := by rw [origin_promote, origin_promote, shares.origin]
  hoist := by
    by_cases isCaller : node.origin = .caller
    · rw [promote_of_caller isCaller, promote_of_caller (shares.origin ▸ isCaller),
        shares.hoist]
    · rw [hoist_promote isCaller, hoist_promote (shares.origin ▸ isCaller),
        shares.children]
  children := by
    by_cases isCaller : node.origin = .caller
    · rw [promote_of_caller isCaller, promote_of_caller (shares.origin ▸ isCaller),
        shares.children]
    · rw [children_promote isCaller, children_promote (shares.origin ▸ isCaller),
        shares.children]

/-- Nodes that differ at most in their type are supplied alike. -/
theorem SharesSubtree.isSupplied_eq
    {node other : Tree}
    (shares : node.SharesSubtree other) :
    node.isSupplied = other.isSupplied := by
  rw [isSupplied, isSupplied, isExternal_eq_of_origin_eq shares.origin, shares.hoist]

end Tree

namespace NamedType

/-- Types of one identity differ at most in pointer mark and kind if they have no quotes. -/
theorem eq_of_identity_eq
    {type other : NamedType}
    (unquoted : type.Unquoted)
    (otherUnquoted : other.Unquoted)
    (same : type.identity = other.identity) :
    other = { type with pointer := other.pointer, kind := other.kind } := by
  obtain ⟨samePath, sameName⟩ := (identity_eq_iff unquoted otherUnquoted).mp same
  cases other
  rw [samePath, sameName]

end NamedType

namespace Resolution

section Derived

variable {setting : Setting} {known : Keyed Recipe} {needs : List Need} {root : Tree}

/-- Nothing stands below the nodes of a derived tree that the caller supplies. -/
theorem Resolves.callerLeaves
    {stated : Need}
    {tree : Tree}
    (resolves : Resolves setting known stated tree) :
    tree.CallerLeaves := by
  intro node member external
  obtain ⟨below, nodeResolves⟩ := resolves.of_mem_nodes member
  rcases nodeResolves.origin_cases with
    ⟨isCaller, leaf⟩ | ⟨recipe, isRecipe, unmarked, remembered, each⟩
  · exact leaf
  · rw [Tree.isExternal_iff, isRecipe] at external
    cases external

/-- Every row below the root of a derived tree is derived. -/
theorem exists_resolves_of_mem_rows
    (resolves : ResolvesEach setting known needs root.children)
    {depth : Nat}
    {node : Tree}
    (member : (depth, node) ∈ root.rows 0)
    (below : 1 ≤ depth) :
    ∃ stated, Resolves setting known stated node := by
  obtain ⟨child, listed, inChild⟩ := Tree.exists_child_of_mem_rows member below
  exact
    ResolvesEach.of_mem_nodes resolves
      (List.mem_flatMap.mpr ⟨child, listed, Tree.mem_nodes_of_mem_rows inChild⟩)

/-- Every row below the results of a hoisted tree is what a derived node is promoted to. -/
theorem exists_promote_of_mem_rows_hoisted
    (resolves : ResolvesEach setting known needs root.children)
    {depth : Nat}
    {node : Tree}
    (member : (depth, node) ∈ root.hoisted.rows 0)
    (below : 2 ≤ depth) :
    ∃ stated source,
      Resolves setting known stated source ∧ node = source.promote := by
  obtain ⟨result, listed, inResult⟩ :=
    Tree.exists_child_of_mem_rows member (Nat.lt_of_lt_of_le Nat.zero_lt_two below)
  rw [Tree.children_hoisted] at listed
  obtain ⟨child, childMember, rfl⟩ := List.mem_map.mp listed
  obtain ⟨promoted, promotedMember, inPromoted⟩ :=
    Tree.exists_child_of_mem_rows inResult below
  rw [Tree.children_mapChildren] at promotedMember
  obtain ⟨top, topMember, rfl⟩ := List.mem_map.mp promotedMember
  obtain ⟨stated, stands, childResolves⟩ := resolves.exists_of_mem_right childMember
  obtain ⟨lower, topResolves⟩ := childResolves.of_mem_children topMember
  have inNodes := Tree.mem_nodes_of_mem_rows inPromoted
  rw [topResolves.callerLeaves.nodes_promote] at inNodes
  obtain ⟨source, sourceMember, rfl⟩ := List.mem_map.mp inNodes
  obtain ⟨need, sourceResolves⟩ := topResolves.of_mem_nodes sourceMember
  exact ⟨need, source, sourceResolves, rfl⟩

/-- Derived trees of one identity differ at most in their type. -/
theorem Resolves.sharesSubtree
    {stated otherStated : Need}
    {node other : Tree}
    (resolves : Resolves setting known stated node)
    (otherResolves : Resolves setting known otherStated other)
    (same : node.identity = other.identity) :
    node.SharesSubtree other := by
  obtain ⟨origin, hoist, children⟩ := resolves.shared otherResolves same
  exact ⟨origin, hoist, children⟩

end Derived

/--
Nodes of one identity below the root of a resolved tree have one subtree.

They differ at most in pointer mark and kind, if their import paths and names can
be told apart in the identity. After hoisting, nodes of one identity below the
results are marked alike, so they are all parameters or all constructed.
-/
theorem subtree_determined_by_identity
    {limit : Nat}
    {setting : Setting}
    {goal : Goal}
    {memory : Memory}
    {root : Tree}
    (resolved : (resolveWithin limit setting goal memory).1 = .ok root) :
    (∀ depth node otherDepth other,
        (depth, node) ∈ root.rows 0 →
        (otherDepth, other) ∈ root.rows 0 →
        1 ≤ depth →
        1 ≤ otherDepth →
        node.identity = other.identity →
        node.SharesSubtree other ∧
          (node.type.Unquoted →
            other.type.Unquoted →
            other.type =
              { node.type with pointer := other.type.pointer, kind := other.type.kind })) ∧
      ∀ depth node otherDepth other,
        (depth, node) ∈ root.hoisted.rows 0 →
        (otherDepth, other) ∈ root.hoisted.rows 0 →
        2 ≤ depth →
        2 ≤ otherDepth →
        node.identity = other.identity →
        node.hoist = other.hoist ∧ node.isSupplied = other.isSupplied := by
  obtain ⟨children, rfl, resolves⟩ := resolveWithin_resolves resolved
  have derived :
      ResolvesEach setting (resolveWithin limit setting goal memory).2.known
        goal.results (rootNode goal children).children :=
    resolves
  constructor
  · intro depth node otherDepth other member otherMember below otherBelow same
    obtain ⟨stated, nodeResolves⟩ := exists_resolves_of_mem_rows derived member below
    obtain ⟨otherStated, otherResolves⟩ :=
      exists_resolves_of_mem_rows derived otherMember otherBelow
    exact ⟨nodeResolves.sharesSubtree otherResolves same,
      fun unquoted otherUnquoted =>
        NamedType.eq_of_identity_eq unquoted otherUnquoted same⟩
  · intro depth node otherDepth other member otherMember below otherBelow same
    obtain ⟨stated, source, sourceResolves, rfl⟩ :=
      exists_promote_of_mem_rows_hoisted derived member below
    obtain ⟨otherStated, otherSource, otherResolves, rfl⟩ :=
      exists_promote_of_mem_rows_hoisted derived otherMember otherBelow
    rw [Tree.identity_promote, Tree.identity_promote] at same
    have shares := (sourceResolves.sharesSubtree otherResolves same).promote
    exact ⟨shares.hoist, shares.isSupplied_eq⟩

namespace Pointers

/-- `A` needs `B` and `C`, and `B` needs a pointer to `C`. -/
def table : LookupTable where
  entries :=
    [("\"p\".A", .found (Diamond.make "A" [Diamond.named "B", Diamond.named "C"])),
      ("\"p\".B", .found (Diamond.make "B" [(Diamond.named "C").toPointer])),
      ("\"p\".C", .found (Diamond.make "C" []))]
  nodup_keys := by decide

/-- Answers from the table, without substitutions or supplied values. -/
def setting : Setting where
  lookup := table.lookup
  substitutions := Keyed.empty
  supplied := Keyed.empty

/-- The node of `C`, or of a pointer to it. -/
def shared (pointer hoist : Bool) : Tree :=
  .node { Diamond.named "C" with pointer } (.recipe (Diamond.make "C" [])) hoist []

end Pointers

/-- A value and a pointer to it have one subtree, and both are promoted. -/
theorem subtree_determined_by_identity_pointers :
    ∃ root,
      (resolveWithin 4 Pointers.setting Diamond.goal Memory.empty).1 = .ok root ∧
        (3, Pointers.shared true false) ∈ root.rows 0 ∧
        (2, Pointers.shared false false) ∈ root.rows 0 ∧
        (Pointers.shared true false).SharesSubtree (Pointers.shared false false) ∧
        (Pointers.shared true false).type.Unquoted ∧
        (Pointers.shared false false).type =
          { (Pointers.shared true false).type with pointer := false, kind := .unknown } ∧
        (3, Pointers.shared true true) ∈ root.hoisted.rows 0 ∧
        (2, Pointers.shared false true) ∈ root.hoisted.rows 0 ∧
        (Pointers.shared true true).isSupplied = (Pointers.shared false true).isSupplied := by
  obtain ⟨root, resolved, member, otherMember, promoted, otherPromoted⟩ :
      ∃ root,
        (resolveWithin 4 Pointers.setting Diamond.goal Memory.empty).1 = .ok root ∧
          (3, Pointers.shared true false) ∈ root.rows 0 ∧
          (2, Pointers.shared false false) ∈ root.rows 0 ∧
          (3, Pointers.shared true true) ∈ root.hoisted.rows 0 ∧
          (2, Pointers.shared false true) ∈ root.hoisted.rows 0 :=
    ⟨_, rfl, .tail _ (.tail _ (.tail _ (.head _))),
      .tail _ (.tail _ (.tail _ (.tail _ (.head _)))),
      .tail _ (.tail _ (.tail _ (.head _))),
      .tail _ (.tail _ (.tail _ (.tail _ (.head _))))⟩
  obtain ⟨plain, hoisted⟩ := subtree_determined_by_identity resolved
  obtain ⟨shares, agree⟩ := plain 3 _ 2 _ member otherMember (by decide) (by decide) rfl
  have unquoted : (Pointers.shared true false).type.Unquoted := ⟨by decide, by decide⟩
  have otherUnquoted : (Pointers.shared false false).type.Unquoted := ⟨by decide, by decide⟩
  refine
    ⟨root, resolved, member, otherMember, shares, unquoted, agree unquoted otherUnquoted,
      promoted, otherPromoted, ?_⟩
  · exact (hoisted 3 _ 2 _ promoted otherPromoted (by decide) (by decide) rfl).2

namespace Blurred

/-- The type `B` of the package `p`. -/
def packaged : NamedType :=
  NamedType.ofText "p" "B"

/-- A type without a package whose name is the identity of `B`. -/
def bare : NamedType :=
  NamedType.ofText "" "\"p\".B"

/-- The caller supplies the identity of `B`. -/
def setting : Setting where
  lookup := Pointers.table.lookup
  substitutions := Keyed.empty
  supplied := Supplied.ofPairs [(.named packaged, false)]

/-- The function that provides both types. -/
def goal : Goal where
  importPath := "p"
  name := "Provide"
  package := "p"
  results := [.named packaged, .named bare]

end Blurred

/--
Nodes of one identity may differ in import path and name.

A name that reads like the identity of another type is taken for that type.
-/
theorem type_not_determined_by_identity :
    ¬ ∀ limit setting goal earlier root,
        (resolveWithin limit setting goal (Memory.after setting earlier)).1 = .ok root →
        ∀ depth node otherDepth other,
          (depth, node) ∈ root.rows 0 →
          (otherDepth, other) ∈ root.rows 0 →
          1 ≤ depth →
          1 ≤ otherDepth →
          node.identity = other.identity →
          node.SharesSubtree other ∧
            other.type =
              { node.type with pointer := other.type.pointer, kind := other.type.kind } := by
  intro determined
  have same :=
    (determined 1 Blurred.setting Blurred.goal [] _ rfl
      1 (.node Blurred.packaged .caller false [])
      1 (.node Blurred.bare .caller false [])
      (.tail _ (.head _)) (.tail _ (.tail _ (.head _)))
      (by decide) (by decide) (by decide)).2
  exact absurd (congrArg NamedType.importPath same) (by decide)

end Resolution

end Wiring
