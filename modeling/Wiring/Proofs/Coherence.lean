import Wiring.Proofs.Remembered

namespace Wiring

/-!
# Coherent trees

The layout of a function constructs every identity once. That is right for trees
in which two constructed nodes of one identity have the same recipe and the same
children. Derived trees are of this kind, before and after hoisting: hoisting
marks nodes of one identity alike below the results, and the results themselves
keep their origin and have the same hoisted children as any other node of their
identity.
-/

/-- Two constructed nodes of one identity are constructed alike, each from what its recipe needs. -/
structure Tree.Coherent (root : Tree) : Prop where
  recipe :
    ∀ {node},
      root.Exposed node →
      node.isSupplied = false →
      ∃ recipe,
        node.origin = .recipe recipe ∧
          recipe.needs.length = node.children.length
  shared :
    ∀ {node other},
      root.Exposed node →
      root.Exposed other →
      node.isSupplied = false →
      other.isSupplied = false →
      node.identity = other.identity →
      node.origin = other.origin ∧ node.children = other.children

namespace Tree

/-- No constructed node below a constructed node of a coherent tree has its identity. -/
theorem Coherent.identity_ne_of_exposes
    {root tree child node : Tree}
    (coherent : root.Coherent)
    (exposed : root.Exposed tree)
    (constructed : tree.isSupplied = false)
    (member : child ∈ tree.children)
    (exposes : child.Exposes node)
    (nodeConstructed : node.isSupplied = false) :
    node.identity ≠ tree.identity := by
  intro same
  obtain ⟨top, isTop, reaches⟩ := exposed.child constructed member
  have nodeExposed : root.Exposed node := ⟨top, isTop, reaches.trans exposes⟩
  -- Both would have the same children, and so the same size.
  have sameSize : node.count = tree.count :=
    count_eq_of_children_eq
      (coherent.shared nodeExposed exposed nodeConstructed constructed same).2
  have smaller := count_lt_of_mem_children member
  have bound := exposes.count_le
  omega

@[simp] theorem type_promote
    (tree : Tree) :
    tree.promote.type = tree.type := by
  cases tree with
  | node type origin hoist children =>
      cases origin <;> rfl

@[simp] theorem origin_promote
    (tree : Tree) :
    tree.promote.origin = tree.origin := by
  cases tree with
  | node type origin hoist children =>
      cases origin <;> rfl

@[simp] theorem identity_promote
    (tree : Tree) :
    tree.promote.identity = tree.identity := by
  rw [identity, type_promote, identity]

/-- The children of a node that the caller does not supply are promoted with it. -/
theorem children_promote
    {tree : Tree}
    (constructed : tree.origin ≠ .caller) :
    tree.promote.children = tree.children.map promote := by
  cases tree with
  | node type origin hoist children =>
      cases origin with
      | caller =>
          exact absurd rfl constructed
      | unknown =>
          simp [promote, promoteEach_eq_map]
      | recipe recipe =>
          simp [promote, promoteEach_eq_map]

/-- A node is promoted if its children are. -/
theorem hoist_promote
    {tree : Tree}
    (constructed : tree.origin ≠ .caller) :
    tree.promote.hoist = (tree.children.map promote).all hoist := by
  cases tree with
  | node type origin mark children =>
      cases origin with
      | caller =>
          exact absurd rfl constructed
      | unknown =>
          simp [promote, promoteEach_eq_map]
      | recipe recipe =>
          simp [promote, promoteEach_eq_map]

@[simp] theorem type_mapChildren
    (change : List Tree → List Tree)
    (tree : Tree) :
    (tree.mapChildren change).type = tree.type := by
  cases tree
  rfl

@[simp] theorem origin_mapChildren
    (change : List Tree → List Tree)
    (tree : Tree) :
    (tree.mapChildren change).origin = tree.origin := by
  cases tree
  rfl

@[simp] theorem hoist_mapChildren
    (change : List Tree → List Tree)
    (tree : Tree) :
    (tree.mapChildren change).hoist = tree.hoist := by
  cases tree
  rfl

@[simp] theorem children_mapChildren
    (change : List Tree → List Tree)
    (tree : Tree) :
    (tree.mapChildren change).children = change tree.children := by
  cases tree
  rfl

@[simp] theorem identity_mapChildren
    (change : List Tree → List Tree)
    (tree : Tree) :
    (tree.mapChildren change).identity = tree.identity := by
  rw [identity, type_mapChildren, identity]

@[simp] theorem isSupplied_mapChildren
    (change : List Tree → List Tree)
    (tree : Tree) :
    (tree.mapChildren change).isSupplied = tree.isSupplied := by
  simp [isSupplied, isExternal]

/-- The children of a hoisted root are its children with everything below them promoted. -/
theorem children_hoisted
    (root : Tree) :
    root.hoisted.children =
      root.children.map (mapChildren (List.map promote)) := by
  rw [hoisted, children_mapChildren]
  congr 2
  funext trees
  exact promoteEach_eq_map trees

end Tree

namespace Resolution

variable {setting : Setting} {known : Keyed Recipe}

namespace Resolves

/-- A derived node is either a leaf that the caller supplies or constructed from its recipe. -/
theorem origin_cases
    {stated : Need}
    {tree : Tree}
    (resolves : Resolves setting known stated tree) :
    (tree.origin = .caller ∧ tree.children = []) ∨
      (∃ recipe,
        tree.origin = .recipe recipe ∧
          tree.hoist = false ∧
          known.get? tree.identity = some recipe ∧
          ResolvesEach setting known recipe.needs tree.children) := by
  cases origin : tree.origin with
  | caller =>
      cases resolves with
      | supplied given =>
          exact .inl ⟨rfl, rfl⟩
      | constructed free remembered arity each =>
          simp at origin
  | unknown =>
      cases resolves <;> simp at origin
  | recipe recipe =>
      obtain ⟨remembered, each⟩ := resolves.recipe_known origin
      refine .inr ⟨recipe, rfl, ?_, remembered, each⟩
      cases resolves with
      | supplied given =>
          simp at origin
      | constructed free remembered arity each =>
          rfl

/-- Every child of a derived node is derived. -/
theorem of_mem_children
    {stated : Need}
    {tree child : Tree}
    (resolves : Resolves setting known stated tree)
    (member : child ∈ tree.children) :
    ∃ below, Resolves setting known below child := by
  rcases resolves.origin_cases with
    ⟨origin, leaf⟩ | ⟨recipe, origin, unmarked, remembered, each⟩
  · rw [leaf] at member
    simp at member
  · obtain ⟨below, listed, childResolves⟩ := each.exists_of_mem_right member
    exact ⟨below, childResolves⟩

/-- Every node of a derived tree is derived. -/
theorem of_mem_nodes
    {stated : Need}
    {tree node : Tree}
    (resolves : Resolves setting known stated tree)
    (member : node ∈ tree.nodes) :
    ∃ below, Resolves setting known below node := by
  induction tree generalizing stated with
  | node type origin hoist children inductionHypothesis =>
      rw [Tree.nodes_eq] at member
      rcases List.mem_cons.mp member with isRoot | isBelow
      · exact ⟨stated, isRoot ▸ resolves⟩
      · obtain ⟨child, childMember, nodeMember⟩ := List.mem_flatMap.mp isBelow
        obtain ⟨below, childResolves⟩ := resolves.of_mem_children childMember
        exact inductionHypothesis child childMember childResolves nodeMember

/-- Promotion reaches the children of every derived node, because supplied ones have none. -/
theorem children_promote
    {stated : Need}
    {tree : Tree}
    (resolves : Resolves setting known stated tree) :
    tree.promote.children = tree.children.map Tree.promote := by
  rcases resolves.origin_cases with
    ⟨origin, leaf⟩ | ⟨recipe, origin, unmarked, remembered, each⟩
  · cases tree with
    | node type origin' hoist children =>
        cases origin
        cases leaf
        rfl
  · exact Tree.children_promote (by simp [origin])

/-- Every node that a derived tree exposes is derived. -/
theorem of_exposes
    {tree node : Tree}
    (exposed : tree.Exposes node)
    {stated : Need}
    (resolves : Resolves setting known stated tree) :
    ∃ below, Resolves setting known below node := by
  induction exposed generalizing stated with
  | self tree =>
      exact ⟨stated, resolves⟩
  | under constructed member exposed inductionHypothesis =>
      obtain ⟨below, childResolves⟩ := resolves.of_mem_children member
      exact inductionHypothesis childResolves

/-- Every node that a promoted tree exposes is a promoted node of the tree. -/
theorem of_exposes_promote
    {promoted node : Tree}
    (exposed : promoted.Exposes node)
    {stated : Need}
    {tree : Tree}
    (isPromoted : promoted = tree.promote)
    (resolves : Resolves setting known stated tree) :
    ∃ below source,
      node = source.promote ∧
        tree.Exposes source ∧
        Resolves setting known below source := by
  induction exposed generalizing stated tree with
  | self promoted =>
      exact ⟨stated, tree, isPromoted, .self tree, resolves⟩
  | under constructed member exposed inductionHypothesis =>
      subst isPromoted
      rw [resolves.children_promote] at member
      obtain ⟨child, childMember, rfl⟩ := List.mem_map.mp member
      obtain ⟨below, childResolves⟩ := resolves.of_mem_children childMember
      obtain ⟨lower, source, same, exposes, sourceResolves⟩ :=
        inductionHypothesis rfl childResolves
      have unsupplied : tree.isSupplied = false := by
        rcases resolves.origin_cases with
          ⟨origin, leaf⟩ | ⟨recipe, origin, unmarked, remembered, each⟩
        · rw [leaf] at childMember
          simp at childMember
        · rw [Tree.isSupplied_of_recipe origin, unmarked]
      exact ⟨lower, source, same, .under unsupplied childMember exposes, sourceResolves⟩

end Resolves

/-- Every node of derived trees is derived. -/
theorem ResolvesEach.of_mem_nodes
    {needs : List Need}
    {trees : List Tree}
    (resolves : ResolvesEach setting known needs trees)
    {node : Tree}
    (member : node ∈ trees.flatMap Tree.nodes) :
    ∃ stated, Resolves setting known stated node := by
  obtain ⟨tree, listed, inTree⟩ := List.mem_flatMap.mp member
  obtain ⟨stated, _, treeResolves⟩ := resolves.exists_of_mem_right listed
  exact treeResolves.of_mem_nodes inTree

/-- Every exposed node of a derived root is derived. -/
theorem exists_resolves_of_exposed
    {needs : List Need}
    {root node : Tree}
    (resolves : ResolvesEach setting known needs root.children)
    (exposed : root.Exposed node) :
    ∃ stated, Resolves setting known stated node := by
  obtain ⟨child, member, exposes⟩ := exposed
  obtain ⟨stated, listed, childResolves⟩ := resolves.exists_of_mem_right member
  exact childResolves.of_exposes exposes

/-- A node of a hoisted tree keeps type and origin, and its children are promoted. -/
theorem hoisted_fields
    {stated : Need}
    {source node : Tree}
    (resolves : Resolves setting known stated source)
    (shape :
      node = source.mapChildren (List.map Tree.promote) ∨ node = source.promote) :
    node.identity = source.identity ∧
      node.origin = source.origin ∧
      node.children = source.children.map Tree.promote := by
  rcases shape with rfl | rfl
  · simp
  · exact ⟨by simp, by simp, resolves.children_promote⟩

/-- `node` is what hoisting makes of an exposed node of a derived root. -/
structure HoistedFrom
    (setting : Setting)
    (known : Keyed Recipe)
    (root source node : Tree) : Prop where
  resolves : ∃ stated, Resolves setting known stated source
  exposed : root.Exposed source
  shape :
    (source ∈ root.children ∧ node = source.mapChildren (List.map Tree.promote)) ∨
      node = source.promote
  identity : node.identity = source.identity
  origin : node.origin = source.origin
  children : node.children = source.children.map Tree.promote

/-- An exposed node of a hoisted root is a result with promoted children or a promoted node. -/
theorem exists_hoistedFrom
    {needs : List Need}
    {root node : Tree}
    (resolves : ResolvesEach setting known needs root.children)
    (exposed : root.hoisted.Exposed node) :
    ∃ source, HoistedFrom setting known root source node := by
  have shaped :
      ∃ stated source,
        Resolves setting known stated source ∧
          root.Exposed source ∧
          ((source ∈ root.children ∧
              node = source.mapChildren (List.map Tree.promote)) ∨
            node = source.promote) := by
    obtain ⟨top, member, exposes⟩ := exposed
    rw [Tree.children_hoisted] at member
    obtain ⟨child, childMember, rfl⟩ := List.mem_map.mp member
    obtain ⟨stated, listed, childResolves⟩ := resolves.exists_of_mem_right childMember
    cases exposes with
    | self =>
        exact ⟨stated, child, childResolves,
          ⟨child, childMember, .self child⟩, .inl ⟨childMember, rfl⟩⟩
    | under constructed belowMember exposesBelow =>
        rw [Tree.children_mapChildren] at belowMember
        obtain ⟨below, originalMember, rfl⟩ := List.mem_map.mp belowMember
        obtain ⟨need, belowResolves⟩ := childResolves.of_mem_children originalMember
        obtain ⟨lower, source, same, sourceExposed, sourceResolves⟩ :=
          belowResolves.of_exposes_promote exposesBelow rfl
        have unsupplied : child.isSupplied = false := by
          simpa using constructed
        exact ⟨lower, source, sourceResolves,
          ⟨child, childMember, .under unsupplied originalMember sourceExposed⟩,
          .inr same⟩
  obtain ⟨stated, source, sourceResolves, sourceExposed, shape⟩ := shaped
  obtain ⟨identity, origin, children⟩ :=
    hoisted_fields sourceResolves (shape.imp_left And.right)
  exact ⟨source, ⟨stated, sourceResolves⟩, sourceExposed, shape, identity, origin, children⟩

/-- A derived tree is coherent. -/
theorem coherent_of_resolves
    {needs : List Need}
    {root : Tree}
    (resolves : ResolvesEach setting known needs root.children) :
    root.Coherent where
  recipe := by
    intro node exposed constructed
    obtain ⟨stated, nodeResolves⟩ := exists_resolves_of_exposed resolves exposed
    rcases nodeResolves.origin_cases with
      ⟨origin, leaf⟩ | ⟨recipe, origin, unmarked, remembered, each⟩
    · rw [Tree.isSupplied_of_caller origin] at constructed
      cases constructed
    · exact ⟨recipe, origin, each.length_eq⟩
  shared := by
    intro node other exposed otherExposed constructed otherConstructed same
    obtain ⟨stated, nodeResolves⟩ := exists_resolves_of_exposed resolves exposed
    obtain ⟨otherStated, otherResolves⟩ :=
      exists_resolves_of_exposed resolves otherExposed
    have shared := nodeResolves.shared otherResolves same
    exact ⟨shared.1, shared.2.2⟩

/-- A derived tree is coherent after hoisting. -/
theorem coherent_hoisted_of_resolves
    {needs : List Need}
    {root : Tree}
    (resolves : ResolvesEach setting known needs root.children) :
    root.hoisted.Coherent where
  recipe := by
    intro node exposed constructed
    obtain ⟨source, hoistedFrom⟩ := exists_hoistedFrom resolves exposed
    obtain ⟨stated, sourceResolves⟩ := hoistedFrom.resolves
    rcases sourceResolves.origin_cases with
      ⟨isCaller, leaf⟩ | ⟨recipe, isRecipe, unmarked, remembered, each⟩
    · rw [Tree.isSupplied_of_caller (hoistedFrom.origin.trans isCaller)] at constructed
      cases constructed
    · refine ⟨recipe, hoistedFrom.origin.trans isRecipe, ?_⟩
      rw [hoistedFrom.children, List.length_map]
      exact each.length_eq
  shared := by
    intro node other exposed otherExposed constructed otherConstructed same
    obtain ⟨source, hoistedFrom⟩ := exists_hoistedFrom resolves exposed
    obtain ⟨stated, sourceResolves⟩ := hoistedFrom.resolves
    obtain ⟨otherSource, otherFrom⟩ := exists_hoistedFrom resolves otherExposed
    obtain ⟨otherStated, otherResolves⟩ := otherFrom.resolves
    have sameSource : source.identity = otherSource.identity := by
      rw [← hoistedFrom.identity, ← otherFrom.identity, same]
    obtain ⟨sameOrigin, sameMark, sameChildren⟩ :=
      sourceResolves.shared otherResolves sameSource
    exact ⟨by rw [hoistedFrom.origin, otherFrom.origin, sameOrigin],
      by rw [hoistedFrom.children, otherFrom.children, sameChildren]⟩

end Resolution

end Wiring
