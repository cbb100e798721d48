import Wiring.Proofs.Term

namespace Wiring

/-!
# Promotion and terms

A node below the results is promoted exactly if no unmarked leaf stands below it.
Promotion therefore exposes every unmarked leaf that was exposed before, and what
it hides is made of marked leaves only. Putting the terms of promoted nodes in
place of their parameters gives back the terms of the tree before promotion.
-/

namespace Tree

/-- A leaf that the caller supplies is not changed by promotion. -/
theorem promote_of_caller
    {tree : Tree}
    (isCaller : tree.origin = .caller) :
    tree.promote = tree := by
  cases tree with
  | node type origin hoist children =>
      rw [origin_node] at isCaller
      subst isCaller
      rfl

/-- A leaf has no children to change. -/
theorem mapChildren_of_leaf
    {tree : Tree}
    (leaf : tree.children = [])
    (change : Tree → Tree) :
    tree.mapChildren (List.map change) = tree := by
  cases tree with
  | node type origin hoist children =>
      rw [children_node] at leaf
      subst leaf
      rfl

/-- Replacing parameters in the children of a constructed node replaces them in the node. -/
theorem replace_term_of_children
    {tree node : Tree}
    {recipe : Recipe}
    (isRecipe : tree.origin = .recipe recipe)
    (nodeIsRecipe : node.origin = .recipe recipe)
    (constructed : tree.isSupplied = false)
    (nodeConstructed : node.isSupplied = false)
    {change : Tree → Tree}
    (children : node.children = tree.children.map change)
    {replacement : String → Term}
    (each :
      ∀ child ∈ tree.children,
        (change child).term.replace replacement = child.term) :
    node.term.replace replacement = tree.term := by
  rw [term_of_recipe nodeConstructed nodeIsRecipe, term_of_recipe constructed isRecipe,
    Recipe.replace_construct, children, List.map_map, List.map_map]
  congr 1
  exact List.map_congr_left each

/-- The term of a tree uses the parameter of every supplied node that the tree exposes. -/
theorem Exposes.term_uses
    {root : Tree}
    (coherent : root.Coherent)
    (notGoal :
      ∀ node,
        root.Exposed node →
        ∀ goal, node.origin ≠ .recipe (.goal goal))
    {tree node : Tree}
    (exposes : tree.Exposes node)
    (exposed : root.Exposed tree)
    (supplied : node.isSupplied = true) :
    tree.term.Uses node.identity := by
  induction exposes with
  | self tree =>
      rw [term_of_isSupplied supplied]
      exact .parameter
  | @under tree child node constructed member exposes inductionHypothesis =>
      obtain ⟨recipe, isRecipe, arity⟩ := coherent.recipe exposed constructed
      rw [term_of_recipe constructed isRecipe]
      apply Recipe.construct_uses
      · intro goal isGoal
        exact notGoal tree exposed goal (isGoal ▸ isRecipe)
      · rw [arity, List.length_map]
      · exact List.mem_map_of_mem member
      · exact inductionHypothesis (exposed.child constructed member) supplied

end Tree

namespace Resolution

variable {setting : Setting} {known : Keyed Recipe}

namespace Resolves

/-- Below a node that is not promoted stands an exposed unmarked leaf. -/
theorem exists_unmarked_of_promote
    {stated : Need}
    {tree : Tree}
    (resolves : Resolves setting known stated tree)
    (unmarked : tree.promote.hoist = false) :
    ∃ node,
      tree.promote.Exposes node ∧
        node.origin = .caller ∧
        node.hoist = false := by
  induction tree generalizing stated with
  | node type origin hoist children inductionHypothesis =>
      rcases resolves.origin_cases with
        ⟨isCaller, leaf⟩ | ⟨recipe, isRecipe, plain, remembered, each⟩
      · exact ⟨_, .self _, by rw [Tree.origin_promote, isCaller], unmarked⟩
      · have constructed : (Tree.node type origin hoist children).origin ≠ .caller := by
          simp [isRecipe]
        obtain ⟨child, member, childUnmarked⟩ :
            ∃ child ∈ children, child.promote.hoist = false := by
          rw [Tree.hoist_promote constructed, List.all_eq_false] at unmarked
          simpa using unmarked
        obtain ⟨below, listed, childResolves⟩ := each.exists_of_mem_right member
        obtain ⟨node, exposes, isLeaf, leafUnmarked⟩ :=
          inductionHypothesis child member childResolves childUnmarked
        have unsupplied : (Tree.node type origin hoist children).promote.isSupplied = false := by
          rw [Tree.isSupplied_of_recipe ((Tree.origin_promote _).trans isRecipe), unmarked]
        have promotedMember :
            child.promote ∈ (Tree.node type origin hoist children).promote.children := by
          rw [Tree.children_promote constructed]
          exact List.mem_map_of_mem member
        exact ⟨node, .under unsupplied promotedMember exposes, isLeaf, leafUnmarked⟩

/-- An unmarked leaf stays exposed, and no node above it is promoted. -/
theorem exposes_promote_of_unmarked
    {tree node : Tree}
    (exposes : tree.Exposes node)
    (isCaller : node.origin = .caller)
    (unmarked : node.hoist = false)
    {stated : Need}
    (resolves : Resolves setting known stated tree) :
    tree.promote.Exposes node ∧ tree.promote.hoist = false := by
  induction exposes generalizing stated with
  | self tree =>
      rw [Tree.promote_of_caller isCaller]
      exact ⟨.self tree, unmarked⟩
  | @under tree child node unsupplied member exposes inductionHypothesis =>
      obtain ⟨below, childResolves⟩ := resolves.of_mem_children member
      obtain ⟨childExposes, childUnmarked⟩ :=
        inductionHypothesis isCaller unmarked childResolves
      have promotedMember : child.promote ∈ tree.promote.children := by
        rw [resolves.children_promote]
        exact List.mem_map_of_mem member
      rcases resolves.origin_cases with
        ⟨isLeaf, leaf⟩ | ⟨recipe, isRecipe, plain, remembered, each⟩
      · rw [leaf] at member
        simp at member
      · have treeUnmarked : tree.promote.hoist = false := by
          rw [Tree.hoist_promote (by simp [isRecipe]), List.all_eq_false]
          exact ⟨child.promote, List.mem_map_of_mem member, by simp [childUnmarked]⟩
        have stillUnsupplied : tree.promote.isSupplied = false := by
          rw [Tree.isSupplied_of_recipe ((Tree.origin_promote tree).trans isRecipe),
            treeUnmarked]
        exact ⟨.under stillUnsupplied promotedMember childExposes, treeUnmarked⟩

end Resolves

section Hoisted

variable {needs : List Need} {root : Tree}

/-- Every unmarked leaf that a root exposes it exposes after hoisting as well. -/
theorem exposed_hoisted_of_unmarked
    (resolves : ResolvesEach setting known needs root.children)
    {node : Tree}
    (exposed : root.Exposed node)
    (isCaller : node.origin = .caller)
    (unmarked : node.hoist = false) :
    root.hoisted.Exposed node := by
  obtain ⟨child, member, exposes⟩ := exposed
  obtain ⟨stated, listed, childResolves⟩ := resolves.exists_of_mem_right member
  have hoistedMember :
      child.mapChildren (List.map Tree.promote) ∈ root.hoisted.children := by
    rw [Tree.children_hoisted]
    exact List.mem_map_of_mem member
  cases exposes with
  | self =>
      have leaf : node.children = [] := by
        rcases childResolves.origin_cases with
          ⟨isLeaf, leaf⟩ | ⟨recipe, isRecipe, plain, remembered, each⟩
        · exact leaf
        · rw [isCaller] at isRecipe
          cases isRecipe
      rw [Tree.mapChildren_of_leaf leaf] at hoistedMember
      exact ⟨node, hoistedMember, .self node⟩
  | @under child below node unsupplied belowMember exposesBelow =>
      obtain ⟨lower, belowResolves⟩ := childResolves.of_mem_children belowMember
      have stillUnsupplied :
          (child.mapChildren (List.map Tree.promote)).isSupplied = false := by
        rw [Tree.isSupplied_mapChildren, unsupplied]
      have promotedMember :
          below.promote ∈ (child.mapChildren (List.map Tree.promote)).children := by
        rw [Tree.children_mapChildren]
        exact List.mem_map_of_mem belowMember
      exact ⟨_, hoistedMember,
        .under stillUnsupplied promotedMember
          (belowResolves.exposes_promote_of_unmarked exposesBelow isCaller unmarked).1⟩

/-- A supplied node of a hoisted tree keeps the mark of a leaf, and is marked if it is none. -/
theorem HoistedFrom.hoist_cases
    {source node : Tree}
    (hoistedFrom : HoistedFrom setting known root source node)
    (supplied : node.isSupplied = true) :
    (source.origin = .caller ∧ node.hoist = source.hoist) ∨
      (source.origin ≠ .caller ∧ node.hoist = true) := by
  obtain ⟨stated, resolves⟩ := hoistedFrom.resolves
  rcases resolves.origin_cases with
    ⟨isCaller, leaf⟩ | ⟨recipe, isRecipe, plain, remembered, each⟩
  · refine .inl ⟨isCaller, ?_⟩
    rcases hoistedFrom.shape with ⟨member, rfl⟩ | rfl
    · exact Tree.hoist_mapChildren _ source
    · rw [Tree.promote_of_caller isCaller]
  · refine .inr ⟨by simp [isRecipe], ?_⟩
    have nodeIsRecipe := hoistedFrom.origin.trans isRecipe
    rw [← Tree.isSupplied_of_recipe nodeIsRecipe]
    exact supplied

/-- Supplied nodes of one identity are marked alike, also after hoisting. -/
theorem hoist_eq_of_exposed_hoisted
    (resolves : ResolvesEach setting known needs root.children)
    {node other : Tree}
    (exposed : root.hoisted.Exposed node)
    (otherExposed : root.hoisted.Exposed other)
    (supplied : node.isSupplied = true)
    (otherSupplied : other.isSupplied = true)
    (same : node.identity = other.identity) :
    node.hoist = other.hoist := by
  obtain ⟨source, hoistedFrom⟩ := exists_hoistedFrom resolves exposed
  obtain ⟨stated, sourceResolves⟩ := hoistedFrom.resolves
  obtain ⟨otherSource, otherFrom⟩ := exists_hoistedFrom resolves otherExposed
  obtain ⟨otherStated, otherResolves⟩ := otherFrom.resolves
  have sameSource : source.identity = otherSource.identity := by
    rw [← hoistedFrom.identity, ← otherFrom.identity, same]
  obtain ⟨sameOrigin, sameMark, sameChildren⟩ :=
    sourceResolves.shared otherResolves sameSource
  rcases hoistedFrom.hoist_cases supplied with
    ⟨isCaller, mark⟩ | ⟨constructed, marked⟩ <;>
  rcases otherFrom.hoist_cases otherSupplied with
    ⟨otherIsCaller, otherMark⟩ | ⟨otherConstructed, otherMarked⟩
  · rw [mark, otherMark, sameMark]
  · exact absurd (sameOrigin ▸ isCaller) otherConstructed
  · exact absurd (sameOrigin ▸ otherIsCaller) constructed
  · rw [marked, otherMarked]

/-- Putting the terms of promoted nodes in place of their parameters undoes promotion. -/
theorem replace_term_promote
    {replacement : String → Term}
    (kept :
      ∀ node,
        root.hoisted.Exposed node →
        node.origin = .caller →
        replacement node.identity = .parameter node.identity)
    (restored :
      ∀ stated source,
        Resolves setting known stated source →
        root.hoisted.Exposed source.promote →
        source.origin ≠ .caller →
        source.promote.hoist = true →
        replacement source.identity = source.term)
    {stated : Need}
    {tree : Tree}
    (resolves : Resolves setting known stated tree)
    (exposed : root.hoisted.Exposed tree.promote) :
    tree.promote.term.replace replacement = tree.term := by
  induction tree generalizing stated with
  | node type origin hoist children inductionHypothesis =>
      rcases resolves.origin_cases with
        ⟨isCaller, leaf⟩ | ⟨recipe, isRecipe, plain, remembered, each⟩
      · rw [Tree.promote_of_caller isCaller] at exposed ⊢
        rw [Tree.term_of_isSupplied (Tree.isSupplied_of_caller isCaller), Term.replace]
        exact kept _ exposed isCaller
      · have constructed : (Tree.node type origin hoist children).origin ≠ .caller := by
          simp [isRecipe]
        have promotedRecipe := (Tree.origin_promote _).trans isRecipe
        cases marked : (Tree.node type origin hoist children).promote.hoist with
        | true =>
            have supplied :=
              (Tree.isSupplied_of_recipe promotedRecipe).trans marked
            rw [Tree.term_of_isSupplied supplied, Term.replace, Tree.identity_promote]
            exact restored stated _ resolves exposed constructed marked
        | false =>
            have unsupplied :=
              (Tree.isSupplied_of_recipe promotedRecipe).trans marked
            have plainUnsupplied :=
              (Tree.isSupplied_of_recipe isRecipe).trans plain
            have promotedChildren := Tree.children_promote constructed
            apply Tree.replace_term_of_children isRecipe promotedRecipe
              plainUnsupplied unsupplied promotedChildren
            intro child member
            obtain ⟨below, listed, childResolves⟩ := each.exists_of_mem_right member
            have childExposed : root.hoisted.Exposed child.promote := by
              apply exposed.child unsupplied
              rw [promotedChildren]
              exact List.mem_map_of_mem member
            exact inductionHypothesis child member childResolves childExposed

/-- Putting the terms of promoted nodes in place of their parameters undoes hoisting. -/
theorem replace_terms_hoisted
    (resolves : ResolvesEach setting known needs root.children)
    {replacement : String → Term}
    (kept :
      ∀ node,
        root.hoisted.Exposed node →
        node.origin = .caller →
        replacement node.identity = .parameter node.identity)
    (restored :
      ∀ stated source,
        Resolves setting known stated source →
        root.hoisted.Exposed source.promote →
        source.origin ≠ .caller →
        source.promote.hoist = true →
        replacement source.identity = source.term) :
    (root.hoisted.children.map Tree.term).map (Term.replace replacement) =
      root.children.map Tree.term := by
  rw [Tree.children_hoisted, List.map_map, List.map_map]
  apply List.map_congr_left
  intro child member
  obtain ⟨stated, listed, childResolves⟩ := resolves.exists_of_mem_right member
  have hoistedMember :
      child.mapChildren (List.map Tree.promote) ∈ root.hoisted.children := by
    rw [Tree.children_hoisted]
    exact List.mem_map_of_mem member
  have exposed : root.hoisted.Exposed (child.mapChildren (List.map Tree.promote)) :=
    ⟨_, hoistedMember, .self _⟩
  rcases childResolves.origin_cases with
    ⟨isCaller, leaf⟩ | ⟨recipe, isRecipe, plain, remembered, each⟩
  · rw [Function.comp_apply, Function.comp_apply]
    rw [Tree.mapChildren_of_leaf leaf] at exposed ⊢
    rw [Tree.term_of_isSupplied (Tree.isSupplied_of_caller isCaller), Term.replace]
    exact kept child exposed isCaller
  · have hoistedRecipe :
        (child.mapChildren (List.map Tree.promote)).origin = .recipe recipe := by
      rw [Tree.origin_mapChildren, isRecipe]
    have unsupplied :=
      (Tree.isSupplied_of_recipe isRecipe).trans plain
    have hoistedUnsupplied :
        (child.mapChildren (List.map Tree.promote)).isSupplied = false := by
      rw [Tree.isSupplied_mapChildren, unsupplied]
    apply Tree.replace_term_of_children isRecipe hoistedRecipe unsupplied hoistedUnsupplied
      (Tree.children_mapChildren _ child)
    intro below belowMember
    obtain ⟨lower, belowResolves⟩ := childResolves.of_mem_children belowMember
    have belowExposed : root.hoisted.Exposed below.promote := by
      apply exposed.child hoistedUnsupplied
      rw [Tree.children_mapChildren]
      exact List.mem_map_of_mem belowMember
    exact replace_term_promote kept restored belowResolves belowExposed

end Hoisted

end Resolution

end Wiring
