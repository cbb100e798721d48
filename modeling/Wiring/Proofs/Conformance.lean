import Mathlib.Data.List.Chain
import Wiring.Proofs.Coherence
import Wiring.Proofs.DependencyGraph
import Wiring.Proofs.Discovery

namespace Wiring

/-!
# Resolved trees conform to their goals

What a resolved tree looks like at every place is said by the need that the place
was resolved for: its type, who supplies it, by which recipe it is constructed and
of what kind it is. Identities do not repeat on the way down, and where no
replacement is replaced itself, no replaced identity is left.
-/

/-- A kind, or another one if it is not known. -/
def Kind.orElse : Kind → Kind → Kind
  | .unknown, other => other
  | known, _ => known

namespace Resolution

/-- `node` stands in the tree of a goal at the place of a need. -/
inductive BuiltFor
    (goal : Goal)
    (root : Tree) :
    Need → Tree → Prop where
  | result
      {stated : Need}
      {node : Tree}
      (place : (stated, node) ∈ goal.results.zip root.children) :
      BuiltFor goal root stated node
  | needed
      {above stated : Need}
      {parent node : Tree}
      {recipe : Recipe}
      (built : BuiltFor goal root above parent)
      (isRecipe : parent.origin = .recipe recipe)
      (place : (stated, node) ∈ recipe.needs.zip parent.children) :
      BuiltFor goal root stated node

/--
A node is constructed for a wanted type by a recipe.

It has one child for each need of the recipe, and the kind that the recipe knows: that
of what a function provides, a struct for a record, that of the only child for an alias,
and a builtin for the error slot. Where the recipe knows none it has the wanted kind.
-/
structure ConstructedBy
    (recipe : Recipe)
    (wanted : NamedType)
    (node : Tree) : Prop where
  origin : node.origin = .recipe recipe
  unmarked : node.hoist = false
  arity : node.children.length = recipe.needs.length
  called :
    ∀ function,
      recipe = .call function →
      node.type.kind = function.output.kind.orElse wanted.kind
  filled : ∀ record, recipe = .literal record → node.type.kind = .struct
  forwarded :
    ∀ synonym,
      recipe = .forward synonym →
      ∃ child,
        node.children = [child] ∧ node.type.kind = child.type.kind.orElse wanted.kind
  noError : recipe = .noError → node.type.kind = .builtin
  nested : ∀ whole, recipe = .goal whole → node.type.kind = wanted.kind

/--
A node is what a stated need asks for, once it is replaced.

The node is a leaf of the caller exactly if the identity is supplied, and then it has
the mark that was given. Any other node is constructed by the discovered recipe.
-/
structure Conforms
    (setting : Setting)
    (discovered : String → Option Recipe)
    (stated : Need)
    (node : Tree) : Prop where
  importPath :
    node.type.importPath = (setting.substitutions.apply stated).wanted.importPath
  name : node.type.name = (setting.substitutions.apply stated).wanted.name
  pointer : node.type.pointer = (setting.substitutions.apply stated).wanted.pointer
  supplied_iff :
    (node.isExternal = true ∧ node.children = [] ∧ node.recipe? = none) ↔
      ∃ hoist,
        setting.supplied.get? (setting.substitutions.apply stated).identity = some hoist
  marked :
    ∀ hoist,
      setting.supplied.get? (setting.substitutions.apply stated).identity = some hoist →
      node.hoist = hoist
  constructed :
    setting.supplied.get? (setting.substitutions.apply stated).identity = none →
    ∃ recipe,
      discovered node.identity = some recipe ∧
        ConstructedBy recipe (setting.substitutions.apply stated).wanted node

/--
A tree conforms to a goal.

Its root is the goal with one child for each result, every node below the root stands
at the place of a need and is what that need asks for, no identity occurs twice on a
way down from the root, and none is replaced if no replacement is.
-/
structure ConformsTo
    (setting : Setting)
    (discovered : String → Option Recipe)
    (goal : Goal)
    (root : Tree) : Prop where
  origin : root.origin = .recipe (.goal goal)
  arity : root.children.length = goal.results.length
  built :
    ∀ child ∈ root.children, ∀ node ∈ child.nodes, ∃ stated, BuiltFor goal root stated node
  conforms :
    ∀ stated node, BuiltFor goal root stated node → Conforms setting discovered stated node
  distinct :
    ∀ nodes : List Tree,
      (root :: nodes).IsChain (fun parent child => child ∈ parent.children) →
      (nodes.map Tree.identity).Nodup
  unreplaced :
    (∀ identity replacement,
      setting.substitutions.get? identity = some replacement →
      setting.substitutions.get? replacement.identity = none) →
    ∀ child ∈ root.children, ∀ node ∈ child.nodes,
      setting.substitutions.get? node.identity = none

/-- A node's type is the wanted one up to its kind. -/
theorem nodeType_eq
    (wanted : NamedType)
    (recipe : Recipe)
    (children : List Tree) :
    nodeType wanted recipe children =
      wanted.withKind ((suppliedKind recipe children).orElse wanted.kind) := by
  unfold nodeType
  cases suppliedKind recipe children <;> rfl

/-- A node with the children and the type that a recipe gives is constructed by the recipe. -/
theorem constructedBy_node
    {recipe : Recipe}
    {children : List Tree}
    (arity : children.length = recipe.needs.length)
    (wanted : NamedType) :
    ConstructedBy recipe wanted
      (.node (nodeType wanted recipe children) (.recipe recipe) false children) where
  origin := rfl
  unmarked := rfl
  arity := arity
  called := by
    rintro function rfl
    rw [Tree.type_node, nodeType_eq]
    rfl
  filled := by
    rintro record rfl
    rfl
  forwarded := by
    rintro synonym rfl
    obtain ⟨child, isOnly⟩ := List.length_eq_one_iff.mp arity
    refine ⟨child, isOnly, ?_⟩
    rw [Tree.type_node, nodeType_eq, isOnly]
    rfl
  noError := by
    rintro rfl
    rfl
  nested := by
    rintro whole rfl
    rfl

/-- A need that is not replaced is applied as it is, and a replacement is not replaced again. -/
theorem get?_identity_apply
    {substitutions : Substitutions}
    (final :
      ∀ identity replacement,
        substitutions.get? identity = some replacement →
        substitutions.get? replacement.identity = none)
    (stated : Need) :
    substitutions.get? (substitutions.apply stated).identity = none := by
  unfold Substitutions.apply
  cases found : substitutions.get? stated.identity with
  | none =>
      exact found
  | some replacement =>
      exact final _ replacement found

section Derived

variable {setting : Setting} {known : Keyed Recipe} {goal : Goal} {root : Tree}

/-- A derived tree conforms to its need, by the recipes that it is derived from. -/
theorem Resolves.conforms
    {stated : Need}
    {tree : Tree}
    (resolves : Resolves setting known stated tree) :
    Conforms setting known.get? stated tree := by
  have sameIdentity := resolves.identity_eq
  cases resolves with
  | @supplied stated hoist given =>
      exact {
        importPath := rfl
        name := rfl
        pointer := rfl
        supplied_iff := ⟨fun _ => ⟨hoist, given⟩, fun _ => ⟨rfl, rfl, rfl⟩⟩
        marked := by
          intro other givenOther
          rw [given, Option.some.injEq] at givenOther
          exact givenOther
        constructed := by
          intro free
          rw [given] at free
          cases free }
  | @constructed stated recipe children free remembered arity each =>
      refine {
        importPath := by rw [Tree.type_node, nodeType_eq]; rfl
        name := by rw [Tree.type_node, nodeType_eq]; rfl
        pointer := by rw [Tree.type_node, nodeType_eq]; rfl
        supplied_iff := ?_
        marked := ?_
        constructed := ?_ }
      · constructor
        · rintro ⟨isExternal, _⟩
          cases isExternal
        · rintro ⟨hoist, given⟩
          rw [free] at given
          cases given
      · intro hoist given
        rw [free] at given
        cases given
      · intro _
        exact ⟨recipe, by rw [sameIdentity]; exact remembered, constructedBy_node arity.symm _⟩

/-- What stands at the place of a need is derived from it. -/
theorem BuiltFor.resolves
    (derived : ResolvesEach setting known goal.results root.children)
    {stated : Need}
    {node : Tree}
    (built : BuiltFor goal root stated node) :
    Resolves setting known stated node := by
  induction built with
  | result place =>
      exact List.forall₂_zip derived place
  | needed built isRecipe place inductionHypothesis =>
      exact List.forall₂_zip (inductionHypothesis.recipe_known isRecipe).2 place

/-- Every member of a list has a place in a list of the same length. -/
theorem exists_mem_zip
    {needs : List Need}
    {nodes : List Tree}
    (arity : nodes.length = needs.length)
    {node : Tree}
    (member : node ∈ nodes) :
    ∃ stated, (stated, node) ∈ needs.zip nodes := by
  rw [← List.map_snd_zip (Nat.le_of_eq arity)] at member
  obtain ⟨place, listed, rfl⟩ := List.mem_map.mp member
  exact ⟨place.1, listed⟩

/-- Every node of a tree that is built for a need is built for some need. -/
theorem BuiltFor.of_mem_nodes
    (derived : ResolvesEach setting known goal.results root.children)
    {stated : Need}
    {tree : Tree}
    (built : BuiltFor goal root stated tree)
    {node : Tree}
    (member : node ∈ tree.nodes) :
    ∃ below, BuiltFor goal root below node := by
  induction tree generalizing stated with
  | node type origin hoist children inductionHypothesis =>
      rw [Tree.nodes_eq] at member
      rcases List.mem_cons.mp member with isRoot | isBelow
      · exact ⟨stated, isRoot ▸ built⟩
      · obtain ⟨child, isChild, inChild⟩ := List.mem_flatMap.mp isBelow
        rcases (built.resolves derived).origin_cases with
          ⟨_, leaf⟩ | ⟨recipe, isRecipe, _, _, each⟩
        · rw [leaf] at isChild
          cases isChild
        · obtain ⟨need, place⟩ := exists_mem_zip each.length_eq.symm isChild
          exact inductionHypothesis child isChild (built.needed isRecipe place) inChild

/-- Every node on a way down from a root with derived children is derived. -/
theorem exists_resolves_of_isChain
    {tree : Tree}
    (derived : ∀ child ∈ tree.children, ∃ stated, Resolves setting known stated child)
    {nodes : List Tree}
    (descends : (tree :: nodes).IsChain (fun parent child => child ∈ parent.children)) :
    ∀ node ∈ nodes, ∃ stated, Resolves setting known stated node := by
  induction nodes generalizing tree with
  | nil =>
      simp
  | cons first rest inductionHypothesis =>
      obtain ⟨isChild, descendsFurther⟩ := List.isChain_cons_cons.mp descends
      obtain ⟨stated, resolves⟩ := derived first isChild
      intro node member
      rcases List.mem_cons.mp member with rfl | inRest
      · exact ⟨stated, resolves⟩
      · exact
          inductionHypothesis (fun child isChild => resolves.of_mem_children isChild)
            descendsFurther node inRest

/-- Derived nodes on a way down have different identities. -/
theorem nodup_identity_of_isChain
    {nodes : List Tree}
    (derived : ∀ node ∈ nodes, ∃ stated, Resolves setting known stated node)
    (descends : nodes.IsChain (fun parent child => child ∈ parent.children)) :
    (nodes.map Tree.identity).Nodup := by
  have shrinks : nodes.Pairwise (fun above below => below.count < above.count) :=
    List.isChain_iff_pairwise.mp
      (descends.imp fun _ _ isChild => Tree.count_lt_of_mem_children isChild)
  refine List.pairwise_map.mpr (shrinks.imp_of_mem ?_)
  intro above below isAbove isBelow smaller same
  obtain ⟨stated, resolves⟩ := derived above isAbove
  obtain ⟨statedBelow, resolvesBelow⟩ := derived below isBelow
  -- Nodes of one identity have the same children, so that neither is larger than the other.
  have sameChildren := (resolves.shared resolvesBelow same).2.2
  rw [Tree.count_eq_of_children_eq sameChildren] at smaller
  exact Nat.lt_irrefl _ smaller

end Derived

/--
A resolved tree conforms to its goal.

The resolver may have served any goals before, with or without success, and the
recipes are those that it has first discovered in its whole life.
-/
theorem conformsTo_of_resolveWithin
    {setting : Setting}
    {earlier : List (Nat × Goal)}
    {limit : Nat}
    {goal : Goal}
    {root : Tree}
    (resolved :
      (resolveWithin limit setting goal (Memory.after setting earlier)).1 = .ok root) :
    ConformsTo setting (discovered setting (earlier ++ [(limit, goal)])) goal root := by
  obtain ⟨children, rfl, resolves⟩ := resolveWithin_resolves resolved
  rw [← known_after, Memory.after_concat]
  generalize (resolveWithin limit setting goal (Memory.after setting earlier)).2.known = known
    at resolves ⊢
  have derived : ResolvesEach setting known goal.results (rootNode goal children).children :=
    resolves
  have childDerived :
      ∀ child ∈ (rootNode goal children).children,
        ∃ stated, Resolves setting known stated child := by
    intro child member
    obtain ⟨stated, _, childResolves⟩ := derived.exists_of_mem_right member
    exact ⟨stated, childResolves⟩
  exact {
    origin := rfl
    arity := derived.length_eq.symm
    built := by
      intro child member node inChild
      obtain ⟨stated, place⟩ := exists_mem_zip derived.length_eq.symm member
      exact BuiltFor.of_mem_nodes derived (.result place) inChild
    conforms := fun stated node built => (built.resolves derived).conforms
    distinct := by
      intro nodes descends
      exact
        nodup_identity_of_isChain (exists_resolves_of_isChain childDerived descends)
          descends.tail
    unreplaced := by
      intro final child member node inChild
      obtain ⟨stated, childResolves⟩ := childDerived child member
      obtain ⟨below, nodeResolves⟩ := childResolves.of_mem_nodes inChild
      rw [nodeResolves.identity_eq]
      exact get?_identity_apply final below }

namespace Rebuilt

/-- `A` in place of `D`, while the caller computes `B` once. -/
def setting : Setting where
  lookup := Diamond.table.lookup
  substitutions :=
    Substitutions.add Keyed.empty (.named (Diamond.named "D")) (.named (Diamond.named "A"))
  supplied := Supplied.add Keyed.empty (.named (Diamond.named "B")) true

/-- The record that `C` is filled in as. -/
def record : Record :=
  Record.ofFields (Diamond.named "C") []

/-- A function that fills in `C`, and returns `E`, for which there is no recipe. -/
def failing : Goal where
  importPath := "p"
  name := "Fail"
  package := "p"
  results := [.record record, .named (Diamond.named "E")]

/-- The function that provides `D`. -/
def goal : Goal where
  importPath := "p"
  name := "Provide"
  package := "p"
  results := [.named (Diamond.named "D")]

end Rebuilt

/--
`D` is constructed as `A`, from the `B` of the caller and from `C`, which is filled in
as the goal that has failed before has asked for it.
-/
theorem conformsTo_of_resolveWithin_rebuilt :
    ∃ root,
      (resolveWithin 3 Rebuilt.setting Rebuilt.goal
          (Memory.after Rebuilt.setting [(3, Rebuilt.failing)])).1 = .ok root ∧
        ConformsTo Rebuilt.setting
          (discovered Rebuilt.setting [(3, Rebuilt.failing), (3, Rebuilt.goal)])
          Rebuilt.goal root ∧
        ∃ node,
          BuiltFor Rebuilt.goal root (.named (Diamond.named "C")) node ∧
            discovered Rebuilt.setting [(3, Rebuilt.failing), (3, Rebuilt.goal)] node.identity =
              some (.literal Rebuilt.record) := by
  obtain ⟨root, resolved, node, built, isLiteral⟩ :
      ∃ root,
        (resolveWithin 3 Rebuilt.setting Rebuilt.goal
            (Memory.after Rebuilt.setting [(3, Rebuilt.failing)])).1 = .ok root ∧
          ∃ node,
            BuiltFor Rebuilt.goal root (.named (Diamond.named "C")) node ∧
              node.origin = .recipe (.literal Rebuilt.record) :=
    ⟨_, rfl, _, .needed (.result List.mem_cons_self) rfl (.tail _ List.mem_cons_self), rfl⟩
  have conformsTo := conformsTo_of_resolveWithin resolved
  refine ⟨root, resolved, conformsTo, node, built, ?_⟩
  obtain ⟨recipe, isDiscovered, constructed⟩ := (conformsTo.conforms _ _ built).constructed rfl
  have sameOrigin := constructed.origin.symm.trans isLiteral
  rw [Origin.recipe.injEq] at sameOrigin
  rw [← sameOrigin]
  exact isDiscovered

end Resolution

end Wiring
