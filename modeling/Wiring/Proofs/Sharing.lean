import Wiring.Proofs.Faithful
import Wiring.Proofs.SharedSubtrees
import Wiring.Proofs.Tracing

/-!
# Lists without repetitions

What is left of a list when all but the first occurrence of every member is
erased, and how the first occurrences come together when lists are appended.
-/

namespace List

/-- A member of a list with one more at the end is that last one or a member before it. -/
theorem append_singleton_eq_append_cons
    {α : Type}
    {items before after : List α}
    {last item : α}
    (split : items ++ [last] = before ++ item :: after) :
    (items = before ∧ last = item) ∨ ∃ rest, items = before ++ item :: rest := by
  rcases eq_nil_or_concat after with rfl | ⟨rest, other, rfl⟩
  · obtain ⟨sameItems, sameLast⟩ := append_inj' split rfl
    exact .inl ⟨sameItems, by simpa using sameLast⟩
  · have regrouped : items ++ [last] = (before ++ item :: rest) ++ [other] := by
      simpa using split
    exact .inr ⟨rest, (append_inj' regrouped rfl).1⟩

section Repetitions

variable {α : Type} [BEq α] [LawfulBEq α]

/-- Nothing is repeated once repetitions are erased. -/
theorem nodup_eraseDups : ∀ items : List α, items.eraseDups.Nodup
  | [] => by simp
  | item :: rest => by
      rw [eraseDups_cons, nodup_cons]
      exact ⟨by simp [mem_eraseDups], nodup_eraseDups _⟩
termination_by items => items.length
decreasing_by exact Nat.lt_succ_of_le (length_filter_le _ _)

/-- Without repetitions nothing is erased. -/
theorem eraseDups_of_nodup
    {items : List α}
    (distinct : items.Nodup) :
    items.eraseDups = items := by
  induction items with
  | nil =>
      rfl
  | cons item rest inductionHypothesis =>
      obtain ⟨absent, restDistinct⟩ := nodup_cons.mp distinct
      have nothingErased : rest.filter (fun other => !other == item) = rest := by
        rw [filter_eq_self]
        intro other member
        have different : other ≠ item := fun same => absent (same ▸ member)
        simpa using different
      rw [eraseDups_cons, nothingErased, inductionHypothesis restDistinct]

/-- Members that are there already are erased behind a list without repetitions. -/
theorem eraseDups_append_of_subset
    {items more : List α}
    (distinct : items.Nodup)
    (known : more ⊆ items) :
    (items ++ more).eraseDups = items := by
  have nothingLeft : more.removeAll items = [] := by
    simpa [removeAll] using fun item member => known member
  rw [eraseDups_append, nothingLeft, eraseDups_of_nodup distinct]
  simp

/-- A new member is kept at the end. -/
theorem eraseDups_append_singleton
    {items : List α}
    {item : α}
    (absent : item ∉ items) :
    (items ++ [item]).eraseDups = items.eraseDups ++ [item] := by
  rw [eraseDups_append]
  simp [removeAll, absent, eraseDups_cons]

/-- Repetitions may be erased in front before more is appended. -/
theorem eraseDups_eraseDups_append
    (items more : List α) :
    (items.eraseDups ++ more).eraseDups = (items ++ more).eraseDups := by
  have sameLeft : more.removeAll items.eraseDups = more.removeAll items := by
    simp [removeAll]
  rw [eraseDups_append, eraseDups_append, sameLeft,
    eraseDups_of_nodup (nodup_eraseDups items)]

end Repetitions

end List

namespace Wiring

/-!
# Shared values are constructed once

A walk that takes children first and enters no supplied node completes the
identity of every call and every literal, some of them many times. Layout follows
the same walk but remembers what it has constructed: a node whose identity is
known adds nothing, because everything below it has been constructed as well. The
construction statements are therefore the completions without repetition, each
behind all that it needs.
-/

/-- Whether carrying out a recipe takes a statement. -/
def Recipe.builds : Recipe → Bool
  | .call _ => true
  | .literal _ => true
  | _ => false

namespace Tree

/-- Whether a node is constructed by a statement of its own. -/
def isBuilt (tree : Tree) : Bool :=
  !tree.isSupplied && tree.recipe?.any Recipe.builds

mutual

/-- The identities that a walk completes, children first and not below supplied nodes. -/
def completions : Tree → List String
  | .node type origin hoist children =>
      if (Tree.node type origin hoist children).isSupplied then
        []
      else
        completionsOfEach children ++
          if (Tree.node type origin hoist children).isBuilt then [type.identity] else []

/-- The identities that a walk over a list of trees completes. -/
def completionsOfEach : List Tree → List String
  | [] => []
  | tree :: rest => completions tree ++ completionsOfEach rest

end

/-- A walk over a list of trees completes what the walks over the trees complete. -/
theorem completionsOfEach_eq_flatMap
    (trees : List Tree) :
    completionsOfEach trees = trees.flatMap completions := by
  induction trees with
  | nil =>
      rfl
  | cons tree rest inductionHypothesis =>
      simp [completionsOfEach, inductionHypothesis]

/-- A walk does not enter supplied nodes. -/
@[simp] theorem completions_of_supplied
    {tree : Tree}
    (supplied : tree.isSupplied = true) :
    tree.completions = [] := by
  cases tree
  simp [completions, supplied]

/-- A walk over a constructed node completes its children and then the node itself. -/
theorem completions_of_constructed
    {tree : Tree}
    (constructed : tree.isSupplied = false) :
    tree.completions =
      completionsOfEach tree.children ++ if tree.isBuilt then [tree.identity] else [] := by
  cases tree
  simp [completions, constructed]

/-- A constructed node is built by a statement if its recipe takes one. -/
theorem isBuilt_of_recipe
    {tree : Tree}
    (constructed : tree.isSupplied = false)
    {recipe : Recipe}
    (isRecipe : tree.origin = .recipe recipe) :
    tree.isBuilt = recipe.builds := by
  simp [isBuilt, constructed, recipe?, isRecipe]

/-- A node that is built is not supplied. -/
theorem isSupplied_of_isBuilt
    {tree : Tree}
    (built : tree.isBuilt = true) :
    tree.isSupplied = false := by
  simp only [isBuilt, Bool.and_eq_true, Bool.not_eq_true'] at built
  exact built.1

/-- A walk completes the identities of the built nodes that are exposed. -/
theorem mem_completions_iff
    {tree : Tree}
    {identity : String} :
    identity ∈ tree.completions ↔
      ∃ node, tree.Exposes node ∧ node.isBuilt = true ∧ node.identity = identity := by
  constructor
  · intro member
    induction tree with
    | node type origin hoist children inductionHypothesis =>
        by_cases supplied : (Tree.node type origin hoist children).isSupplied = true
        · simp [supplied] at member
        · have constructed := Bool.eq_false_iff.mpr supplied
          rw [completions_of_constructed constructed, List.mem_append] at member
          rcases member with below | isSelf
          · rw [completionsOfEach_eq_flatMap] at below
            obtain ⟨child, listed, inChild⟩ := List.mem_flatMap.mp below
            obtain ⟨node, exposes, built, same⟩ := inductionHypothesis child listed inChild
            exact ⟨node, .under constructed listed exposes, built, same⟩
          · split at isSelf
            · rename_i built
              exact ⟨_, .self _, built, (List.mem_singleton.mp isSelf).symm⟩
            · simp at isSelf
  · rintro ⟨node, exposes, built, rfl⟩
    induction exposes with
    | self tree =>
        rw [completions_of_constructed (isSupplied_of_isBuilt built)]
        simp [built]
    | under constructed listed exposes inductionHypothesis =>
        rw [completions_of_constructed constructed, completionsOfEach_eq_flatMap]
        exact List.mem_append_left _
          (List.mem_flatMap.mpr ⟨_, listed, inductionHypothesis built⟩)

/-- A constructed root exposes what the layout can come to below it. -/
theorem Exposed.exposes
    {root node : Tree}
    (exposed : root.Exposed node)
    (constructed : root.isSupplied = false) :
    root.Exposes node := by
  obtain ⟨child, listed, exposes⟩ := exposed
  exact .under constructed listed exposes

namespace Coherent

variable {root : Tree}

/-- A walk completes the same below and at constructed nodes of one identity. -/
theorem completions_eq
    (coherent : root.Coherent)
    {node other : Tree}
    (exposed : root.Exposed node)
    (otherExposed : root.Exposed other)
    (constructed : node.isSupplied = false)
    (otherConstructed : other.isSupplied = false)
    (same : node.identity = other.identity) :
    node.completions = other.completions := by
  obtain ⟨sameOrigin, sameChildren⟩ :=
    coherent.shared exposed otherExposed constructed otherConstructed same
  have sameBuilt : node.isBuilt = other.isBuilt := by
    simp [isBuilt, constructed, otherConstructed, recipe?, sameOrigin]
  rw [completions_of_constructed constructed, completions_of_constructed otherConstructed,
    sameChildren, sameBuilt, same]

/-- A walk does not complete an identity below a constructed node of this identity. -/
theorem identity_not_mem_completions
    (coherent : root.Coherent)
    {tree : Tree}
    (exposed : root.Exposed tree)
    (constructed : tree.isSupplied = false) :
    tree.identity ∉ completionsOfEach tree.children := by
  intro member
  rw [completionsOfEach_eq_flatMap] at member
  obtain ⟨child, listed, inChild⟩ := List.mem_flatMap.mp member
  obtain ⟨node, exposes, built, same⟩ := mem_completions_iff.mp inChild
  exact coherent.identity_ne_of_exposes exposed constructed listed exposes
    (isSupplied_of_isBuilt built) same

end Coherent

end Tree

namespace Statement

/-- The identities that statements build, in order. -/
def builtIdentities (statements : List Statement) : List String :=
  statements.filterMap Statement.builtIdentity?

/-- A statement carries out a recipe that takes a statement. -/
theorem builds_of_recipe?
    {statement : Statement}
    {recipe : Recipe}
    (carried : statement.recipe? = some recipe) :
    recipe.builds = true := by
  cases statement <;> cases carried <;> rfl

end Statement

namespace Draft

/-- The identities that the statements of a draft build, in order. -/
def builtIdentities (draft : Draft) : List String :=
  Statement.builtIdentities draft.statements

/--
What has been constructed is remembered, and constructed only once.

What is remembered for a node has been constructed with everything below it, and
everything below came first.
-/
structure Shares
    (root : Tree)
    (draft : Draft) : Prop where
  distinct : draft.builtIdentities.Nodup
  remembered :
    ∀ identity ∈ draft.builtIdentities, ∃ value, draft.built.get? identity = some value
  complete :
    ∀ node value,
      root.Exposed node →
      node.isSupplied = false →
      draft.built.get? node.identity = some value →
      node.completions ⊆ draft.builtIdentities
  ordered :
    ∀ node before after,
      root.Exposed node →
      node.isSupplied = false →
      draft.builtIdentities = before ++ node.identity :: after →
      Tree.completionsOfEach node.children ⊆ before

/-- Nothing has been constructed at first. -/
theorem empty_shares
    (root : Tree) :
    Draft.empty.Shares root where
  distinct := by simp [builtIdentities, Statement.builtIdentities, empty]
  remembered := by simp [builtIdentities, Statement.builtIdentities, empty]
  complete := by simp [empty]
  ordered := by simp [builtIdentities, Statement.builtIdentities, empty]

/-- A new parameter builds nothing. -/
theorem Shares.addParameter
    {root : Tree}
    {draft : Draft}
    (shares : draft.Shares root)
    (parameter : Blueprint.Parameter) :
    (draft.addParameter parameter).builtIdentities = draft.builtIdentities ∧
      (draft.addParameter parameter).Shares root :=
  ⟨rfl, shares.distinct, shares.remembered, shares.complete, shares.ordered⟩

end Draft

namespace Scope

variable {scope : Scope} {zeros : List ZeroValue}

/-- Carrying out a recipe builds the identity of its node if it takes a statement. -/
theorem Carries.builtIdentities
    {type : NamedType}
    {draft : Draft}
    {recipe : Recipe}
    {inputs : List Value}
    {value : Value}
    {statements : List Statement}
    (carries : scope.Carries zeros type draft recipe inputs value statements) :
    Statement.builtIdentities statements =
      if recipe.builds then [type.identity] else [] := by
  cases carries with
  | @call function inputs callee name written named =>
      cases function.returnsError <;> rfl
  | literal written named =>
      rfl
  | forward =>
      rfl
  | noError =>
      rfl

variable {root : Tree}

/-- A node that is built behind its children keeps what is shared. -/
theorem shares_build
    (coherent : root.Coherent)
    {tree : Tree}
    (exposed : root.Exposed tree)
    (constructed : tree.isSupplied = false)
    {recipe : Recipe}
    (isRecipe : tree.origin = .recipe recipe)
    {draft : Draft}
    (shares : draft.Shares root)
    (below : Tree.completionsOfEach tree.children ⊆ draft.builtIdentities)
    (fresh : tree.identity ∉ draft.builtIdentities)
    {inputs : List Value}
    {value : Value}
    {statements : List Statement}
    (carries : scope.Carries zeros tree.type draft recipe inputs value statements) :
    ((draft.addStatements statements).remember tree.identity value).builtIdentities =
        draft.builtIdentities ++ (if tree.isBuilt then [tree.identity] else []) ∧
      ((draft.addStatements statements).remember tree.identity value).Shares root := by
  have grown :
      ((draft.addStatements statements).remember tree.identity value).builtIdentities =
        draft.builtIdentities ++ (if tree.isBuilt then [tree.identity] else []) := by
    have added := carries.builtIdentities
    simp only [Statement.builtIdentities] at added
    simp [Draft.builtIdentities, Statement.builtIdentities, added,
      Tree.isBuilt_of_recipe constructed isRecipe, Tree.identity]
  refine ⟨grown, ?_⟩
  constructor
  case distinct =>
    rw [grown]
    split
    · exact shares.distinct.append (List.nodup_singleton _) (by simpa using fresh)
    · simpa using shares.distinct
  case remembered =>
    intro identity member
    rw [Draft.get?_built_remember]
    split
    · exact ⟨value, rfl⟩
    · rename_i other
      rw [grown, List.mem_append] at member
      rcases member with known | isNew
      · exact shares.remembered identity known
      · split at isNew
        · exact absurd (List.mem_singleton.mp isNew).symm other
        · simp at isNew
  case complete =>
    intro node found nodeExposed nodeConstructed remembered
    rw [grown]
    rw [Draft.get?_built_remember] at remembered
    split at remembered
    · rename_i same
      rw [coherent.completions_eq nodeExposed exposed nodeConstructed constructed same.symm,
        Tree.completions_of_constructed constructed]
      exact List.append_subset.mpr
        ⟨List.subset_append_of_subset_left _ below, List.subset_append_right _ _⟩
    · exact List.subset_append_of_subset_left _
        (shares.complete node found nodeExposed nodeConstructed remembered)
  case ordered =>
    intro node before after nodeExposed nodeConstructed position
    rw [grown] at position
    split at position
    · rcases List.append_singleton_eq_append_cons position with
        ⟨isBefore, same⟩ | ⟨rest, known⟩
      · rw [← isBefore,
          (coherent.shared nodeExposed exposed nodeConstructed constructed same.symm).2]
        exact below
      · exact shares.ordered node before rest nodeExposed nodeConstructed known
    · exact shares.ordered node before after nodeExposed nodeConstructed
        (by simpa using position)

/-- A list of trees constructs what its walk completes, if each tree does. -/
theorem layEach_shares
    {constructing : List String}
    {trees : List Tree}
    (each :
      ∀ tree ∈ trees, ∀ {draft value later},
        draft.Shares root →
        scope.layTree zeros constructing tree draft = .ok (value, later) →
        later.builtIdentities = (draft.builtIdentities ++ tree.completions).eraseDups ∧
          later.Shares root)
    {draft later : Draft}
    {values : List Value}
    (shares : draft.Shares root)
    (laid : scope.layEach zeros constructing trees draft = .ok (values, later)) :
    later.builtIdentities =
        (draft.builtIdentities ++ Tree.completionsOfEach trees).eraseDups ∧
      later.Shares root := by
  induction trees generalizing draft values with
  | nil =>
      cases laid
      simp [Tree.completionsOfEach, List.eraseDups_of_nodup shares.distinct, shares]
  | cons tree rest inductionHypothesis =>
      obtain ⟨value, middle, others, first, remaining, rfl⟩ := layEach_cons_ok laid
      obtain ⟨fromFirst, middleShares⟩ := each tree (by simp) shares first
      obtain ⟨fromRest, laterShares⟩ :=
        inductionHypothesis
          (fun other member => each other (List.mem_cons_of_mem tree member))
          middleShares remaining
      refine ⟨?_, laterShares⟩
      rw [fromRest, fromFirst, List.eraseDups_eraseDups_append, Tree.completionsOfEach,
        List.append_assoc]

/--
Laying out a tree constructs what its walk completes and is not there yet.

Whatever is met again has been constructed together with everything below it.
-/
theorem layTree_shares
    (coherent : root.Coherent)
    (tree : Tree)
    (exposed : root.Exposed tree)
    {constructing : List String}
    {draft later : Draft}
    {value : Value}
    (shares : draft.Shares root)
    (laid : scope.layTree zeros constructing tree draft = .ok (value, later)) :
    later.builtIdentities = (draft.builtIdentities ++ tree.completions).eraseDups ∧
      later.Shares root := by
  induction tree generalizing constructing draft later value with
  | node type origin hoist children inductionHypothesis =>
      rcases layTree_ok_cases laid with
        ⟨supplied, parameter, found, rfl, rfl⟩ |
        ⟨supplied, absent, received⟩ |
        ⟨constructed, found, rfl⟩ |
        ⟨constructed, absent, recipe, inputs, middle, last,
          isRecipe, below, carried, rfl⟩
      · simp [supplied, List.eraseDups_of_nodup shares.distinct, shares]
      · obtain ⟨fresh, sameType, expression, written, rfl⟩ := layParameter_ok received
        obtain ⟨sameIdentities, laterShares⟩ := shares.addParameter ⟨value, hoist, expression⟩
        refine ⟨?_, laterShares⟩
        rw [Tree.completions_of_supplied supplied, List.append_nil,
          List.eraseDups_of_nodup shares.distinct]
        exact sameIdentities
      · have known := shares.complete _ value exposed constructed found
        exact ⟨(List.eraseDups_append_of_subset shares.distinct known).symm, shares⟩
      · obtain ⟨fromChildren, middleShares⟩ :=
          layEach_shares
            (fun child member _ _ _ kept laidChild =>
              inductionHypothesis child member (exposed.child constructed member)
                kept laidChild)
            shares below
        obtain ⟨statements, carries, rfl⟩ := layRecipe_ok_iff.mp carried
        have fresh :
            (Tree.node type origin hoist children).identity ∉
              draft.builtIdentities ++ Tree.completionsOfEach children := by
          rw [List.mem_append, not_or]
          refine ⟨?_, coherent.identity_not_mem_completions exposed constructed⟩
          intro known
          obtain ⟨earlier, remembered⟩ := shares.remembered _ known
          rw [absent] at remembered
          cases remembered
        obtain ⟨grown, laterShares⟩ :=
          shares_build coherent exposed constructed isRecipe middleShares
            (by rw [fromChildren]
                exact fun identity member =>
                  List.mem_eraseDups.mpr (List.mem_append_right _ member))
            (by rwa [fromChildren, List.mem_eraseDups])
            carries
        refine ⟨?_, laterShares⟩
        rw [grown, fromChildren, Tree.completions_of_constructed constructed,
          ← List.append_assoc]
        split
        · exact (List.eraseDups_append_singleton fresh).symm
        · simp

end Scope

namespace Blueprint

/--
The statements of a function construct its tree, each identity once.

They build what a walk over the tree completes, in the order of first completion,
and carry out the recipes of the nodes that are built. A statement stands behind
those of everything below its node.
-/
structure SharesConstruction
    (tree : Tree)
    (blueprint : Blueprint) : Prop where
  inOrder : Statement.builtIdentities blueprint.statements = tree.completions.eraseDups
  once : (Statement.builtIdentities blueprint.statements).Nodup
  complete :
    ∀ identity,
      identity ∈ Statement.builtIdentities blueprint.statements ↔
        ∃ node, tree.Exposes node ∧ node.isBuilt = true ∧ node.identity = identity
  carriesOut :
    ∀ statement ∈ blueprint.statements,
      statement.isGuard = true ∨
        ∃ node,
          tree.Exposes node ∧
            node.isBuilt = true ∧
            statement.builtIdentity? = some node.identity ∧
            statement.recipe? = node.recipe?
  afterNeeds :
    ∀ before statement after node child below,
      blueprint.statements = before ++ statement :: after →
      tree.Exposes node →
      node.isBuilt = true →
      statement.builtIdentity? = some node.identity →
      child ∈ node.children →
      child.Exposes below →
      below.isBuilt = true →
      below.identity ∈ Statement.builtIdentities before

/-- Laying out a coherent tree constructs it, each identity once. -/
theorem sharesConstruction_of_layOut
    {goal : Goal}
    {imports : ImportTable}
    {root : Tree}
    (coherent : root.Coherent)
    (isGoal : root.origin = .recipe (.goal goal))
    (unmarked : root.hoist = false)
    {blueprint : Blueprint}
    (laid : layOut goal imports root = .ok blueprint) :
    blueprint.SharesConstruction root := by
  obtain ⟨zeros, results, draft, types, zerosWritten, laidEach, typesWritten, rfl⟩ :=
    layOut_eq_ok_iff.mp laid
  have constructed : root.isSupplied = false := by
    rw [Tree.isSupplied_of_recipe isGoal, unmarked]
  have unbuilt : root.isBuilt = false := Tree.isBuilt_of_recipe constructed isGoal
  have exposed_of_built :
      ∀ node, root.Exposes node → node.isBuilt = true → root.Exposed node := by
    intro node exposes built
    cases exposes with
    | self => simp [unbuilt] at built
    | under _ member exposes => exact ⟨_, member, exposes⟩
  obtain ⟨inOrder, shares⟩ :=
    Scope.layEach_shares
      (fun child member _ _ _ kept laidChild =>
        Scope.layTree_shares coherent child ⟨child, member, .self child⟩ kept laidChild)
      (Draft.empty_shares root) laidEach
  have walked : draft.builtIdentities = root.completions.eraseDups := by
    rw [inOrder, Tree.completions_of_constructed constructed]
    simp [unbuilt, Draft.builtIdentities, Draft.empty, Statement.builtIdentities]
  exact {
    inOrder := walked
    once := shares.distinct
    complete := by
      intro identity
      have completed :
          identity ∈ draft.builtIdentities ↔ identity ∈ root.completions := by
        rw [walked, List.mem_eraseDups]
      exact completed.trans Tree.mem_completions_iff
    carriesOut := by
      intro statement member
      refine ((Scope.layChildren_traced laidEach).made statement member).imp_right ?_
      rintro ⟨node, exposed, traces⟩
      obtain ⟨recipe, symbol, isRecipe, carried, _⟩ := traces.carriesOut
      refine ⟨node, exposed.exposes constructed, ?_, traces.built, ?_⟩
      · rw [Tree.isBuilt_of_recipe traces.constructed isRecipe]
        exact Statement.builds_of_recipe? carried
      · rw [carried, Tree.recipe?, isRecipe]
    afterNeeds := by
      intro before statement after node child below position exposes built builds member
        exposesBelow belowBuilt
      have identities :
          draft.builtIdentities =
            Statement.builtIdentities before ++
              node.identity :: Statement.builtIdentities after := by
        have sameStatements : draft.statements = before ++ statement :: after := position
        simp [Draft.builtIdentities, Statement.builtIdentities, sameStatements, builds]
      apply
        shares.ordered node _ _ (exposed_of_built node exposes built)
          (Tree.isSupplied_of_isBuilt built) identities
      rw [Tree.completionsOfEach_eq_flatMap]
      exact List.mem_flatMap.mpr
        ⟨child, member, Tree.mem_completions_iff.mpr ⟨below, exposesBelow, belowBuilt, rfl⟩⟩ }

end Blueprint

/-- A table finds no goal if none of its rows is one. -/
theorem LookupTable.lookup_findsNoGoal
    {table : LookupTable}
    (rows : ∀ entry ∈ table.entries, ∀ goal, entry.2 ≠ .found (.goal goal)) :
    Lookup.FindsNoGoal table.lookup := by
  intro type goal answered
  unfold lookup at answered
  split at answered
  · rename_i row found
    cases row with
    | found recipe =>
        cases answered
        exact rows _ (Entries.mem_of_get? found) goal rfl
    | _ =>
        cases answered
  · cases answered

namespace Resolution

/-- The root of a resolved tree is the goal, and unmarked, before and after hoisting. -/
theorem root_of_resolveWithin
    {limit : Nat}
    {setting : Setting}
    {goal : Goal}
    {memory : Memory}
    {root : Tree}
    (resolved : (resolveWithin limit setting goal memory).1 = .ok root)
    {tree : Tree}
    (prepared : tree = root ∨ tree = root.hoisted) :
    tree.origin = .recipe (.goal goal) ∧ tree.hoist = false := by
  obtain ⟨children, rfl, resolves⟩ := resolveWithin_resolves resolved
  rcases prepared with rfl | rfl <;> exact ⟨rfl, rfl⟩

/-- The function for a resolved tree is laid out for its goal, before and after hoisting. -/
theorem exists_layOut_of_resolveWithin
    {setting : Setting}
    (noGoals : setting.lookup.FindsNoGoal)
    (earlier : List (Nat × Goal))
    {limit : Nat}
    {goal : Goal}
    {root : Tree}
    (resolved :
      (resolveWithin limit setting goal (Memory.after setting earlier)).1 = .ok root)
    {tree : Tree}
    (prepared : tree = root ∨ tree = root.hoisted)
    (imports : ImportTable) :
    ∃ blueprint,
      Blueprint.ofTree tree imports = .ok blueprint ∧
        Blueprint.layOut goal imports tree = .ok blueprint := by
  obtain ⟨coherent, arity, isLayOut⟩ := coherent_of_resolveWithin resolved prepared
  obtain ⟨children, rfl, resolves⟩ := resolveWithin_resolves resolved
  obtain ⟨⟨plain, plainLaid⟩, hoisted, hoistedLaid⟩ :=
    exists_ofTree
      ((Memory.after_holdsNoGoal noGoals earlier).resolveWithin noGoals limit goal)
      resolves imports
  rcases prepared with rfl | rfl
  · exact ⟨plain, plainLaid, (isLayOut imports).symm.trans plainLaid⟩
  · exact ⟨hoisted, hoistedLaid, (isLayOut imports).symm.trans hoistedLaid⟩

/--
The function for a resolved tree exists and constructs what it shares once,
whether or not the tree is hoisted.

It has one construction statement for every identity of a call or a literal that
is reached without passing through a supplied node, and no other. They stand in
the order in which a walk with children first completes these identities, and so
each behind the statements of everything that it needs.
-/
theorem ofTree_sharesConstruction
    {setting : Setting}
    (noGoals : setting.lookup.FindsNoGoal)
    (earlier : List (Nat × Goal))
    {limit : Nat}
    {goal : Goal}
    {root : Tree}
    (resolved :
      (resolveWithin limit setting goal (Memory.after setting earlier)).1 = .ok root)
    {tree : Tree}
    (prepared : tree = root ∨ tree = root.hoisted)
    (imports : ImportTable) :
    ∃ blueprint,
      Blueprint.ofTree tree imports = .ok blueprint ∧
        blueprint.SharesConstruction tree := by
  obtain ⟨blueprint, laid, laidOut⟩ :=
    exists_layOut_of_resolveWithin noGoals earlier resolved prepared imports
  obtain ⟨isGoal, unmarked⟩ := root_of_resolveWithin resolved prepared
  have coherent := (coherent_of_resolveWithin resolved prepared).1
  exact ⟨blueprint, laid,
    Blueprint.sharesConstruction_of_layOut coherent isGoal unmarked laidOut⟩

/-- A value and a pointer to it are constructed once, in front of both that need it. -/
theorem ofTree_sharesConstruction_pointers :
    Pointers.setting.lookup.FindsNoGoal ∧
      ∃ root blueprint,
        (resolveWithin 4 Pointers.setting Diamond.goal
          (Memory.after Pointers.setting [])).1 = .ok root ∧
        Blueprint.ofTree root ImportTable.empty = .ok blueprint ∧
        blueprint.SharesConstruction root ∧
        root.completions = ["\"p\".C", "\"p\".B", "\"p\".C", "\"p\".A"] ∧
        Statement.builtIdentities blueprint.statements =
          ["\"p\".C", "\"p\".B", "\"p\".A"] := by
  have noGoals : Pointers.setting.lookup.FindsNoGoal :=
    LookupTable.lookup_findsNoGoal (by simp [Pointers.table, Diamond.make])
  obtain ⟨root, resolved, completions⟩ :
      ∃ root,
        (resolveWithin 4 Pointers.setting Diamond.goal
          (Memory.after Pointers.setting [])).1 = .ok root ∧
        root.completions = ["\"p\".C", "\"p\".B", "\"p\".C", "\"p\".A"] :=
    ⟨_, rfl, by decide⟩
  obtain ⟨blueprint, laid, shares⟩ :=
    ofTree_sharesConstruction noGoals [] resolved (.inl rfl) ImportTable.empty
  refine ⟨noGoals, root, blueprint, resolved, laid, shares, completions, ?_⟩
  rw [shares.inOrder, completions]
  decide

end Resolution

end Wiring
