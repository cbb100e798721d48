import Wiring.Proofs.Coherence
import Wiring.Proofs.Tracing

namespace Wiring

/-!
# The order of visits

The layout comes to the nodes of a tree in a fixed order: it is done with a
supplied node when it meets it, and with a constructed node behind its children.
What a draft has for an identity, a parameter or a remembered value, it has from the
first node of this identity. A later node adds nothing, because coherent nodes have
the same children, and so all that stands below it has been visited before.
-/

namespace Tree

mutual

/-- The nodes in the order in which the layout is done with them; it looks below no supplied one. -/
def visits : Tree → List Tree
  | .node type origin hoist children =>
      (if (Tree.node type origin hoist children).isSupplied then [] else visitsOfEach children)
        ++ [.node type origin hoist children]

/-- The nodes of a list of trees in the order in which the layout is done with them. -/
def visitsOfEach : List Tree → List Tree
  | [] => []
  | tree :: rest => visits tree ++ visitsOfEach rest

end

/-- Nothing is visited below a supplied node. -/
theorem visits_of_supplied
    {tree : Tree}
    (supplied : tree.isSupplied = true) :
    tree.visits = [tree] := by
  cases tree
  simp only [visits, supplied, if_true, List.nil_append]

/-- A constructed node is visited behind its children. -/
theorem visits_of_constructed
    {tree : Tree}
    (constructed : tree.isSupplied = false) :
    tree.visits = visitsOfEach tree.children ++ [tree] := by
  cases tree
  simp only [visits, constructed, Bool.false_eq_true, if_false, children_node]

/-- The trees of a list are visited one after the other. -/
theorem visitsOfEach_eq_flatMap
    (trees : List Tree) :
    visitsOfEach trees = trees.flatMap visits := by
  induction trees with
  | nil =>
      rfl
  | cons tree rest inductionHypothesis =>
      rw [visitsOfEach, inductionHypothesis, List.flatMap_cons]

/-- Visited are the nodes that a tree exposes. -/
theorem mem_visits_iff
    {tree node : Tree} :
    node ∈ tree.visits ↔ tree.Exposes node := by
  constructor
  · intro member
    induction tree with
    | node type origin hoist children inductionHypothesis =>
        cases supplied : (Tree.node type origin hoist children).isSupplied with
        | true =>
            rw [visits_of_supplied supplied] at member
            exact List.mem_singleton.mp member ▸ .self _
        | false =>
            rw [visits_of_constructed supplied, visitsOfEach_eq_flatMap] at member
            rcases List.mem_append.mp member with below | isSelf
            · obtain ⟨child, listed, inChild⟩ := List.mem_flatMap.mp below
              exact .under supplied listed (inductionHypothesis child listed inChild)
            · exact List.mem_singleton.mp isSelf ▸ .self _
  · intro exposes
    induction exposes with
    | self tree =>
        cases tree
        exact List.mem_append_right _ List.mem_cons_self
    | @under tree child node constructed member exposes inductionHypothesis =>
        rw [visits_of_constructed constructed, visitsOfEach_eq_flatMap]
        exact List.mem_append_left _ (List.mem_flatMap.mpr ⟨child, member, inductionHypothesis⟩)

/-- Visited below a root are the nodes that the layout can come to. -/
theorem mem_visitsOfEach_children_iff
    {root node : Tree} :
    node ∈ visitsOfEach root.children ↔ root.Exposed node := by
  simp only [visitsOfEach_eq_flatMap, List.mem_flatMap, mem_visits_iff]
  rfl

/-- The first of some nodes that is supplied, or that is not, and has an identity. -/
def firstOf?
    (nodes : List Tree)
    (supplied : Bool)
    (identity : String) :
    Option Tree :=
  nodes.find? fun node => node.isSupplied == supplied && node.identity == identity

/-- The node of an identity that the layout visits first, of the supplied or of the others. -/
def firstVisited?
    (root : Tree)
    (supplied : Bool)
    (identity : String) :
    Option Tree :=
  firstOf? (visitsOfEach root.children) supplied identity

section First

variable {nodes more : List Tree} {node tree : Tree} {supplied : Bool} {identity : String}

/-- The first node is one of the nodes, and of the kind and the identity that it is the first of. -/
theorem of_firstOf?
    (isFirst : firstOf? nodes supplied identity = some node) :
    node ∈ nodes ∧ node.isSupplied = supplied ∧ node.identity = identity := by
  refine ⟨List.mem_of_find?_eq_some isFirst, ?_⟩
  simpa using List.find?_some isFirst

/-- The first node stays the first when nodes are added behind. -/
theorem firstOf?_of_prefix
    (leads : nodes <+: more)
    (isFirst : firstOf? nodes supplied identity = some node) :
    firstOf? more supplied identity = some node := by
  obtain ⟨after, rfl⟩ := leads
  rw [firstOf?, List.find?_append, ← firstOf?, isFirst, Option.some_or]

/-- A node is the first of its kind and identity if none of the nodes before is. -/
theorem firstOf?_concat
    (new :
      ∀ node ∈ nodes, node.isSupplied = tree.isSupplied → node.identity ≠ tree.identity) :
    firstOf? (nodes ++ [tree]) tree.isSupplied tree.identity = some tree := by
  have absent :
      nodes.find? (fun node =>
          node.isSupplied == tree.isSupplied && node.identity == tree.identity) =
        none := by
    refine List.find?_eq_none.mpr fun node member same => ?_
    simp only [Bool.and_eq_true, beq_iff_eq] at same
    exact new node member same.1 same.2
  rw [firstOf?, List.find?_append, absent, Option.none_or, List.find?_singleton,
    if_pos (by simp)]

/-- The node that is visited first is exposed. -/
theorem exposed_of_firstVisited?
    {root : Tree}
    (isFirst : root.firstVisited? supplied identity = some node) :
    root.Exposed node ∧ node.isSupplied = supplied ∧ node.identity = identity := by
  obtain ⟨member, same⟩ := of_firstOf? isFirst
  exact ⟨mem_visitsOfEach_children_iff.mp member, same⟩

end First

end Tree

/-- A draft has a parameter for a supplied node, and remembers a value for any other. -/
def Draft.Has
    (draft : Draft)
    (node : Tree) : Prop :=
  if node.isSupplied then
    ∃ parameter, draft.parameter? node.identity = some parameter
  else
    ∃ value, draft.built.get? node.identity = some value

namespace Draft

variable {draft : Draft} {node : Tree}

/-- A draft has a supplied node if it has a parameter for it. -/
theorem has_of_supplied
    (supplied : node.isSupplied = true) :
    draft.Has node ↔ ∃ parameter, draft.parameter? node.identity = some parameter := by
  rw [Has, if_pos supplied]

/-- A draft has a constructed node if it remembers a value for it. -/
theorem has_of_constructed
    (constructed : node.isSupplied = false) :
    draft.Has node ↔ ∃ value, draft.built.get? node.identity = some value := by
  rw [Has, if_neg (by simp [constructed])]

/-- A new parameter is found behind the others. -/
theorem parameter?_addParameter
    (draft : Draft)
    (parameter : Blueprint.Parameter)
    (identity : String) :
    (draft.addParameter parameter).parameter? identity =
      (draft.parameter? identity).or
        (if parameter.value.identity = identity then some parameter else none) := by
  simp [parameter?, List.find?_append, List.find?_singleton]

/-- What a draft has it has behind a new parameter. -/
theorem Has.addParameter
    (has : draft.Has node)
    (parameter : Blueprint.Parameter) :
    (draft.addParameter parameter).Has node := by
  cases supplied : node.isSupplied with
  | true =>
      rw [has_of_supplied supplied] at has ⊢
      obtain ⟨known, found⟩ := has
      exact ⟨known, by rw [parameter?_addParameter, found, Option.some_or]⟩
  | false =>
      rw [has_of_constructed supplied] at has ⊢
      exact has

/-- What a draft has it has behind new statements and a new remembered value. -/
theorem Has.build
    (has : draft.Has node)
    (statements : List Statement)
    (identity : String)
    (value : Value) :
    ((draft.addStatements statements).remember identity value).Has node := by
  cases supplied : node.isSupplied with
  | true =>
      rw [has_of_supplied supplied] at has ⊢
      exact has
  | false =>
      rw [has_of_constructed supplied] at has ⊢
      obtain ⟨known, found⟩ := has
      rw [get?_built_remember]
      split
      · exact ⟨value, rfl⟩
      · exact ⟨known, found⟩

end Draft

/-- A supplied node exposes itself alone. -/
theorem Tree.Exposes.eq_of_supplied
    {tree node : Tree}
    (exposes : tree.Exposes node)
    (supplied : tree.isSupplied = true) :
    node = tree := by
  cases exposes with
  | self =>
      rfl
  | under constructed =>
      rw [supplied] at constructed
      cases constructed

namespace Scope

section Recording

variable (scope : Scope) (zeros : List ZeroValue) (root : Tree)
  (made : List Statement → Tree → Value → Prop)
  (noted : List Statement → Statement → Prop)

/--
The value that the layout gives for a node.

It is the parameter of the first supplied node of the identity, or what was made for
the first constructed one.
-/
inductive Gives (statements : List Statement) : Tree → Value → Prop where
  | received
      {node first : Tree}
      {parameter : Blueprint.Parameter}
      (supplied : node.isSupplied = true)
      (isFirst : root.firstVisited? true node.identity = some first)
      (receives : scope.Receives first parameter)
      (unreserved : parameter.value.name ∉ Identifier.reserved) :
      Gives statements node parameter.value
  | built
      {node first : Tree}
      {value : Value}
      (constructed : node.isSupplied = false)
      (isFirst : root.firstVisited? false node.identity = some first)
      (isMade : made statements first value) :
      Gives statements node value

/--
What can be recorded of values that are made for nodes, and of statements.

It stays true when statements are added, and it is true of what carries out the recipe
of a node with the values that are given for its children.
-/
structure Records : Prop where
  made_mono :
    ∀ {statements more node value},
      statements ⊆ more → made statements node value → made more node value
  noted_mono :
    ∀ {statements more statement},
      statements ⊆ more → noted statements statement → noted more statement
  carried :
    ∀ {node recipe draft inputs value statements},
      root.Exposed node →
      node.isSupplied = false →
      node.origin = .recipe recipe →
      List.Forall₂ (scope.Gives root made draft.statements) node.children inputs →
      scope.Carries zeros node.type draft recipe inputs value statements →
      made (draft.statements ++ statements) node value ∧
        ∀ statement ∈ statements, noted (draft.statements ++ statements) statement

/-- A draft behind the nodes that the layout is done with, each of which it has from the first. -/
structure Visited
    (before : List Tree)
    (draft : Draft) : Prop where
  visited : before <+: Tree.visitsOfEach root.children
  has : ∀ node ∈ before, ∀ below, node.Exposes below → draft.Has below
  received :
    ∀ parameter ∈ draft.parameters,
      ∃ first,
        Tree.firstOf? before true parameter.value.identity = some first ∧
          scope.Receives first parameter ∧
          parameter.value.name ∉ Identifier.reserved
  built :
    ∀ identity value,
      draft.built.get? identity = some value →
      ∃ first,
        Tree.firstOf? before false identity = some first ∧ made draft.statements first value
  noted : ∀ statement ∈ draft.statements, noted draft.statements statement

end Recording

variable {scope : Scope} {zeros : List ZeroValue} {root tree : Tree}
  {made : List Statement → Tree → Value → Prop} {noted : List Statement → Statement → Prop}
  {before : List Tree} {draft later : Draft} {value : Value} {statements more : List Statement}

/-- What is given stays given when statements are added. -/
theorem Gives.mono
    (records : scope.Records zeros root made noted)
    (grows : statements ⊆ more)
    (gives : scope.Gives root made statements tree value) :
    scope.Gives root made more tree value := by
  cases gives with
  | received supplied isFirst receives unreserved =>
      exact .received supplied isFirst receives unreserved
  | built constructed isFirst isMade =>
      exact .built constructed isFirst (records.made_mono grows isMade)

namespace Visited

/-- Nothing is visited at first. -/
theorem empty :
    scope.Visited root made noted [] Draft.empty where
  visited := List.nil_prefix
  has := by simp
  received := by simp [Draft.empty]
  built := by simp [Draft.empty]
  noted := by simp [Draft.empty]

/-- A parameter is what the layout gives for a supplied node. -/
theorem gives_parameter
    (visited : scope.Visited root made noted before draft)
    (supplied : tree.isSupplied = true)
    {parameter : Blueprint.Parameter}
    (found : draft.parameter? tree.identity = some parameter) :
    scope.Gives root made draft.statements tree parameter.value := by
  have same : parameter.value.identity = tree.identity := by
    simpa using List.find?_some found
  obtain ⟨first, isFirst, receives, unreserved⟩ :=
    visited.received parameter (List.mem_of_find?_eq_some found)
  rw [same] at isFirst
  exact .received supplied (Tree.firstOf?_of_prefix visited.visited isFirst) receives unreserved

/-- What is remembered is what the layout gives for a constructed node. -/
theorem gives_built
    (visited : scope.Visited root made noted before draft)
    (constructed : tree.isSupplied = false)
    (found : draft.built.get? tree.identity = some value) :
    scope.Gives root made draft.statements tree value := by
  obtain ⟨first, isFirst, isMade⟩ := visited.built _ value found
  exact .built constructed (Tree.firstOf?_of_prefix visited.visited isFirst) isMade

/-- A draft has all that a constructed node exposes whose identity it remembers. -/
theorem has_of_built
    (coherent : root.Coherent)
    (visited : scope.Visited root made noted before draft)
    (exposed : root.Exposed tree)
    (constructed : tree.isSupplied = false)
    (found : draft.built.get? tree.identity = some value)
    {node : Tree}
    (exposes : tree.Exposes node) :
    draft.Has node := by
  cases exposes with
  | self =>
      exact (Draft.has_of_constructed constructed).mpr ⟨value, found⟩
  | under _ member exposes =>
      obtain ⟨first, isFirst, -⟩ := visited.built _ value found
      obtain ⟨firstMember, firstConstructed, same⟩ := Tree.of_firstOf? isFirst
      have firstExposed : root.Exposed first :=
        Tree.mem_visitsOfEach_children_iff.mp (visited.visited.subset firstMember)
      -- The first node of the identity has brought in all that stands below this one.
      have sameChildren :=
        (coherent.shared firstExposed exposed firstConstructed constructed same).2
      exact visited.has first firstMember node
        (.under firstConstructed (sameChildren ▸ member) exposes)

/-- The layout is done at once with a tree if the draft has all that the tree exposes. -/
theorem again
    (visited : scope.Visited root made noted before draft)
    (prefixed : before ++ tree.visits <+: Tree.visitsOfEach root.children)
    (has : ∀ node, tree.Exposes node → draft.Has node) :
    scope.Visited root made noted (before ++ tree.visits) draft where
  visited := prefixed
  has := by
    intro node member below exposes
    rcases List.mem_append.mp member with known | isNew
    · exact visited.has node known below exposes
    · exact has below ((Tree.mem_visits_iff.mp isNew).trans exposes)
  received := by
    intro parameter listed
    obtain ⟨first, isFirst, receives⟩ := visited.received parameter listed
    exact ⟨first, Tree.firstOf?_of_prefix (List.prefix_append _ _) isFirst, receives⟩
  built := by
    intro identity value found
    obtain ⟨first, isFirst, isMade⟩ := visited.built identity value found
    exact ⟨first, Tree.firstOf?_of_prefix (List.prefix_append _ _) isFirst, isMade⟩
  noted := visited.noted

/-- A supplied node for which there is no parameter is received as a new one. -/
theorem receive
    (visited : scope.Visited root made noted before draft)
    (prefixed : before ++ tree.visits <+: Tree.visitsOfEach root.children)
    (supplied : tree.isSupplied = true)
    (absent : draft.parameter? tree.identity = none)
    {parameter : Blueprint.Parameter}
    (receives : scope.Receives tree parameter)
    (unreserved : parameter.value.name ∉ Identifier.reserved) :
    scope.Visited root made noted (before ++ tree.visits) (draft.addParameter parameter) := by
  have same : parameter.value.identity = tree.identity := by
    rw [Value.identity, receives.type, Tree.identity]
  have new :
      ∀ node ∈ before, node.isSupplied = tree.isSupplied → node.identity ≠ tree.identity := by
    intro node member sameSupply sameIdentity
    have has := visited.has node member node (.self _)
    obtain ⟨known, found⟩ := (Draft.has_of_supplied (sameSupply.trans supplied)).mp has
    rw [sameIdentity, absent] at found
    cases found
  rw [Tree.visits_of_supplied supplied] at prefixed ⊢
  exact {
    visited := prefixed
    has := by
      intro node member below exposes
      rcases List.mem_append.mp member with known | isNew
      · exact (visited.has node known below exposes).addParameter parameter
      · obtain rfl := List.mem_singleton.mp isNew
        obtain rfl := exposes.eq_of_supplied supplied
        refine (Draft.has_of_supplied supplied).mpr ⟨parameter, ?_⟩
        rw [Draft.parameter?_addParameter, absent, Option.none_or, if_pos same]
    received := by
      intro other listed
      rcases List.mem_append.mp listed with known | isNew
      · obtain ⟨first, isFirst, received⟩ := visited.received other known
        exact ⟨first, Tree.firstOf?_of_prefix (List.prefix_append _ _) isFirst, received⟩
      · obtain rfl := List.mem_singleton.mp isNew
        refine ⟨tree, ?_, receives, unreserved⟩
        rw [same, ← supplied]
        exact Tree.firstOf?_concat new
    built := by
      intro identity value found
      obtain ⟨first, isFirst, isMade⟩ := visited.built identity value found
      exact ⟨first, Tree.firstOf?_of_prefix (List.prefix_append _ _) isFirst, isMade⟩
    noted := visited.noted }

/-- A node behind its children is made by carrying out its recipe. -/
theorem build
    (records : scope.Records zeros root made noted)
    (visited : scope.Visited root made noted before draft)
    (prefixed : before ++ [tree] <+: Tree.visitsOfEach root.children)
    (inside : ∀ node ∈ Tree.visitsOfEach tree.children, node ∈ before)
    (new : ∀ node ∈ before, node.isSupplied = false → node.identity ≠ tree.identity)
    (constructed : tree.isSupplied = false)
    (isMade : made (draft.statements ++ statements) tree value)
    (isNoted : ∀ statement ∈ statements, noted (draft.statements ++ statements) statement) :
    scope.Visited root made noted (before ++ [tree])
      ((draft.addStatements statements).remember tree.identity value) := by
  have grown : draft.statements ⊆ draft.statements ++ statements :=
    List.subset_append_left _ _
  have kept (node : Tree) (has : draft.Has node) :
      ((draft.addStatements statements).remember tree.identity value).Has node :=
    has.build statements tree.identity value
  exact {
    visited := prefixed
    has := by
      intro node member below exposes
      rcases List.mem_append.mp member with known | isNew
      · exact kept below (visited.has node known below exposes)
      · obtain rfl := List.mem_singleton.mp isNew
        cases exposes with
        | self =>
            refine (Draft.has_of_constructed constructed).mpr ⟨value, ?_⟩
            rw [Draft.get?_built_remember, if_pos rfl]
        | under _ listed exposes =>
            refine kept below (visited.has below (inside below ?_) below (.self _))
            rw [Tree.visitsOfEach_eq_flatMap]
            exact List.mem_flatMap.mpr ⟨_, listed, Tree.mem_visits_iff.mpr exposes⟩
    received := by
      intro parameter listed
      obtain ⟨first, isFirst, receives⟩ := visited.received parameter listed
      exact ⟨first, Tree.firstOf?_of_prefix (List.prefix_append _ _) isFirst, receives⟩
    built := by
      intro identity known found
      rw [Draft.get?_built_remember] at found
      split at found
      · rename_i same
        cases found
        refine ⟨tree, ?_, isMade⟩
        rw [← same, ← constructed]
        exact Tree.firstOf?_concat fun node member sameSupply =>
          new node member (sameSupply.trans constructed)
      · obtain ⟨first, isFirst, madeBefore⟩ := visited.built identity known found
        exact ⟨first, Tree.firstOf?_of_prefix (List.prefix_append _ _) isFirst,
          records.made_mono grown madeBefore⟩
    noted := by
      intro statement member
      rcases List.mem_append.mp member with known | isNew
      · exact records.noted_mono grown (visited.noted statement known)
      · exact isNoted statement isNew }

end Visited

/-- Laying out a list of trees visits the list's nodes, if each tree's layout visits its own. -/
theorem layEach_visited
    (records : scope.Records zeros root made noted)
    {constructing : List String}
    {trees : List Tree}
    (each :
      ∀ tree ∈ trees, ∀ {before : List Tree} {draft later : Draft} {value : Value},
        before ++ tree.visits <+: Tree.visitsOfEach root.children →
        scope.Visited root made noted before draft →
        scope.layTree zeros constructing tree draft = .ok (value, later) →
        scope.Visited root made noted (before ++ tree.visits) later ∧
          draft.statements ⊆ later.statements ∧
          scope.Gives root made later.statements tree value)
    {values : List Value}
    (prefixed : before ++ Tree.visitsOfEach trees <+: Tree.visitsOfEach root.children)
    (visited : scope.Visited root made noted before draft)
    (laid : scope.layEach zeros constructing trees draft = .ok (values, later)) :
    scope.Visited root made noted (before ++ Tree.visitsOfEach trees) later ∧
      draft.statements ⊆ later.statements ∧
      List.Forall₂ (scope.Gives root made later.statements) trees values := by
  induction trees generalizing before draft values with
  | nil =>
      cases laid
      exact ⟨by rwa [Tree.visitsOfEach, List.append_nil], List.Subset.refl _, .nil⟩
  | cons tree rest inductionHypothesis =>
      obtain ⟨value, middle, others, first, remaining, rfl⟩ := layEach_cons_ok laid
      rw [Tree.visitsOfEach, ← List.append_assoc] at prefixed ⊢
      obtain ⟨middleVisited, firstGrows, given⟩ :=
        each tree List.mem_cons_self ((List.prefix_append _ _).trans prefixed) visited first
      obtain ⟨laterVisited, restGrows, othersGiven⟩ :=
        inductionHypothesis
          (fun other member => each other (List.mem_cons_of_mem tree member))
          prefixed middleVisited remaining
      exact ⟨laterVisited, List.Subset.trans firstGrows restGrows,
        .cons (given.mono records restGrows) othersGiven⟩

/-- Laying out a tree visits its nodes, and gives a value for it. -/
theorem layTree_visited
    (coherent : root.Coherent)
    (records : scope.Records zeros root made noted)
    (tree : Tree)
    (exposed : root.Exposed tree)
    {constructing : List String}
    (prefixed : before ++ tree.visits <+: Tree.visitsOfEach root.children)
    (visited : scope.Visited root made noted before draft)
    (laid : scope.layTree zeros constructing tree draft = .ok (value, later)) :
    scope.Visited root made noted (before ++ tree.visits) later ∧
      draft.statements ⊆ later.statements ∧
      scope.Gives root made later.statements tree value := by
  induction tree generalizing constructing before draft value later with
  | node type origin hoist children inductionHypothesis =>
      rcases layTree_ok_cases laid with
        ⟨supplied, parameter, found, rfl, rfl⟩ |
        ⟨supplied, absent, received⟩ |
        ⟨constructed, found, rfl⟩ |
        ⟨constructed, absent, recipe, inputs, middle, last,
          isRecipe, below, carried, rfl⟩
      · have has := (Draft.has_of_supplied supplied).mpr ⟨parameter, found⟩
        refine ⟨visited.again prefixed fun node exposes => ?_, List.Subset.refl _,
          visited.gives_parameter supplied found⟩
        exact exposes.eq_of_supplied supplied ▸ has
      · obtain ⟨parameter, receives, rfl, rfl⟩ := receives_of_layParameter supplied received
        have unreserved := (not_mem_of_fresh (layParameter_ok received).1).1
        have visitedNow := visited.receive prefixed supplied absent receives unreserved
        refine ⟨visitedNow, List.Subset.refl _, visitedNow.gives_parameter supplied ?_⟩
        rw [Draft.parameter?_addParameter, absent, Option.none_or,
          if_pos (by rw [Value.identity, receives.type, Tree.identity])]
      · exact ⟨visited.again prefixed fun node exposes =>
            visited.has_of_built coherent exposed constructed found exposes,
          List.Subset.refl _, visited.gives_built constructed found⟩
      · rw [Tree.visits_of_constructed constructed, ← List.append_assoc] at prefixed ⊢
        obtain ⟨middleVisited, grows, given⟩ :=
          layEach_visited records
            (fun child member _ _ _ _ prefixed visited laidChild =>
              inductionHypothesis child member (exposed.child constructed member)
                prefixed visited laidChild)
            ((List.prefix_append _ _).trans prefixed) visited below
        obtain ⟨statements, carries, rfl⟩ := layRecipe_ok_iff.mp carried
        obtain ⟨isMade, isNoted⟩ := records.carried exposed constructed isRecipe given carries
        have new :
            ∀ node ∈ before ++ Tree.visitsOfEach children,
              node.isSupplied = false →
              node.identity ≠ (Tree.node type origin hoist children).identity := by
          intro node member nodeConstructed same
          rcases List.mem_append.mp member with earlier | inChildren
          · obtain ⟨known, found⟩ :=
              (Draft.has_of_constructed nodeConstructed).mp
                (visited.has node earlier node (.self _))
            rw [same, absent] at found
            cases found
          · rw [Tree.visitsOfEach_eq_flatMap] at inChildren
            obtain ⟨child, listed, inChild⟩ := List.mem_flatMap.mp inChildren
            exact coherent.identity_ne_of_exposes exposed constructed listed
              (Tree.mem_visits_iff.mp inChild) nodeConstructed same
        have visitedNow :=
          middleVisited.build records prefixed
            (fun node inChildren => List.mem_append_right _ inChildren) new constructed
            isMade isNoted
        refine ⟨visitedNow, List.Subset.trans grows (List.subset_append_left _ _),
          visitedNow.gives_built constructed ?_⟩
        rw [Draft.get?_built_remember, if_pos rfl]

/--
Laying out the children of a coherent root visits all nodes that it exposes.

Every parameter receives the first supplied node of its identity, every statement is
noted, and every child is given its value.
-/
theorem layChildren_visited
    (coherent : root.Coherent)
    (records : scope.Records zeros root made noted)
    {values : List Value}
    (laid : scope.layEach zeros [] root.children Draft.empty = .ok (values, draft)) :
    scope.Visited root made noted (Tree.visitsOfEach root.children) draft ∧
      List.Forall₂ (scope.Gives root made draft.statements) root.children values := by
  obtain ⟨visited, -, given⟩ :=
    layEach_visited records
      (fun child member _ _ _ _ prefixed visited laidChild =>
        layTree_visited coherent records child ⟨child, member, .self child⟩ prefixed visited
          laidChild)
      (List.prefix_refl _) Visited.empty laid
  exact ⟨visited, given⟩

end Scope

namespace Blueprint

/-- Nothing need be recorded to know what is received. -/
theorem records_nothing
    (scope : Scope)
    (zeros : List ZeroValue)
    (root : Tree) :
    scope.Records zeros root (fun _ _ _ => True) (fun _ _ => True) :=
  ⟨fun _ _ => trivial, fun _ _ => trivial, fun _ _ _ _ _ => ⟨trivial, fun _ _ => trivial⟩⟩

/-- The parameter of an identity has the type and the mark of the supplied node visited first. -/
theorem exists_parameter_iff
    {goal : Goal}
    {imports : ImportTable}
    {root : Tree}
    (coherent : root.Coherent)
    {blueprint : Blueprint}
    (laid : layOut goal imports root = .ok blueprint)
    (identity : String)
    (holds : NamedType → Bool → Prop) :
    (∃ parameter ∈ blueprint.parameters,
        parameter.value.identity = identity ∧
          holds parameter.value.type parameter.hoisted) ↔
      ∃ first,
        root.firstVisited? true identity = some first ∧ holds first.type first.hoist := by
  obtain ⟨zeros, results, draft, types, _, laidEach, _, rfl⟩ := layOut_eq_ok_iff.mp laid
  obtain ⟨visited, -⟩ :=
    Scope.layChildren_visited coherent
      (records_nothing (Scope.ofTree goal imports root) zeros root) laidEach
  have listed_iff (parameter : Parameter) :
      parameter ∈ (assembled (Scope.ofTree goal imports root) results types draft).parameters ↔
        parameter ∈ draft.parameters :=
    (List.mergeSort_perm _ _).mem_iff
  simp only [listed_iff]
  constructor
  · rintro ⟨parameter, listed, rfl, isHeld⟩
    obtain ⟨first, isFirst, receives, -⟩ := visited.received parameter listed
    rw [receives.type, receives.hoisted] at isHeld
    exact ⟨first, isFirst, isHeld⟩
  · rintro ⟨first, isFirst, isHeld⟩
    obtain ⟨member, supplied, same⟩ := Tree.of_firstOf? isFirst
    obtain ⟨parameter, found⟩ :=
      (Draft.has_of_supplied supplied).mp (visited.has first member first (.self _))
    have listed := List.mem_of_find?_eq_some found
    have sameIdentity : parameter.value.identity = identity := by
      simpa [same] using List.find?_some found
    obtain ⟨other, isFirstToo, receives, -⟩ := visited.received parameter listed
    rw [sameIdentity] at isFirstToo
    cases isFirst.symm.trans isFirstToo
    rw [← receives.type, ← receives.hoisted] at isHeld
    exact ⟨parameter, listed, sameIdentity, isHeld⟩

end Blueprint

end Wiring
