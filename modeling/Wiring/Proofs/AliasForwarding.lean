import Wiring.Proofs.Visits
import Wiring.Proofs.WellTyped

namespace Wiring

/-!
# Values forwarded through aliases

An alias adds no statement: it passes on the variable of the type that it stands
for. The value is recorded under the type of the node that asked for it first, with
the pointer mark of this node and not that of the variable. A later use is therefore
adjusted from the mark of the first node to its own, and fits the variable exactly
if the first node asked for it as the call returned it.
-/

namespace Tree

mutual

/-- The constructed nodes as a walk completes them, children first and not below supplied nodes. -/
def walk : Tree → List Tree
  | .node type origin hoist children =>
      if (Tree.node type origin hoist children).isSupplied then
        []
      else
        walkOfEach children ++ [.node type origin hoist children]

/-- The constructed nodes of a list of trees as a walk completes them. -/
def walkOfEach : List Tree → List Tree
  | [] => []
  | tree :: rest => walk tree ++ walkOfEach rest

end

/-- A walk over a list completes the constructed nodes among the visited ones, if each walk does. -/
theorem walkOfEach_eq_filter
    {trees : List Tree}
    (each : ∀ tree ∈ trees, tree.walk = tree.visits.filter fun node => !node.isSupplied) :
    walkOfEach trees = (visitsOfEach trees).filter fun node => !node.isSupplied := by
  induction trees with
  | nil =>
      rfl
  | cons tree rest inductionHypothesis =>
      rw [walkOfEach, visitsOfEach, List.filter_append, each tree List.mem_cons_self,
        inductionHypothesis fun other member => each other (List.mem_cons_of_mem tree member)]

/-- A walk completes the constructed nodes among the visited ones. -/
theorem walk_eq_filter
    (tree : Tree) :
    tree.walk = tree.visits.filter fun node => !node.isSupplied := by
  induction tree with
  | node type origin hoist children inductionHypothesis =>
      cases supplied : (Tree.node type origin hoist children).isSupplied with
      | true =>
          simp [walk, visits, supplied]
      | false =>
          simp [walk, visits, supplied, walkOfEach_eq_filter inductionHypothesis]

/-- What a walk completes first for an identity is the constructed node visited first. -/
theorem find?_walkOfEach
    (root : Tree)
    (identity : String) :
    (walkOfEach root.children).find? (fun node => node.identity == identity) =
      root.firstVisited? false identity := by
  rw [walkOfEach_eq_filter fun tree _ => walk_eq_filter tree, List.find?_filter, firstVisited?,
    firstOf?]
  congr 1
  funext node
  rw [Bool.eq_iff_iff]
  simp

/-- A node is made by a call, directly or through aliases. -/
inductive Leads : Tree → Constructor → Prop where
  | call
      {tree : Tree}
      {function : Constructor}
      (constructed : tree.isSupplied = false)
      (isCall : tree.origin = .recipe (.call function)) :
      Leads tree function
  | forward
      {tree child : Tree}
      {synonym : TypeAlias}
      {function : Constructor}
      (constructed : tree.isSupplied = false)
      (isAlias : tree.origin = .recipe (.forward synonym))
      (onlyChild : tree.children = [child])
      (leads : Leads child function) :
      Leads tree function

/-- A node that leads to a call is constructed. -/
theorem Leads.constructed
    {tree : Tree}
    {function : Constructor}
    (leads : tree.Leads function) :
    tree.isSupplied = false := by
  cases leads <;> assumption

/-- A node follows aliases, at least one, to a call. -/
structure Follows
    (tree : Tree)
    (function : Constructor) : Prop where
  leads : tree.Leads function
  isAlias : ∃ synonym, tree.origin = .recipe (.forward synonym)

/-- Nodes of one identity have the same origin, the same mark and the same children. -/
structure Alike (root : Tree) : Prop where
  shared :
    ∀ {node other},
      root.Exposed node →
      root.Exposed other →
      node.identity = other.identity →
      node.origin = other.origin ∧ node.hoist = other.hoist ∧ node.children = other.children

namespace Alike

variable {root node other : Tree}

/-- Nodes of one identity are supplied alike. -/
theorem isSupplied_eq
    (alike : root.Alike)
    (exposed : root.Exposed node)
    (otherExposed : root.Exposed other)
    (same : node.identity = other.identity) :
    node.isSupplied = other.isSupplied := by
  obtain ⟨sameOrigin, sameMark, -⟩ := alike.shared exposed otherExposed same
  rw [isSupplied, isSupplied, isExternal, isExternal, sameOrigin, sameMark]

/-- Nodes of one identity lead to the same calls. -/
theorem leads
    (alike : root.Alike)
    (exposed : root.Exposed node)
    (otherExposed : root.Exposed other)
    (same : node.identity = other.identity)
    {function : Constructor}
    (leads : node.Leads function) :
    other.Leads function := by
  obtain ⟨sameOrigin, -, sameChildren⟩ := alike.shared exposed otherExposed same
  have sameSupply := alike.isSupplied_eq exposed otherExposed same
  cases leads with
  | call constructed isCall =>
      exact .call (sameSupply ▸ constructed) (sameOrigin ▸ isCall)
  | forward constructed isAlias onlyChild leads =>
      exact .forward (sameSupply ▸ constructed) (sameOrigin ▸ isAlias)
        (sameChildren ▸ onlyChild) leads

end Alike

end Tree

/-- Some call of a function binds a name. -/
def Statement.BindsCall
    (statements : List Statement)
    (function : Constructor)
    (name : String) : Prop :=
  ∃ identity callee arguments,
    Statement.call identity function callee name arguments ∈ statements

/--
The operand has the operator that adjusts one pointer level to another.

There is none if the levels agree. Otherwise the address is taken where a pointer
is wanted, and a pointer is followed where a value is wanted.
-/
def Operand.Coerces
    (held wanted : Bool)
    (operand : Operand) : Prop :=
  operand.adjustment.operator =
    if held = wanted then "" else if wanted then "&" else "*"

/-- An operand adjusts only one level to the wanted one. -/
theorem Operand.Coerces.iff_eq
    {held wanted : Bool}
    {operand : Operand}
    (coerces : operand.Coerces held wanted)
    (other : Bool) :
    operand.Coerces other wanted ↔ held = other := by
  unfold Coerces at coerces ⊢
  rw [coerces]
  cases held <;> cases other <;> cases wanted <;> decide

/--
A type asks for a value through aliases.

It is no interface, no need replaces its identity, and a node of its identity
follows aliases to a call of the function.
-/
structure Resolution.Forwarded
    (setting : Setting)
    (root : Tree)
    (type : NamedType)
    (function : Constructor) : Prop where
  notInterface : type.kind ≠ .interface
  notReplaced : setting.substitutions.get? type.identity = none
  follows : ∃ node, root.Exposed node ∧ node.identity = type.identity ∧ node.Follows function

/--
An operand passes what a call of the function returned, adjusted from the pointer
mark of the node of the type's identity that is completed first.

It is adjusted from the pointer level of the call's result exactly if the two agree.
-/
def Operand.PassesForwarded
    (statements : List Statement)
    (setting : Resolution.Setting)
    (root : Tree)
    (type : NamedType)
    (operand : Operand) : Prop :=
  ∀ function,
    Resolution.Forwarded setting root type function →
    ∃ first,
      (Tree.walkOfEach root.children).find? (fun node => node.identity == type.identity) =
          some first ∧
        Statement.BindsCall statements function operand.name ∧
        operand.Coerces first.type.pointer type.pointer ∧
        (operand.Coerces function.output.pointer type.pointer ↔
          first.type.pointer = function.output.pointer)

/-- What a statement passes for the parameters and fields that ask through aliases. -/
def Statement.PassesForwarded
    (statements : List Statement)
    (setting : Resolution.Setting)
    (root : Tree) : Statement → Prop
  | .call _ function _ _ arguments =>
      List.Forall₂ (fun param argument => argument.PassesForwarded statements setting root param)
        function.params arguments
  | .literal _ record _ _ fields =>
      List.Forall₂
        (fun (field : Field) (given : String × Operand) =>
          given.1 = field.name ∧ given.2.PassesForwarded statements setting root field.type)
        record.fields fields
  | .guard _ => True

/--
A value is what a node leads to: the variable of a call, and under an alias the
pointer mark of the node.
-/
structure Value.ForwardedFrom
    (statements : List Statement)
    (node : Tree)
    (value : Value) : Prop where
  bound : ∀ function, node.Leads function → Statement.BindsCall statements function value.name
  marked :
    ∀ synonym,
      node.origin = .recipe (.forward synonym) → value.type.pointer = node.type.pointer

section More

variable {statements more : List Statement} (grows : statements ⊆ more)

include grows

theorem Statement.BindsCall.mono
    {function : Constructor}
    {name : String}
    (binds : BindsCall statements function name) :
    BindsCall more function name := by
  obtain ⟨identity, callee, arguments, member⟩ := binds
  exact ⟨identity, callee, arguments, grows member⟩

theorem Value.ForwardedFrom.mono
    {node : Tree}
    {value : Value}
    (forwarded : value.ForwardedFrom statements node) :
    value.ForwardedFrom more node :=
  ⟨fun function leads => (forwarded.bound function leads).mono grows, forwarded.marked⟩

theorem Operand.PassesForwarded.mono
    {setting : Resolution.Setting}
    {root : Tree}
    {type : NamedType}
    {operand : Operand}
    (passes : operand.PassesForwarded statements setting root type) :
    operand.PassesForwarded more setting root type := by
  intro function forwarded
  obtain ⟨first, isFirst, binds, coerced⟩ := passes function forwarded
  exact ⟨first, isFirst, binds.mono grows, coerced⟩

theorem Statement.PassesForwarded.mono
    {setting : Resolution.Setting}
    {root : Tree}
    {statement : Statement}
    (passes : statement.PassesForwarded statements setting root) :
    statement.PassesForwarded more setting root := by
  cases statement with
  | call identity function callee name arguments =>
      exact List.Forall₂.imp (fun _ _ each => each.mono grows) passes
  | literal identity record type name fields =>
      exact List.Forall₂.imp (fun _ _ each => ⟨each.1, each.2.mono grows⟩) passes
  | guard zeros =>
      trivial

end More

/--
What is known of the tree of a function that is not hoisted: nodes of one identity
are alike, and children stand for what the recipes need.
-/
structure Resolution.Unhoisted
    (setting : Setting)
    (root : Tree) : Prop where
  alike : root.Alike
  stand :
    ∀ node recipe,
      root.Exposed node →
      node.origin = .recipe recipe →
      List.Forall₂ (StandsFor setting) recipe.needs node.children

namespace Scope

/-- What is recorded of a value is what its node leads to. -/
abbrev recordsForwarded (statements : List Statement) (node : Tree) (value : Value) : Prop :=
  value.ForwardedFrom statements node

variable {scope : Scope} {zeros : List ZeroValue} {setting : Resolution.Setting}
  {root tree : Tree} {draft : Draft} {recipe : Recipe} {inputs : List Value} {value : Value}
  {statements : List Statement}

/-- The value that is given for a node is what the node leads to. -/
theorem Gives.bindsCall
    (alike : root.Alike)
    (exposed : root.Exposed tree)
    (gives : scope.Gives root recordsForwarded statements tree value)
    {function : Constructor}
    (leads : tree.Leads function) :
    ∃ first,
      root.firstVisited? false tree.identity = some first ∧
        first.origin = tree.origin ∧
        Statement.BindsCall statements function value.name ∧
        value.ForwardedFrom statements first := by
  cases gives with
  | received supplied =>
      exact Bool.noConfusion (supplied.symm.trans leads.constructed)
  | @built first value constructed isFirst isMade =>
      obtain ⟨firstExposed, -, same⟩ := Tree.exposed_of_firstVisited? isFirst
      exact ⟨first, isFirst, (alike.shared firstExposed exposed same).1,
        isMade.bound function (alike.leads exposed firstExposed same.symm leads), isMade⟩

/-- What is given for a child is passed for a need that the child stands for. -/
theorem Gives.passesForwarded
    (alike : root.Alike)
    {need : Need}
    (stands : Resolution.StandsFor setting need tree)
    (exposed : root.Exposed tree)
    (gives : scope.Gives root recordsForwarded statements tree value) :
    (value.passedAs need.wanted).PassesForwarded statements setting root need.wanted := by
  intro function forwarded
  have unreplaced : setting.substitutions.apply need = need := by
    simp [Substitutions.apply, Need.identity, forwarded.notReplaced]
  have isWanted : tree.type = need.wanted.withKind tree.type.kind := by
    simpa [Resolution.StandsFor, unreplaced] using stands
  have sameIdentity : tree.identity = need.wanted.identity := by
    rw [Tree.identity, isWanted, NamedType.identity_withKind]
  obtain ⟨node, nodeExposed, isNamed, follows⟩ := forwarded.follows
  have sameNode : node.identity = tree.identity := isNamed.trans sameIdentity.symm
  obtain ⟨first, isFirst, sameOrigin, binds, recorded⟩ :=
    gives.bindsCall alike exposed (alike.leads nodeExposed exposed sameNode follows.leads)
  obtain ⟨synonym, isAlias⟩ := follows.isAlias
  have marked : value.type.pointer = first.type.pointer :=
    recorded.marked synonym
      ((sameOrigin.trans (alike.shared nodeExposed exposed sameNode).1.symm).trans isAlias)
  have coerces :
      (value.passedAs need.wanted).Coerces first.type.pointer need.wanted.pointer := by
    rw [Operand.Coerces, ← marked]
    exact Adjustment.operator_between forwarded.notInterface
  refine ⟨first, ?_, binds, coerces, coerces.iff_eq _⟩
  rw [Tree.find?_walkOfEach, ← sameIdentity, isFirst]

/-- What carries out the recipe of a node is what the node leads to. -/
theorem Carries.forwardedFrom
    (alike : root.Alike)
    (exposed : root.Exposed tree)
    (constructed : tree.isSupplied = false)
    (isRecipe : tree.origin = .recipe recipe)
    (given :
      List.Forall₂ (scope.Gives root recordsForwarded draft.statements) tree.children inputs)
    (carries : scope.Carries zeros tree.type draft recipe inputs value statements) :
    value.ForwardedFrom (draft.statements ++ statements) tree where
  bound := by
    intro function leads
    cases leads with
    | call _ isCall =>
        cases isCall.symm.trans isRecipe
        cases carries
        exact ⟨_, _, _, List.mem_append_right _ List.mem_cons_self⟩
    | @forward _ child synonym _ _ isAlias onlyChild leads =>
        cases isAlias.symm.trans isRecipe
        rw [onlyChild] at given
        cases given with
        | cons isInput none =>
            cases none
            cases carries
            have childExposed : root.Exposed child :=
              exposed.child constructed (onlyChild ▸ List.mem_cons_self)
            obtain ⟨-, -, -, binds, -⟩ := isInput.bindsCall alike childExposed leads
            exact binds.mono (List.subset_append_left _ _)
  marked := by
    intro synonym isAlias
    cases isAlias.symm.trans isRecipe
    cases carries
    rfl

/-- What carries out the recipe of a node passes what its children lead to. -/
theorem Carries.passesForwarded
    (unhoisted : Resolution.Unhoisted setting root)
    (exposed : root.Exposed tree)
    (constructed : tree.isSupplied = false)
    (isRecipe : tree.origin = .recipe recipe)
    (given :
      List.Forall₂ (scope.Gives root recordsForwarded draft.statements) tree.children inputs)
    (carries : scope.Carries zeros tree.type draft recipe inputs value statements) :
    ∀ statement ∈ statements, statement.PassesForwarded draft.statements setting root := by
  have passed :
      List.Forall₂
        (fun (need : Need) input =>
          (Value.passedAs input need.wanted).PassesForwarded draft.statements setting root
            need.wanted)
        recipe.needs inputs := by
    refine ((unhoisted.stand tree recipe exposed isRecipe).comp given).imp ?_
    rintro need input ⟨child, listed, stands, gives⟩
    exact gives.passesForwarded unhoisted.alike stands (exposed.child constructed listed)
  intro statement member
  cases carries with
  | @call function inputs callee name written named =>
      rcases List.mem_cons.mp member with rfl | isCheck
      · simp only [Recipe.needs, List.forall₂_map_left_iff] at passed
        exact List.Forall₂.zipWith_right (by exact fun _ _ passes => passes) passed
      · split at isCheck
        · rw [List.mem_singleton.mp isCheck]
          trivial
        · simp at isCheck
  | @literal record inputs literal name written named =>
      rw [List.mem_singleton.mp member]
      simp only [Recipe.needs, List.forall₂_map_left_iff] at passed
      exact List.Forall₂.zipWith_right (by exact fun _ _ passes => ⟨rfl, passes⟩) passed
  | forward =>
      simp at member
  | noError =>
      simp at member

/-- What nodes lead to, and what statements pass, can be recorded. -/
theorem records_forwarded
    (scope : Scope)
    (zeros : List ZeroValue)
    (unhoisted : Resolution.Unhoisted setting root) :
    scope.Records zeros root recordsForwarded
      (fun statements statement => statement.PassesForwarded statements setting root) where
  made_mono := fun grows isMade => isMade.mono grows
  noted_mono := fun grows passes => passes.mono grows
  carried := fun exposed constructed isRecipe given carries =>
    ⟨carries.forwardedFrom unhoisted.alike exposed constructed isRecipe given,
      fun statement member =>
        (carries.passesForwarded unhoisted exposed constructed isRecipe given statement member).mono
          (List.subset_append_left _ _)⟩

end Scope

/-- A function over an unhoisted tree passes what is forwarded with the mark of the first node. -/
theorem Blueprint.passesForwarded_of_layOut
    {setting : Resolution.Setting}
    {goal : Goal}
    {imports : ImportTable}
    {root : Tree}
    (coherent : root.Coherent)
    (unhoisted : Resolution.Unhoisted setting root)
    {blueprint : Blueprint}
    (laid : layOut goal imports root = .ok blueprint) :
    ∀ statement ∈ blueprint.statements,
      statement.PassesForwarded blueprint.statements setting root := by
  obtain ⟨zeros, results, draft, types, zerosWritten, laidEach, typesWritten, rfl⟩ :=
    layOut_eq_ok_iff.mp laid
  have records :=
    Scope.records_forwarded (Scope.ofTree goal imports root) zeros unhoisted
  exact (Scope.layChildren_visited coherent records laidEach).1.noted

/-- A resolved tree that is not hoisted has nodes that are alike and stand for what is needed. -/
theorem Resolution.unhoisted_of_resolveWithin
    {setting : Setting}
    {goal : Goal}
    {limit : Nat}
    {root : Tree}
    (resolved : (resolveWithin limit setting goal Memory.empty).1 = .ok root) :
    Unhoisted setting root := by
  obtain ⟨children, rfl, resolves⟩ := resolveWithin_resolves resolved
  have derived :
      ∀ node,
        (rootNode goal children).Exposed node →
        ∃ stated,
          Resolves setting (resolveWithin limit setting goal Memory.empty).2.known stated node :=
    fun _ exposed => exists_resolves_of_exposed resolves exposed
  exact {
    alike := by
      refine ⟨fun exposed otherExposed same => ?_⟩
      obtain ⟨stated, nodeResolves⟩ := derived _ exposed
      obtain ⟨other, otherResolves⟩ := derived _ otherExposed
      exact nodeResolves.shared otherResolves same
    stand := by
      intro node recipe exposed isRecipe
      obtain ⟨stated, nodeResolves⟩ := derived node exposed
      exact ResolvesEach.standFor (nodeResolves.recipe_known isRecipe).2 }

/--
What an unhoisted job passes through aliases is the variable of the call behind them,
adjusted from the pointer mark of the alias that is completed first.

So the use of an alias takes the address of a value exactly where a pointer is wanted,
and follows a pointer exactly where a value is wanted, if and only if the first use of
the alias asked for what the call returned. This holds with any lookup, and for every
parameter and every field that asks for a value through aliases.
-/
theorem Job.passesForwarded_of_blueprintWithin
    {lookup : Lookup}
    {job : Job}
    (plain : job.hoist = false)
    {limit : Nat}
    {blueprint : Blueprint}
    (accepted : job.blueprintWithin limit lookup = .ok blueprint) :
    ∃ root,
      (Resolution.resolveWithin limit (job.setting lookup) job.goal
          Resolution.Memory.empty).1 = .ok root ∧
        ∀ statement ∈ blueprint.statements,
          statement.PassesForwarded blueprint.statements (job.setting lookup) root := by
  obtain ⟨root, resolved, laid⟩ := blueprintWithin_ok accepted
  obtain ⟨coherent, -, isLayOut⟩ := Resolution.coherent_of_resolveWithin resolved (.inl rfl)
  have unprepared : job.prepare root = root := by
    rw [prepare, plain, if_neg Bool.false_ne_true]
  rw [unprepared, isLayOut] at laid
  exact ⟨root, resolved,
    Blueprint.passesForwarded_of_layOut coherent
      (Resolution.unhoisted_of_resolveWithin resolved) laid⟩

namespace Renaming

/-- A type of the one package. -/
def type (name : String) : NamedType :=
  NamedType.ofText "p" name

/-- A function of the package that makes a value of what it is given. -/
def constructor
    (name : String)
    (params : List NamedType)
    (result : NamedType) :
    Package.Func where
  name
  receiver := none
  params := params.map fun type => { name := none, type, variadic := false }
  results := [result]

/-- Settings also go by the name of a configuration: a server takes one, and its store a pointer. -/
def package : Package where
  importPath := "p"
  name := "p"
  functions :=
    [constructor "NewServer" [type "Config", type "Store"] (type "Server"),
      constructor "NewStore" [(type "Config").toPointer] (type "Store"),
      constructor "NewSettings" [] (type "Settings")]
  structs := []
  aliases := [{ name := "Config", target := type "Settings" }]
  interfaces := []

/-- The search of that package, as it sees itself. -/
def search : PackageSearch where
  packages := PackageIndex.ofList [package]
  viewpoint := some "p"

/-- The job of providing a type of the package. -/
def job (name : String) : Job where
  name := "Provide"
  importPath := "p"
  package := none
  params := []
  results := [.named (type name)]
  redirects := []
  hoist := false
  imports := []

/-- The function that makes the settings, and returns them as a value. -/
def newSettings : Constructor where
  importPath := "p"
  name := "NewSettings"
  params := []
  leading := []
  output := type "Settings"
  trailing := []

/-- The function that makes the store of a pointer to a configuration. -/
def newStore : Constructor where
  importPath := "p"
  name := "NewStore"
  params := [(type "Config").toPointer]
  leading := []
  output := type "Store"
  trailing := []

/-- The node of the configuration, if a pointer to it is asked for first or not. -/
def configNode (pointer : Bool) : Tree :=
  .node { type "Config" with pointer }
    (.recipe (.forward
      { importPath := "p", name := "Config", target := { type "Settings" with pointer } }))
    false
    [.node { type "Settings" with pointer } (.recipe (.call newSettings)) false []]

/-- The configuration leads to the function that makes the settings. -/
theorem follows_configNode (pointer : Bool) : (configNode pointer).Follows newSettings where
  leads := .forward rfl rfl rfl (.call rfl rfl)
  isAlias := ⟨_, rfl⟩

end Renaming

/-- The server asks for the settings as they are returned, so its store is passed their address. -/
theorem Job.passesForwarded_of_blueprintWithin_server :
    (Renaming.job "Server").hoist = false ∧
      ∃ blueprint root,
        (Renaming.job "Server").blueprintWithin 5 Renaming.search.lookup = .ok blueprint ∧
          (Resolution.resolveWithin 5 ((Renaming.job "Server").setting Renaming.search.lookup)
            (Renaming.job "Server").goal Resolution.Memory.empty).1 = .ok root ∧
          (∀ statement ∈ blueprint.statements,
            statement.PassesForwarded blueprint.statements
              ((Renaming.job "Server").setting Renaming.search.lookup) root) ∧
          Resolution.Forwarded ((Renaming.job "Server").setting Renaming.search.lookup) root
            (Renaming.type "Config").toPointer Renaming.newSettings ∧
          blueprint.statements.map
              (fun statement =>
                statement.operands.map (fun operand => operand.adjustment.operator)) =
            [[], ["&"], ["", ""]] := by
  obtain ⟨blueprint, accepted, adjusted⟩ :
      ∃ blueprint,
        (Renaming.job "Server").blueprintWithin 5 Renaming.search.lookup = .ok blueprint ∧
          blueprint.statements.map
              (fun statement =>
                statement.operands.map (fun operand => operand.adjustment.operator)) =
            [[], ["&"], ["", ""]] :=
    ⟨_, rfl, by decide +kernel⟩
  obtain ⟨root, resolved, passes⟩ := Job.passesForwarded_of_blueprintWithin rfl accepted
  have forwarded :
      Resolution.Forwarded ((Renaming.job "Server").setting Renaming.search.lookup) root
        (Renaming.type "Config").toPointer Renaming.newSettings := by
    cases resolved
    refine ⟨by decide, rfl, Renaming.configNode false, ?_, rfl, Renaming.follows_configNode false⟩
    exact ⟨_, List.mem_cons_self, .under rfl List.mem_cons_self (.self _)⟩
  exact ⟨rfl, blueprint, root, accepted, resolved, passes, forwarded, adjusted⟩

/-- The store alone asks for a pointer, and gets the settings without their address being taken. -/
theorem Job.forwarded_not_coerces :
    ∃ blueprint root callee name operand,
      (Renaming.job "Store").blueprintWithin 4 Renaming.search.lookup = .ok blueprint ∧
        (Resolution.resolveWithin 4 ((Renaming.job "Store").setting Renaming.search.lookup)
          (Renaming.job "Store").goal Resolution.Memory.empty).1 = .ok root ∧
        Resolution.Forwarded ((Renaming.job "Store").setting Renaming.search.lookup) root
          (Renaming.type "Config").toPointer Renaming.newSettings ∧
        Statement.call "\"p\".Store" Renaming.newStore callee name [operand] ∈
          blueprint.statements ∧
        ¬ operand.Coerces Renaming.newSettings.output.pointer
          (Renaming.type "Config").toPointer.pointer := by
  obtain ⟨root, resolved, forwarded⟩ :
      ∃ root,
        (Resolution.resolveWithin 4 ((Renaming.job "Store").setting Renaming.search.lookup)
          (Renaming.job "Store").goal Resolution.Memory.empty).1 = .ok root ∧
          Resolution.Forwarded ((Renaming.job "Store").setting Renaming.search.lookup) root
            (Renaming.type "Config").toPointer Renaming.newSettings := by
    refine ⟨_, rfl, by decide, rfl, Renaming.configNode true, ?_, rfl,
      Renaming.follows_configNode true⟩
    exact ⟨_, List.mem_cons_self, .under rfl List.mem_cons_self (.self _)⟩
  obtain ⟨blueprint, accepted, callee, name, operand, passed, unadjusted⟩ :
      ∃ blueprint,
        (Renaming.job "Store").blueprintWithin 4 Renaming.search.lookup = .ok blueprint ∧
          ∃ callee name operand,
            Statement.call "\"p\".Store" Renaming.newStore callee name [operand] ∈
                blueprint.statements ∧
              operand.adjustment = .unchanged :=
    ⟨_, rfl, _, _, _, .tail _ (.head _), rfl⟩
  refine ⟨blueprint, root, callee, name, operand, accepted, resolved, forwarded, passed, ?_⟩
  rw [Operand.Coerces, unadjusted]
  decide

end Wiring
