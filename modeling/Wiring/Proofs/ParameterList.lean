import Wiring.Proofs.ImportsExact
import Wiring.Proofs.MarkedOrder
import Wiring.Proofs.WellTyped

namespace Wiring

/-!
# The parameter list is exact, ordered and addressable

A caller passes arguments by position and finds the name of a parameter by its
type. The list therefore has one parameter for each identity that is supplied to
the function, those that are computed once stand first, each group is in the order
of names, and looking up a type finds the parameter of this very type.
-/

/-- Parameters are compared by whether they are computed once, and then by name. -/
theorem Blueprint.Parameter.comparesMarked_precedes :
    ComparesMarked hoisted (fun parameter => parameter.value.name) precedes := by
  intro left right
  unfold precedes
  cases isLeft : left.hoisted <;> cases isRight : right.hoisted <;> simp

namespace GeneratedFunction

/-- The name of a parameter, under which the function uses its value. -/
def Parameter.name (parameter : Parameter) : String :=
  parameter.value.name

/--
The parameters of a function are those of a tree.

There is one for each identity of a supplied node that is reached without passing
through another, computed once if the node is. The hoisted ones stand first, and
names ascend in each group. A text denotes the parameter of its type.
-/
structure ListsParameters
    (root : Tree)
    (generated : GeneratedFunction) : Prop where
  once : (generated.parameters.map Parameter.identity).Nodup
  complete :
    ∀ identity,
      identity ∈ generated.parameters.map Parameter.identity ↔
        ∃ node, root.Exposes node ∧ node.isSupplied = true ∧ node.identity = identity
  marked :
    ∀ parameter ∈ generated.parameters, ∀ node,
      root.Exposes node →
      node.isSupplied = true →
      node.identity = parameter.identity →
      parameter.hoisted = node.hoist
  ordered : generated.parameters.Pairwise (MarkedBefore Parameter.hoisted Parameter.name)
  addressed :
    ∀ importPath text,
      '"' ∉ importPath.toList →
      '"' ∉ text.toList →
      ∀ name,
        generated.parameterName? importPath text = some name ↔
          ∃ parameter ∈ generated.parameters,
            parameter.value.type.importPath = importPath ∧
              parameter.value.type.name = NamedType.unstarred text ∧
              parameter.name = name

variable {generated : GeneratedFunction}

/-- A type is looked up by its identity, of which there is one parameter. -/
theorem parameterName?_eq_some_iff
    (once : (generated.parameters.map Parameter.identity).Nodup)
    {importPath text name : String} :
    generated.parameterName? importPath text = some name ↔
      ∃ parameter ∈ generated.parameters,
        parameter.identity = (NamedType.ofText importPath text).identity ∧
          parameter.name = name := by
  simp only [parameterName?, Option.map_eq_some_iff]
  constructor
  · rintro ⟨parameter, found, isName⟩
    exact ⟨parameter, List.mem_of_find?_eq_some found,
      by simpa using List.find?_some found, isName⟩
  · rintro ⟨parameter, listed, same, isName⟩
    refine ⟨parameter, ?_, isName⟩
    cases found : generated.parameters.find?
        (fun other => other.identity == (NamedType.ofText importPath text).identity) with
    | none =>
        have differs := List.find?_eq_none.mp found parameter listed
        exact absurd (beq_iff_eq.mpr same) differs
    | some other =>
        have sameOther :
            other.identity = (NamedType.ofText importPath text).identity := by
          simpa using List.find?_some found
        rw [List.inj_on_of_nodup_map once (List.mem_of_find?_eq_some found) listed
          (sameOther.trans same.symm)]

/-- A text without quotes denotes the parameter of its type, if no parameter's type has a quote. -/
theorem parameterName?_eq_some_iff_of_unquoted
    (once : (generated.parameters.map Parameter.identity).Nodup)
    (unquoted : ∀ parameter ∈ generated.parameters, parameter.value.type.Unquoted)
    {importPath text : String}
    (pathUnquoted : '"' ∉ importPath.toList)
    (textUnquoted : '"' ∉ text.toList)
    (name : String) :
    generated.parameterName? importPath text = some name ↔
      ∃ parameter ∈ generated.parameters,
        parameter.value.type.importPath = importPath ∧
          parameter.value.type.name = NamedType.unstarred text ∧
          parameter.name = name := by
  have sameIdentity_iff :
      ∀ parameter ∈ generated.parameters,
        parameter.identity = (NamedType.ofText importPath text).identity ↔
          parameter.value.type.importPath = importPath ∧
            parameter.value.type.name = NamedType.unstarred text := by
    intro parameter listed
    rw [← NamedType.name_ofText importPath, Parameter.identity, Value.identity,
      NamedType.identity_eq_iff (unquoted parameter listed)
        (NamedType.unquoted_ofText pathUnquoted textUnquoted),
      NamedType.importPath_ofText]
  rw [parameterName?_eq_some_iff once]
  constructor
  · rintro ⟨parameter, listed, same, isName⟩
    obtain ⟨samePath, sameName⟩ := (sameIdentity_iff parameter listed).mp same
    exact ⟨parameter, listed, samePath, sameName, isName⟩
  · rintro ⟨parameter, listed, samePath, sameName, isName⟩
    exact ⟨parameter, listed, (sameIdentity_iff parameter listed).mpr ⟨samePath, sameName⟩,
      isName⟩

/-- The text of a blueprint receives the same identities in the same order. -/
theorem map_identity_ofBlueprint
    (blueprint : Blueprint) :
    (ofBlueprint blueprint).parameters.map Parameter.identity =
      blueprint.parameters.map (fun parameter => parameter.value.identity) := by
  simp [ofBlueprint, Parameter.identity, Function.comp_def]

/-- A parameter in the text of a blueprint is one of the blueprint. -/
theorem exists_of_mem_ofBlueprint
    {blueprint : Blueprint}
    {parameter : Parameter}
    (listed : parameter ∈ (ofBlueprint blueprint).parameters) :
    ∃ source ∈ blueprint.parameters,
      source.value = parameter.value ∧ source.hoisted = parameter.hoisted := by
  obtain ⟨source, isListed, rfl⟩ := List.mem_map.mp listed
  exact ⟨source, isListed, rfl, rfl⟩

end GeneratedFunction

/-- A supplied node that a constructed root exposes is reached from its children. -/
theorem Tree.Exposes.exposed
    {root node : Tree}
    (rootConstructed : root.isSupplied = false)
    (exposes : root.Exposes node)
    (supplied : node.isSupplied = true) :
    root.Exposed node := by
  cases exposes with
  | self =>
      rw [rootConstructed] at supplied
      cases supplied
  | under _ member exposes =>
      exact ⟨_, member, exposes⟩

namespace Blueprint

/-- A function lists the parameters of its tree, if no type of the tree has a quote. -/
theorem listsParameters_of_layOut
    {goal : Goal}
    {imports : ImportTable}
    {root : Tree}
    (uniform : root.Uniform)
    (rootConstructed : root.isSupplied = false)
    (arity : root.children.length = goal.results.length)
    (unquoted : ∀ node, root.Exposed node → node.type.Unquoted)
    {blueprint : Blueprint}
    (laid : layOut goal imports root = .ok blueprint) :
    GeneratedFunction.ListsParameters root (GeneratedFunction.ofBlueprint blueprint) := by
  have faithful := faithful_of_layOut uniform.coherent arity laid
  obtain ⟨zeros, results, draft, types, _, laidEach, _, rfl⟩ := layOut_eq_ok_iff.mp laid
  have traced := Scope.layChildren_traced laidEach
  have distinct :=
    (Scope.layChildren_faithful uniform.coherent laidEach).1.wellNamed.distinct_parameters
  generalize isFunction :
    assembled (Scope.ofTree goal imports root) results types draft = blueprint at faithful
  have sorted : blueprint.parameters = draft.parameters.mergeSort Parameter.precedes := by
    rw [← isFunction]
    rfl
  have once :
      ((GeneratedFunction.ofBlueprint blueprint).parameters.map
        GeneratedFunction.Parameter.identity).Nodup := by
    rw [GeneratedFunction.map_identity_ofBlueprint]
    exact faithful.identities
  have typesUnquoted :
      ∀ parameter ∈ (GeneratedFunction.ofBlueprint blueprint).parameters,
        parameter.value.type.Unquoted := by
    -- A parameter has the very type of an exposed node, and not only its identity.
    intro parameter listed
    obtain ⟨source, isListed, sameValue, _⟩ :=
      GeneratedFunction.exists_of_mem_ofBlueprint listed
    rw [sorted, List.mem_mergeSort] at isListed
    obtain ⟨node, exposed, receives⟩ := traced.received source isListed
    rw [← sameValue, receives.type]
    exact unquoted node exposed
  exact {
    once
    complete := by
      intro identity
      rw [GeneratedFunction.map_identity_ofBlueprint, List.mem_map]
      constructor
      · rintro ⟨parameter, listed, rfl⟩
        obtain ⟨node, exposed, supplied, same, _⟩ := faithful.received parameter listed
        exact ⟨node, exposed.exposes rootConstructed, supplied, same⟩
      · rintro ⟨node, exposes, supplied, rfl⟩
        obtain ⟨parameter, listed, same, _⟩ :=
          faithful.exists_parameter uniform (exposes.exposed rootConstructed supplied) supplied
        exact ⟨parameter, listed, same⟩
    marked := by
      intro parameter listed node exposes supplied same
      obtain ⟨source, isListed, sameValue, sameMark⟩ :=
        GeneratedFunction.exists_of_mem_ofBlueprint listed
      obtain ⟨other, exposed, otherSupplied, otherSame, mark⟩ :=
        faithful.received source isListed
      rw [← sameMark, ← mark]
      refine uniform.marked exposed (exposes.exposed rootConstructed supplied) otherSupplied
        supplied ?_
      rw [otherSame, sameValue, same, GeneratedFunction.Parameter.identity]
    ordered := by
      refine List.pairwise_map.mpr ?_
      rw [sorted]
      exact Parameter.comparesMarked_precedes.pairwise_mergeSort distinct
    addressed := fun importPath text pathUnquoted textUnquoted name =>
      GeneratedFunction.parameterName?_eq_some_iff_of_unquoted once typesUnquoted
        pathUnquoted textUnquoted name }

end Blueprint

/-- Answers from the search of the server's package, with a store that the caller passes in. -/
def Server.settingWithStore : Resolution.Setting where
  lookup := Server.search.lookup
  substitutions := Keyed.empty
  supplied := Supplied.add Keyed.empty (.named (NamedType.ofText "p" "Store")) false

namespace Resolution

/--
The function for a tree that is resolved over packages lists the parameters of the
tree, whether or not it is hoisted, if nothing that was asked for has a quote.

The same resolver may have served earlier goals, and the function may be written
into a file with any imports.
-/
theorem ofTree_listsParameters
    {search : PackageSearch}
    (unquoted : search.packages.Unquoted)
    {setting : Setting}
    (searches : setting.lookup = search.lookup)
    (replacementsUnquoted :
      ∀ identity replacement,
        setting.substitutions.get? identity = some replacement → replacement.Unquoted)
    {earlier : List (Nat × Goal)}
    (earlierUnquoted : ∀ run ∈ earlier, ∀ result ∈ run.2.results, result.Unquoted)
    {goal : Goal}
    (resultsUnquoted : ∀ result ∈ goal.results, result.Unquoted)
    {limit : Nat}
    {root : Tree}
    (resolved :
      (resolveWithin limit setting goal (Memory.after setting earlier)).1 = .ok root)
    {tree : Tree}
    (prepared : tree = root ∨ tree = root.hoisted)
    (imports : ImportTable) :
    ∃ blueprint,
      Blueprint.ofTree tree imports = .ok blueprint ∧
        blueprint.goal = goal ∧
        GeneratedFunction.ListsParameters tree (GeneratedFunction.ofBlueprint blueprint) := by
  have noGoals : setting.lookup.FindsNoGoal := by
    rw [searches]
    exact PackageSearch.lookup_findsNoGoal search
  have vouches :
      ∀ asked : Goal,
        (∀ result ∈ asked.results, result.Unquoted) →
        setting.Vouches asked (Need.ClearFor fun _ => True)
          (fun identity recipe => recipe.Provides (fun _ => True) identity) :=
    fun _ requested =>
      Setting.vouches_of_unquoted unquoted searches
        (fun identity replacement found => (replacementsUnquoted identity replacement found).clearFor)
        (fun result listed => (requested result listed).clearFor)
  obtain ⟨_, vouched⟩ :=
    vouched_of_resolveWithin
      (vouches goal resultsUnquoted)
      (Memory.after_knowsOnly fun run member => vouches run.2 (earlierUnquoted run member))
      resolved prepared
  obtain ⟨blueprint, laid, laidOut⟩ :=
    exists_layOut_of_resolveWithin noGoals earlier resolved prepared imports
  obtain ⟨isGoal, unmarked⟩ := root_of_resolveWithin resolved prepared
  refine ⟨blueprint, laid, ?_, ?_⟩
  · obtain ⟨zeros, results, draft, types, _, _, _, rfl⟩ :=
      Blueprint.layOut_eq_ok_iff.mp laidOut
    rfl
  · exact
      Blueprint.listsParameters_of_layOut
        (uniform_of_resolveWithin noGoals earlier resolved prepared)
        (by rw [Tree.isSupplied_of_recipe isGoal, unmarked])
        (coherent_of_resolveWithin resolved prepared).2.1
        (fun node exposed => (vouched node exposed).clearFor trivial)
        laidOut

/--
A server whose store the caller passes in also receives its settings when it is
hoisted, the settings first, also from a resolver that has served another goal.
-/
theorem ofTree_listsParameters_server :
    Server.search.packages.Unquoted ∧
      Server.settingWithStore.lookup = Server.search.lookup ∧
      (∀ identity replacement,
        Server.settingWithStore.substitutions.get? identity = some replacement →
        replacement.Unquoted) ∧
      (∀ run ∈ [(1, Storage.job.goal)], ∀ result ∈ run.2.results, result.Unquoted) ∧
      (∀ result ∈ Server.job.goal.results, result.Unquoted) ∧
      ∃ root blueprint,
        (resolveWithin 4 Server.settingWithStore Server.job.goal
            (Memory.after Server.settingWithStore [(1, Storage.job.goal)])).1 = .ok root ∧
          Blueprint.ofTree root.hoisted ImportTable.empty = .ok blueprint ∧
          blueprint.goal = Server.job.goal ∧
          GeneratedFunction.ListsParameters root.hoisted
            (GeneratedFunction.ofBlueprint blueprint) ∧
          ∃ config ∈ (GeneratedFunction.ofBlueprint blueprint).parameters,
            config.identity = Server.config.identity ∧ config.hoisted = true := by
  have unquoted : Server.search.packages.Unquoted :=
    PackageIndex.unquoted_ofList (by decide)
  have replacementsUnquoted :
      ∀ identity replacement,
        Server.settingWithStore.substitutions.get? identity = some replacement →
        replacement.Unquoted := by
    intro identity replacement found
    simp [Server.settingWithStore] at found
  have earlierUnquoted :
      ∀ run ∈ [(1, Storage.job.goal)], ∀ result ∈ run.2.results, result.Unquoted := by
    intro run listed result requested
    obtain rfl := List.mem_singleton.mp listed
    obtain rfl := List.mem_singleton.mp requested
    exact Need.unquoted_named.mpr (by decide)
  have resultsUnquoted : ∀ result ∈ Server.job.goal.results, result.Unquoted := by
    intro result listed
    obtain rfl := List.mem_singleton.mp listed
    exact Need.unquoted_named.mpr (by decide)
  obtain ⟨root, resolved, node, exposes, supplied, same, marked⟩ :
      ∃ root,
        (resolveWithin 4 Server.settingWithStore Server.job.goal
            (Memory.after Server.settingWithStore [(1, Storage.job.goal)])).1 = .ok root ∧
          ∃ node,
            root.hoisted.Exposes node ∧
              node.isSupplied = true ∧
              node.identity = Server.config.identity ∧
              node.hoist = true := by
    refine ⟨_, rfl, _, .under rfl List.mem_cons_self (.under rfl List.mem_cons_self (.self _)),
      rfl, rfl, rfl⟩
  obtain ⟨blueprint, laid, isGoal, lists⟩ :=
    ofTree_listsParameters unquoted rfl replacementsUnquoted earlierUnquoted resultsUnquoted
      resolved (.inr rfl) ImportTable.empty
  obtain ⟨config, listed, isConfig⟩ :=
    List.mem_map.mp ((lists.complete _).mpr ⟨node, exposes, supplied, same⟩)
  have hoisted : config.hoisted = true :=
    (lists.marked config listed node exposes supplied (same.trans isConfig.symm)).trans marked
  exact ⟨unquoted, rfl, replacementsUnquoted, earlierUnquoted, resultsUnquoted, root, blueprint,
    resolved, laid, isGoal, lists, config, listed, isConfig, hoisted⟩

end Resolution

end Wiring
