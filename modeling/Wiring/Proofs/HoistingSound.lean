import Wiring.Proofs.Faithful
import Wiring.Proofs.Promotion

namespace Wiring

/-!
# Hoisting preserves meaning

A job with hoisting and the same job without it fail for the same reasons, because
hoisting only changes what is laid out, and laying out does not fail. When they
succeed, the hoisted function differs only in what it receives: putting the
constructions of the promoted values in place of their parameters gives what the
other function returns, the parameters that vary from call to call are the same,
and what is still constructed, other than the results, depends on one of them.
-/

namespace Supplied

/-- Supplying more needs supplies their identities, and no others. -/
theorem get?_foldl_add_eq_none_iff
    {supplied : Supplied}
    {pairs : List (Need × Bool)}
    {identity : String} :
    (pairs.foldl (fun supplied pair => add supplied pair.1 pair.2) supplied).get?
        identity = none ↔
      supplied.get? identity = none ∧
        ∀ pair ∈ pairs, pair.1.identity ≠ identity := by
  induction pairs generalizing supplied with
  | nil =>
      simp
  | cons pair rest inductionHypothesis =>
      rw [List.foldl_cons, inductionHypothesis, add, Keyed.get?_insert]
      by_cases same : pair.1.identity = identity
      · simp [same]
      · simp [same]

/-- An identity is not supplied if no need of the list has it. -/
theorem get?_ofPairs_eq_none_iff
    {pairs : List (Need × Bool)}
    {identity : String} :
    (ofPairs pairs).get? identity = none ↔
      ∀ pair ∈ pairs, pair.1.identity ≠ identity := by
  rw [ofPairs, get?_foldl_add_eq_none_iff]
  simp

end Supplied

namespace Tree

/-- The term of the first node of an identity below the root. -/
def termOf?
    (root : Tree)
    (identity : String) :
    Option Term :=
  ((root.children.flatMap nodes).find? (fun node => node.identity == identity)).map term

/-- Nodes that agree in everything a term depends on have the same term. -/
theorem term_eq_of_fields
    {tree other : Tree}
    (identity : tree.identity = other.identity)
    (origin : tree.origin = other.origin)
    (hoist : tree.hoist = other.hoist)
    (children : tree.children = other.children) :
    tree.term = other.term := by
  cases tree with
  | node type origin' hoist' children' =>
      cases other with
      | node otherType otherOrigin otherHoist otherChildren =>
          rw [origin_node, origin_node] at origin
          rw [hoist_node, hoist_node] at hoist
          rw [children_node, children_node] at children
          rw [identity_node, identity_node] at identity
          subst origin hoist children
          simp only [term, identity]
          rfl

end Tree

namespace Resolution

variable {setting : Setting} {known : Keyed Recipe}

namespace Resolves

/-- A derived node is a leaf if its identity is supplied, and then it has the given mark. -/
theorem supplied_cases
    {stated : Need}
    {tree : Tree}
    (resolves : Resolves setting known stated tree) :
    (tree.origin = .caller ∧
        setting.supplied.get? tree.identity = some tree.hoist) ∨
      (tree.origin ≠ .caller ∧
        setting.supplied.get? tree.identity = none) := by
  have identity := resolves.identity_eq
  rw [identity]
  cases resolves with
  | supplied given =>
      exact .inl ⟨rfl, given⟩
  | constructed free remembered arity each =>
      exact .inr ⟨by simp, free⟩

end Resolves

/-- All nodes of one identity below a derived root have the term of that identity. -/
theorem termOf?_eq
    {needs : List Need}
    {root : Tree}
    (resolves : ResolvesEach setting known needs root.children)
    {node : Tree}
    (exposed : root.Exposed node)
    {stated : Need}
    {source : Tree}
    (sourceResolves : Resolves setting known stated source)
    (same : node.identity = source.identity) :
    root.termOf? source.identity = some source.term := by
  have found :
      ((root.children.flatMap Tree.nodes).find?
        (fun other => other.identity == source.identity)).isSome = true := by
    rw [List.find?_isSome]
    obtain ⟨child, member, exposes⟩ := exposed
    exact ⟨node, List.mem_flatMap.mpr ⟨child, member, exposes.mem_nodes⟩, by simp [same]⟩
  obtain ⟨first, isFirst⟩ := Option.isSome_iff_exists.mp found
  obtain ⟨need, firstResolves⟩ :=
    ResolvesEach.of_mem_nodes resolves (List.mem_of_find?_eq_some isFirst)
  have sameIdentity : first.identity = source.identity := by
    simpa using List.find?_some isFirst
  obtain ⟨origin, hoist, children⟩ := firstResolves.shared sourceResolves sameIdentity
  rw [Tree.termOf?, isFirst, Option.map_some,
    Tree.term_eq_of_fields sameIdentity origin hoist children]

end Resolution

/--
What holds of a resolved tree, before and after hoisting: its nodes are
constructed alike if they have one identity, none is a goal, and supplied ones of
one identity are marked alike.
-/
structure Tree.Uniform (root : Tree) : Prop where
  coherent : root.Coherent
  notGoal :
    ∀ node,
      root.Exposed node →
      ∀ goal, node.origin ≠ .recipe (.goal goal)
  marked :
    ∀ {node other},
      root.Exposed node →
      root.Exposed other →
      node.isSupplied = true →
      other.isSupplied = true →
      node.identity = other.identity →
      node.hoist = other.hoist

namespace Resolution

variable {setting : Setting} {memory : Memory} {needs : List Need} {root : Tree}

/-- A derived tree is uniform if no goal is known. -/
theorem uniform_of_resolves
    (holds : memory.HoldsNoGoal)
    (resolves : ResolvesEach setting memory.known needs root.children) :
    root.Uniform where
  coherent := coherent_of_resolves resolves
  notGoal := fun _ exposed => origin_ne_goal_of_exposed holds resolves exposed
  marked := by
    intro node other exposed otherExposed supplied otherSupplied same
    obtain ⟨stated, nodeResolves⟩ := exists_resolves_of_exposed resolves exposed
    obtain ⟨otherStated, otherResolves⟩ :=
      exists_resolves_of_exposed resolves otherExposed
    exact (nodeResolves.shared otherResolves same).2.1

/-- A derived tree is uniform after hoisting if no goal is known. -/
theorem uniform_hoisted_of_resolves
    (holds : memory.HoldsNoGoal)
    (resolves : ResolvesEach setting memory.known needs root.children) :
    root.hoisted.Uniform where
  coherent := coherent_hoisted_of_resolves resolves
  notGoal := fun _ exposed => origin_ne_goal_of_exposed_hoisted holds resolves exposed
  marked := hoist_eq_of_exposed_hoisted resolves

end Resolution

namespace Tree

/-- An identity of an unmarked leaf that the layout comes to. -/
def Varies
    (root : Tree)
    (identity : String) : Prop :=
  ∃ node,
    root.Exposed node ∧
      node.origin = .caller ∧
      node.hoist = false ∧
      node.identity = identity

end Tree

/-- Hoisting changes nothing about the unmarked leaves that the layout comes to. -/
theorem Resolution.varies_hoisted_iff
    {setting : Setting}
    {known : Keyed Recipe}
    {needs : List Need}
    {root : Tree}
    (resolves : ResolvesEach setting known needs root.children)
    {identity : String} :
    root.hoisted.Varies identity ↔ root.Varies identity := by
  constructor
  · rintro ⟨node, exposed, isCaller, unmarked, same⟩
    obtain ⟨source, hoistedFrom⟩ := exists_hoistedFrom resolves exposed
    rcases hoistedFrom.hoist_cases (Tree.isSupplied_of_caller isCaller) with
      ⟨sourceIsCaller, mark⟩ | ⟨constructed, marked⟩
    · exact ⟨source, hoistedFrom.exposed, sourceIsCaller, mark ▸ unmarked,
        hoistedFrom.identity ▸ same⟩
    · rw [unmarked] at marked
      cases marked
  · rintro ⟨node, exposed, isCaller, unmarked, same⟩
    exact ⟨node, exposed_hoisted_of_unmarked resolves exposed isCaller unmarked,
      isCaller, unmarked, same⟩

namespace Blueprint

/-- The identities of the parameters that vary from call to call. -/
def varying (blueprint : Blueprint) : List String :=
  (blueprint.parameters.filter (fun parameter => !parameter.hoisted)).map
    (fun parameter => parameter.value.identity)

namespace Faithful

variable {blueprint : Blueprint} {root : Tree}

/-- Every supplied node that the layout comes to is received, with its mark. -/
theorem exists_parameter
    (faithful : blueprint.Faithful root)
    (uniform : root.Uniform)
    {node : Tree}
    (exposed : root.Exposed node)
    (supplied : node.isSupplied = true) :
    ∃ parameter ∈ blueprint.parameters,
      parameter.value.identity = node.identity ∧ parameter.hoisted = node.hoist := by
  have nodeExposed := exposed
  obtain ⟨child, member, exposes⟩ := exposed
  have uses : child.term.Uses node.identity :=
    exposes.term_uses uniform.coherent uniform.notGoal
      ⟨child, member, .self child⟩ supplied
  have returned := List.forall₂_of_mapM_eq_some faithful.returned
  obtain ⟨operand, listed, unfolds⟩ :=
    returned.exists_of_mem_right
      (List.mem_append_left _ (List.mem_map_of_mem member))
  obtain ⟨source, value, received, usesValue⟩ :=
    exists_received_of_valueAfter? unfolds uses
  obtain ⟨parameter, isParameter, identity⟩ :=
    exists_parameter_of_received? received usesValue
  obtain ⟨other, otherExposed, otherSupplied, sameIdentity, mark⟩ :=
    faithful.received parameter isParameter
  refine ⟨parameter, isParameter, identity, ?_⟩
  rw [← mark]
  exact uniform.marked otherExposed nodeExposed otherSupplied supplied
    (sameIdentity.trans identity)

/-- The parameters that vary are the unmarked leaves that the layout comes to. -/
theorem mem_varying_iff
    (faithful : blueprint.Faithful root)
    (uniform : root.Uniform)
    {identity : String} :
    identity ∈ blueprint.varying ↔ root.Varies identity := by
  simp only [varying, List.mem_map, List.mem_filter, Bool.not_eq_true']
  constructor
  · rintro ⟨parameter, ⟨member, unhoisted⟩, rfl⟩
    obtain ⟨node, exposed, supplied, same, mark⟩ := faithful.received parameter member
    rw [unhoisted] at mark
    exact ⟨node, exposed, Tree.origin_of_isSupplied supplied mark, mark, same⟩
  · rintro ⟨node, exposed, isCaller, unmarked, rfl⟩
    obtain ⟨parameter, member, same, mark⟩ :=
      faithful.exists_parameter uniform exposed (Tree.isSupplied_of_caller isCaller)
    exact ⟨parameter, ⟨member, mark.trans unmarked⟩, same⟩

/-- No identity is received twice. -/
theorem varying_nodup
    (faithful : blueprint.Faithful root) :
    blueprint.varying.Nodup :=
  faithful.identities.sublist (List.filter_sublist.map _)

end Faithful

end Blueprint

namespace Job

/-- Whether the value of an identity is received only because it was promoted. -/
def promotes
    (job : Job)
    (blueprint : Blueprint)
    (identity : String) :
    Bool :=
  blueprint.parameters.any
      (fun parameter => parameter.hoisted && parameter.value.identity == identity)
    && !job.params.any (fun param => param.need.identity == identity)

/-- What stands for a parameter when promoted values are constructed as in an unhoisted tree. -/
def inlined
    (job : Job)
    (root : Tree)
    (blueprint : Blueprint)
    (identity : String) :
    Term :=
  if job.promotes blueprint identity then
    (root.termOf? identity).getD .unknown
  else
    .parameter identity

/-- An identity is supplied if the job declares a parameter of it. -/
theorem supplied_eq_none_iff
    {job : Job}
    {identity : String} :
    job.supplied.get? identity = none ↔
      job.params.any (fun param => param.need.identity == identity) = false := by
  rw [supplied, Supplied.get?_ofPairs_eq_none_iff]
  simp

/-- The functions of a job with hoisting and without it mean the same. -/
structure HoistingSound
    (job : Job)
    (root : Tree)
    (hoisted plain : Blueprint) : Prop where
  /-- Constructing the promoted values in place gives the results of the other function. -/
  results :
    ∃ terms,
      terms.length = job.results.length ∧
        hoisted.returnedTerms? = some (terms ++ hoisted.addedTerms) ∧
        plain.returnedTerms? =
          some (terms.map (Term.replace (job.inlined root hoisted)) ++ plain.addedTerms)
  /-- Both receive the same values that vary from call to call. -/
  varying : hoisted.varying.Perm plain.varying
  /-- What is constructed for another purpose than a result depends on such a value. -/
  pinned :
    ∀ statement ∈ hoisted.statements, ∀ identity,
      statement.builtIdentity? = some identity →
      identity ∉ job.results.map (fun result => (job.substitutions.apply result).identity) →
      ∃ name term parameter,
        statement.boundName? = some name ∧
          hoisted.term? name = some term ∧
          parameter ∈ hoisted.parameters ∧
          parameter.hoisted = false ∧
          term.Uses parameter.value.identity

section Resolved

variable
  {job : Job}
  {lookup : Lookup}
  {known : Keyed Recipe}
  {root : Tree}
  {hoisted : Blueprint}

/-- A declared parameter is left as it is. -/
theorem inlined_of_caller
    (resolves :
      Resolution.ResolvesEach (job.setting lookup) known job.results root.children)
    {node : Tree}
    (exposed : root.hoisted.Exposed node)
    (isCaller : node.origin = .caller) :
    job.inlined root hoisted node.identity = .parameter node.identity := by
  obtain ⟨source, hoistedFrom⟩ := Resolution.exists_hoistedFrom resolves exposed
  obtain ⟨stated, sourceResolves⟩ := hoistedFrom.resolves
  have declared :
      job.params.any (fun param => param.need.identity == node.identity) = true := by
    rcases sourceResolves.supplied_cases with ⟨sourceIsCaller, given⟩ | ⟨constructed, free⟩
    · rw [← Bool.not_eq_false, ← supplied_eq_none_iff, hoistedFrom.identity, given]
      simp
    · exact absurd (hoistedFrom.origin.symm.trans isCaller) constructed
  simp [inlined, promotes, declared]

/-- A promoted parameter is replaced by the construction of its identity. -/
theorem inlined_of_promoted
    (resolves :
      Resolution.ResolvesEach (job.setting lookup) known job.results root.children)
    (faithful : hoisted.Faithful root.hoisted)
    (uniform : root.hoisted.Uniform)
    {stated : Need}
    {source : Tree}
    (sourceResolves :
      Resolution.Resolves (job.setting lookup) known stated source)
    (exposed : root.hoisted.Exposed source.promote)
    (constructed : source.origin ≠ .caller)
    (promoted : source.promote.hoist = true) :
    job.inlined root hoisted source.identity = source.term := by
  obtain ⟨parameter, member, same, mark⟩ :=
    faithful.exists_parameter uniform exposed (by simp [Tree.isSupplied, promoted])
  have received :
      hoisted.parameters.any
          (fun parameter =>
            parameter.hoisted && parameter.value.identity == source.identity) =
        true := by
    rw [List.any_eq_true]
    refine ⟨parameter, member, ?_⟩
    rw [mark, promoted, same, Tree.identity_promote]
    simp
  have undeclared :
      job.params.any (fun param => param.need.identity == source.identity) = false := by
    rcases sourceResolves.supplied_cases with ⟨isCaller, given⟩ | ⟨isOther, free⟩
    · exact absurd isCaller constructed
    · exact supplied_eq_none_iff.mp free
  obtain ⟨node, hoistedFrom⟩ := Resolution.exists_hoistedFrom resolves exposed
  have sameNode : node.identity = source.identity := by
    rw [← hoistedFrom.identity, Tree.identity_promote]
  have construction :=
    Resolution.termOf?_eq resolves hoistedFrom.exposed sourceResolves sameNode
  simp [inlined, promotes, received, undeclared, construction]

/-- What a hoisted function constructs for another purpose than a result varies. -/
theorem exists_varying_of_made
    (resolves :
      Resolution.ResolvesEach (job.setting lookup) known job.results root.children)
    (faithful : hoisted.Faithful root.hoisted)
    (uniform : root.hoisted.Uniform)
    {node : Tree}
    (exposed : root.hoisted.Exposed node)
    (constructed : node.isSupplied = false)
    (noResult :
      node.identity ∉
        job.results.map (fun result => (job.substitutions.apply result).identity)) :
    ∃ parameter ∈ hoisted.parameters,
      parameter.hoisted = false ∧ node.term.Uses parameter.value.identity := by
  obtain ⟨source, hoistedFrom⟩ := Resolution.exists_hoistedFrom resolves exposed
  obtain ⟨stated, sourceResolves⟩ := hoistedFrom.resolves
  rcases hoistedFrom.shape with ⟨member, rfl⟩ | rfl
  · obtain ⟨result, listed, resultResolves⟩ := resolves.exists_of_mem_right member
    apply absurd _ noResult
    rw [Tree.identity_mapChildren, resultResolves.identity_eq]
    exact List.mem_map_of_mem listed
  · have unmarked : source.promote.hoist = false := by
      rw [Tree.isSupplied, Bool.or_eq_false_iff] at constructed
      exact constructed.2
    obtain ⟨leaf, exposes, isCaller, leafUnmarked⟩ :=
      sourceResolves.exists_unmarked_of_promote unmarked
    have leafSupplied := Tree.isSupplied_of_caller isCaller
    have leafExposed : root.hoisted.Exposed leaf := by
      obtain ⟨top, topMember, reaches⟩ := exposed
      exact ⟨top, topMember, reaches.trans exposes⟩
    obtain ⟨parameter, member, same, mark⟩ :=
      faithful.exists_parameter uniform leafExposed leafSupplied
    refine ⟨parameter, member, mark.trans leafUnmarked, ?_⟩
    rw [same]
    exact exposes.term_uses uniform.coherent uniform.notGoal exposed leafSupplied

/-- The functions laid out before and after hoisting mean the same. -/
theorem hoistingSound_of_faithful
    (resolves :
      Resolution.ResolvesEach (job.setting lookup) known job.results root.children)
    (uniform : root.Uniform)
    (hoistedUniform : root.hoisted.Uniform)
    (hoistedFaithful : hoisted.Faithful root.hoisted)
    {plain : Blueprint}
    (plainFaithful : plain.Faithful root) :
    job.HoistingSound root hoisted plain where
  results := by
    refine ⟨root.hoisted.children.map Tree.term, ?_, hoistedFaithful.returned, ?_⟩
    · rw [List.length_map, Tree.children_hoisted, List.length_map]
      exact resolves.length_eq.symm
    · have restores :
          (root.hoisted.children.map Tree.term).map
              (Term.replace (job.inlined root hoisted)) =
            root.children.map Tree.term := by
        apply Resolution.replace_terms_hoisted resolves
        · intro node exposed isCaller
          exact inlined_of_caller resolves exposed isCaller
        · intro stated source sourceResolves exposed constructed promoted
          exact inlined_of_promoted resolves hoistedFaithful hoistedUniform
            sourceResolves exposed constructed promoted
      rw [restores]
      exact plainFaithful.returned
  varying := by
    rw [List.perm_ext_iff_of_nodup hoistedFaithful.varying_nodup plainFaithful.varying_nodup]
    intro identity
    rw [hoistedFaithful.mem_varying_iff hoistedUniform,
      plainFaithful.mem_varying_iff uniform,
      Resolution.varies_hoisted_iff resolves]
  pinned := by
    intro statement member identity built noResult
    obtain ⟨node, exposed, constructed, rfl, ⟨name, bound, unfolds⟩, written⟩ :=
      hoistedFaithful.made statement member identity built
    obtain ⟨parameter, isParameter, varies, uses⟩ :=
      exists_varying_of_made resolves hoistedFaithful hoistedUniform
        exposed constructed noResult
    exact ⟨name, node.term, parameter, bound, unfolds, isParameter, varies, uses⟩

end Resolved

/-- Generating fails as the blueprint does. -/
theorem generate_eq_error_iff
    {job : Job}
    {catalog : Catalog}
    {failure : JobError} :
    job.generate catalog = .error failure ↔
      job.blueprintWithin (job.depthLimit catalog) catalog.lookup = .error failure := by
  simp only [generate, blueprint]
  split
  · rename_i cause failed
    simp [failed]
  · rename_i laidOut accepted
    simp [accepted]

/-- A blueprint of a job is laid out over the tree that the job resolves to. -/
theorem blueprintWithin_ok
    {lookup : Lookup}
    {job : Job}
    {limit : Nat}
    {blueprint : Blueprint}
    (accepted : job.blueprintWithin limit lookup = .ok blueprint) :
    ∃ root,
      (Resolution.resolveWithin limit (job.setting lookup) job.goal
          Resolution.Memory.empty).1 = .ok root ∧
        Blueprint.ofTree (job.prepare root) (ImportTable.ofImports job.imports) =
          .ok blueprint := by
  simp only [blueprintWithin] at accepted
  split at accepted
  · cases accepted
  · split at accepted
    · cases accepted
    · rename_i root resolved
      simp only [layOut] at accepted
      split at accepted
      · cases accepted
      · rename_i laidOut laid
        cases accepted
        exact ⟨root, resolved, laid⟩

end Job

/--
Hoisting preserves meaning, with any lookup that finds no goals.

With and without it a job fails for the same reason or succeeds, and when it
succeeds the two functions mean the same, in the sense of `Job.HoistingSound`.
-/
theorem hoisting_sound
    {lookup : Lookup}
    (noGoals : lookup.FindsNoGoal)
    (job : Job) :
    (∀ limit failure,
        Job.blueprintWithin limit { job with hoist := true } lookup = .error failure ↔
          Job.blueprintWithin limit { job with hoist := false } lookup =
            .error failure) ∧
      (∀ mentioned failure,
        Job.generate { job with hoist := true } { lookup, mentioned } = .error failure ↔
          Job.generate { job with hoist := false } { lookup, mentioned } =
            .error failure) ∧
      ∀ limit hoisted plain,
        Job.blueprintWithin limit { job with hoist := true } lookup = .ok hoisted →
        Job.blueprintWithin limit { job with hoist := false } lookup = .ok plain →
        ∃ root,
          (Resolution.resolveWithin limit (job.setting lookup) job.goal
              Resolution.Memory.empty).1 = .ok root ∧
            job.HoistingSound root hoisted plain := by
  have sameErrors :
      ∀ limit failure,
        Job.blueprintWithin limit { job with hoist := true } lookup = .error failure ↔
          Job.blueprintWithin limit { job with hoist := false } lookup =
            .error failure := by
    intro limit failure
    rw [Job.blueprintWithin_eq_error_iff noGoals, Job.blueprintWithin_eq_error_iff noGoals]
    rfl
  refine ⟨sameErrors, ?_, ?_⟩
  · intro mentioned failure
    rw [Job.generate_eq_error_iff, Job.generate_eq_error_iff]
    exact sameErrors _ failure
  · intro limit hoisted plain hoistedAccepted plainAccepted
    obtain ⟨root, resolved, hoistedLaid⟩ := Job.blueprintWithin_ok hoistedAccepted
    obtain ⟨sameRoot, resolvedAgain, plainLaid⟩ := Job.blueprintWithin_ok plainAccepted
    have same : sameRoot = root := Except.ok.inj (resolvedAgain.symm.trans resolved)
    subst same
    refine ⟨sameRoot, resolved, ?_⟩
    have hoistedFaithful :=
      (Resolution.faithful_of_resolveWithin resolved (.inr rfl) hoistedLaid).1
    have plainFaithful :=
      (Resolution.faithful_of_resolveWithin resolved (.inl rfl) plainLaid).1
    obtain ⟨children, rfl, resolves⟩ := Resolution.resolveWithin_resolves resolved
    have derived :
        Resolution.ResolvesEach (job.setting lookup)
          (Resolution.resolveWithin limit (job.setting lookup) job.goal
            Resolution.Memory.empty).2.known
          job.results (Resolution.rootNode job.goal children).children :=
      resolves
    have holds :
        (Resolution.resolveWithin limit (job.setting lookup) job.goal
          Resolution.Memory.empty).2.HoldsNoGoal :=
      Resolution.Memory.empty_holdsNoGoal.resolveWithin noGoals limit job.goal
    have uniform := Resolution.uniform_of_resolves holds derived
    have hoistedUniform := Resolution.uniform_hoisted_of_resolves holds derived
    exact
      Job.hoistingSound_of_faithful derived uniform hoistedUniform
        hoistedFaithful plainFaithful

namespace Session

/-- A type of the package `p`. -/
def named (name : String) : NamedType :=
  NamedType.ofText "p" name

/-- A constructor of a type of the package `p`. -/
def make
    (name : String)
    (params : List String) :
    Package.Func where
  name := "New" ++ name
  receiver := none
  params := params.map (fun param =>
    { name := none, type := named param, variadic := false })
  results := [named name]

/-- A service needs its settings and a session, which needs a request and the settings. -/
def search : PackageSearch where
  packages := PackageIndex.ofList
    [{ importPath := "p"
       name := "p"
       functions :=
         [make "Service" ["Settings", "Session"], make "Session" ["Request", "Settings"]]
       structs := [{ name := "Settings", fields := [] }]
       aliases := []
       interfaces := [] }]
  viewpoint := none

/-- The job of providing the service for each request. -/
def job : Job where
  name := "Provide"
  importPath := "p"
  package := none
  params := [{ need := .named (named "Request"), hoist := false }]
  results := [.named (named "Service")]
  redirects := []
  hoist := true
  imports := []

end Session

/-- The settings are promoted, the request varies, and the session is still constructed. -/
theorem hoisting_sound_session :
    ∃ root hoisted plain,
      Job.blueprintWithin 4 { Session.job with hoist := true } Session.search.lookup =
          .ok hoisted ∧
        Job.blueprintWithin 4 { Session.job with hoist := false } Session.search.lookup =
          .ok plain ∧
        Session.job.HoistingSound root hoisted plain ∧
        root.termOf? "\"p\".Settings" =
          some (.literal { importPath := "p", name := "Settings" } [] []) := by
  have noGoals : Session.search.lookup.FindsNoGoal :=
    PackageSearch.lookup_findsNoGoal Session.search
  obtain ⟨root, resolved, construction⟩ :
      ∃ root,
        (Resolution.resolveWithin 4 (Session.job.setting Session.search.lookup)
            Session.job.goal Resolution.Memory.empty).1 = .ok root ∧
          root.termOf? "\"p\".Settings" =
            some (.literal { importPath := "p", name := "Settings" } [] []) :=
    ⟨_, rfl, rfl⟩
  obtain ⟨hoisted, hoistedAccepted⟩ :
      ∃ hoisted,
        Job.blueprintWithin 4 { Session.job with hoist := true } Session.search.lookup =
          .ok hoisted :=
    Job.exists_blueprintWithin noGoals rfl resolved
  obtain ⟨plain, plainAccepted⟩ :
      ∃ plain,
        Job.blueprintWithin 4 { Session.job with hoist := false } Session.search.lookup =
          .ok plain :=
    Job.exists_blueprintWithin noGoals rfl resolved
  obtain ⟨sameRoot, resolvedAgain, sound⟩ :=
    (hoisting_sound noGoals Session.job).2.2 4 hoisted plain
      hoistedAccepted plainAccepted
  have same : sameRoot = root := Except.ok.inj (resolvedAgain.symm.trans resolved)
  rw [same] at sound
  exact ⟨root, hoisted, plain, hoistedAccepted, plainAccepted, sound, construction⟩

end Wiring
