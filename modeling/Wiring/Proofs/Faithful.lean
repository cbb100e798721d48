import Wiring.Proofs.Denotation
import Wiring.Proofs.LayoutTotal

namespace Wiring

/-!
# Layouts are faithful to their trees

While a tree is laid out, every parameter and every statement stands for a node
that has been met, and the name that a node was given denotes the term of the
node. This holds for a node that is met again as well: a supplied one denotes the
parameter of its identity, and constructed ones of one identity have one term. In
the end the function returns the terms of the results.
-/

namespace Draft

/--
A statement stands for a node of an identity that laying out a tree comes to: it
binds a name to the term of the node, and writes a symbol that the node mentions.
-/
def Constructs
    (scope : Scope)
    (root : Tree)
    (draft : Draft)
    (statement : Statement)
    (identity : String) : Prop :=
  ∃ node,
    root.Exposed node ∧
      node.isSupplied = false ∧
      node.identity = identity ∧
      (∃ name,
        statement.boundName? = some name ∧
          draft.Denotes name node.term) ∧
      ∃ symbol,
        statement.symbol? = some symbol ∧
          symbol.reference ∈ node.mentions ∧
          scope.symbol symbol.importPath symbol.name = .ok symbol

/-- A statement stands for the same node later. -/
theorem Constructs.growsTo
    {scope : Scope}
    {root : Tree}
    {draft later : Draft}
    {statement : Statement}
    {identity : String}
    (constructs : draft.Constructs scope root statement identity)
    (grown : draft.GrowsTo later) :
    later.Constructs scope root statement identity := by
  obtain ⟨node, exposed, constructed, same, ⟨name, bound, denotes⟩, written⟩ := constructs
  exact ⟨node, exposed, constructed, same, ⟨name, bound, grown _ _ denotes⟩, written⟩

/-- Everything in a draft stands for a node that laying out a tree comes to. -/
structure Faithful
    (scope : Scope)
    (root : Tree)
    (draft : Draft) : Prop where
  wellNamed : draft.WellNamed
  identities :
    (draft.parameters.map (fun parameter => parameter.value.identity)).Nodup
  received :
    ∀ parameter ∈ draft.parameters,
      ∃ node,
        root.Exposed node ∧
          node.isSupplied = true ∧
          node.identity = parameter.value.identity ∧
          node.hoist = parameter.hoisted
  built :
    ∀ node value,
      root.Exposed node →
      node.isSupplied = false →
      draft.built.get? node.identity = some value →
      draft.Denotes value.name node.term
  made :
    ∀ statement ∈ draft.statements, ∀ identity,
      statement.builtIdentity? = some identity →
      draft.Constructs scope root statement identity

/-- Nothing is laid out at first. -/
theorem empty_faithful
    (scope : Scope)
    (root : Tree) :
    empty.Faithful scope root where
  wellNamed := empty_wellNamed
  identities := List.nodup_nil
  received := by simp [empty]
  built := by simp [empty]
  made := by simp [empty]

namespace Faithful

variable {scope : Scope} {root tree : Tree} {draft : Draft}

/-- A value that is supplied for the first time becomes a parameter. -/
theorem addParameter
    (faithful : draft.Faithful scope root)
    (exposed : root.Exposed tree)
    (supplied : tree.isSupplied = true)
    (absent : draft.parameter? tree.identity = none)
    {parameter : Blueprint.Parameter}
    (fresh : parameter.value.name ∉ scope.takenNames draft)
    (identity : parameter.value.identity = tree.identity)
    (hoisted : parameter.hoisted = tree.hoist) :
    (draft.addParameter parameter).Faithful scope root ∧
      draft.GrowsTo (draft.addParameter parameter) := by
  obtain ⟨unreserved, unbound⟩ := Scope.not_mem_of_fresh fresh
  have notNil : parameter.value.name ≠ "nil" := by
    intro isNil
    rw [isNil] at unreserved
    exact unreserved (by decide)
  have grown : draft.GrowsTo (draft.addParameter parameter) :=
    growsTo_addParameter notNil
  refine ⟨?_, grown⟩
  exact {
    wellNamed := faithful.wellNamed.addParameter unreserved unbound
    identities := by
      simp only [Draft.addParameter, List.map_append, List.map_cons, List.map_nil]
      refine List.nodup_append.mpr ⟨faithful.identities, by simp, ?_⟩
      intro known member new isNew same
      obtain ⟨other, listed, rfl⟩ := List.mem_map.mp member
      rw [List.mem_singleton] at isNew
      have found := List.find?_eq_none.mp absent other listed
      rw [same, isNew, identity] at found
      simp at found
    received := by
      intro other member
      rcases List.mem_append.mp member with known | isNew
      · exact faithful.received other known
      · rw [List.mem_singleton] at isNew
        subst isNew
        exact ⟨tree, exposed, supplied, identity.symm, hoisted.symm⟩
    built := fun node value nodeExposed constructed found =>
      grown _ _ (faithful.built node value nodeExposed constructed found)
    made := fun statement member identity built =>
      (faithful.made statement member identity built).growsTo grown }

/-- A constructed value is remembered for every node of its identity. -/
theorem remember
    (faithful : draft.Faithful scope root)
    (coherent : root.Coherent)
    (exposed : root.Exposed tree)
    (constructed : tree.isSupplied = false)
    {value : Value}
    (denotes : draft.Denotes value.name tree.term) :
    (draft.remember tree.identity value).Faithful scope root where
  wellNamed := ⟨faithful.wellNamed.distinct, faithful.wellNamed.unreserved⟩
  identities := faithful.identities
  received := faithful.received
  built := by
    intro node known nodeExposed nodeConstructed found
    rw [denotes_remember]
    rw [Draft.remember, Keyed.get?_insert] at found
    by_cases same : tree.identity = node.identity
    · rw [if_pos same] at found
      cases found
      rw [coherent.term_eq nodeExposed exposed nodeConstructed constructed same.symm]
      exact denotes
    · rw [if_neg same] at found
      exact faithful.built node known nodeExposed nodeConstructed found
  made := faithful.made

/-- An emitted statement stands for the node whose recipe it carries out. -/
theorem addStatements
    (faithful : draft.Faithful scope root)
    (exposed : root.Exposed tree)
    (constructed : tree.isSupplied = false)
    {recipe : Recipe}
    (isRecipe : tree.origin = .recipe recipe)
    {inputs : List Value}
    (denotes :
      List.Forall₂ (fun child input => draft.Denotes input.name child.term)
        tree.children inputs)
    {value : Value}
    {statement : Statement}
    {checks : List Statement}
    (emits : scope.Emits draft tree.type recipe inputs value statement checks) :
    (draft.addStatements (statement :: checks)).Faithful scope root ∧
      draft.GrowsTo (draft.addStatements (statement :: checks)) ∧
      (draft.addStatements (statement :: checks)).Denotes value.name tree.term := by
  obtain ⟨unreserved, unbound⟩ := Scope.not_mem_of_fresh emits.fresh
  have grown : draft.GrowsTo (draft.addStatements (statement :: checks)) :=
    growsTo_addStatements faithful.wellNamed emits.bound emits.checks unreserved unbound
  have denotesTree :
      (draft.addStatements (statement :: checks)).Denotes value.name tree.term := by
    rw [Tree.term_of_recipe constructed isRecipe]
    exact denotes_of_emits emits (List.forall₂_map_left_iff.mpr denotes)
  refine ⟨?_, grown, denotesTree⟩
  exact {
    wellNamed :=
      faithful.wellNamed.addStatements emits.bound emits.checks unreserved unbound
    identities := faithful.identities
    received := faithful.received
    built := fun node known nodeExposed nodeConstructed found =>
      grown _ _ (faithful.built node known nodeExposed nodeConstructed found)
    made := by
      intro other member built isBuilt
      rcases List.mem_append.mp member with known | isNew
      · exact (faithful.made other known built isBuilt).growsTo grown
      · rcases List.mem_cons.mp isNew with isStatement | isCheck
        · subst isStatement
          rw [emits.built, Option.some.injEq] at isBuilt
          obtain ⟨symbol, isSymbol, mentioned, written⟩ := emits.written
          refine ⟨tree, exposed, constructed, isBuilt,
            ⟨value.name, emits.bound, denotesTree⟩, symbol, isSymbol, ?_, written⟩
          simpa [Tree.mentions, constructed, isRecipe] using mentioned
        · rw [(Statement.boundName?_of_isGuard (emits.checks other isCheck)).2.2] at isBuilt
          cases isBuilt }

/-- A supplied node that is met for the first time is received. -/
theorem receive
    (faithful : draft.Faithful scope root)
    (exposed : root.Exposed tree)
    (supplied : tree.isSupplied = true)
    (absent : draft.parameter? tree.identity = none)
    {value : Value}
    {later : Draft}
    (laid : scope.layParameter tree.type tree.hoist draft = .ok (value, later)) :
    later.Faithful scope root ∧
      draft.GrowsTo later ∧
      later.Denotes value.name tree.term := by
  obtain ⟨fresh, type, expression, written, rfl⟩ := Scope.layParameter_ok laid
  have identity : value.identity = tree.identity := by
    rw [Value.identity, type, Tree.identity]
  let parameter : Blueprint.Parameter :=
    { value, hoisted := tree.hoist, type := expression }
  have added :
      (draft.addParameter parameter).Faithful scope root ∧
        draft.GrowsTo (draft.addParameter parameter) :=
    faithful.addParameter exposed supplied absent fresh identity rfl
  refine ⟨added.1, added.2, ?_⟩
  rw [Tree.term_of_isSupplied supplied, ← identity]
  have member : parameter ∈ (draft.addParameter parameter).parameters := by
    simp [Draft.addParameter]
  exact denotes_parameter added.1.wellNamed member

/-- A constructed node that is met for the first time is built from its children. -/
theorem build
    (faithful : draft.Faithful scope root)
    (coherent : root.Coherent)
    (exposed : root.Exposed tree)
    (constructed : tree.isSupplied = false)
    {recipe : Recipe}
    (isRecipe : tree.origin = .recipe recipe)
    {inputs : List Value}
    (denotes :
      List.Forall₂ (fun child input => draft.Denotes input.name child.term)
        tree.children inputs)
    {zeros : List ZeroValue}
    {value : Value}
    {later : Draft}
    (laid : scope.layRecipe zeros tree.type recipe inputs draft = .ok (value, later)) :
    (later.remember tree.identity value).Faithful scope root ∧
      draft.GrowsTo (later.remember tree.identity value) ∧
      (later.remember tree.identity value).Denotes value.name tree.term := by
  have arity : inputs.length = recipe.needs.length := by
    obtain ⟨known, isKnown, sameLength⟩ := coherent.recipe exposed constructed
    rw [isRecipe, Origin.recipe.injEq] at isKnown
    rw [isKnown, sameLength, denotes.length_eq]
  have kept :
      later.Faithful scope root ∧
        draft.GrowsTo later ∧
        later.Denotes value.name tree.term := by
    rcases Scope.layRecipe_ok_cases arity laid with
      ⟨statement, checks, rfl, carries, emits⟩ |
      ⟨rfl, ⟨inner, rfl, sameName, forwards⟩ | ⟨rfl, isNil, makesNil⟩⟩
    · exact faithful.addStatements exposed constructed isRecipe denotes emits
    · refine ⟨faithful, GrowsTo.refl later, ?_⟩
      obtain ⟨child, rest, childDenotes, others, childrenShape⟩ :=
        List.forall₂_cons_right_iff.mp denotes
      rw [List.forall₂_nil_right_iff] at others
      subst others
      rw [sameName, Tree.term_of_recipe constructed isRecipe, childrenShape,
        List.map_singleton, forwards]
      exact childDenotes
    · refine ⟨faithful, GrowsTo.refl later, ?_⟩
      have noChildren : tree.children = [] := List.forall₂_nil_right_iff.mp denotes
      rw [isNil, Tree.term_of_recipe constructed isRecipe, noChildren, List.map_nil,
        makesNil]
      exact denotes_nil faithful.wellNamed
  exact ⟨kept.1.remember coherent exposed constructed kept.2.2, kept.2.1, kept.2.2⟩

end Faithful

end Draft

namespace Scope

variable {scope : Scope} {zeros : List ZeroValue} {root : Tree}

/-- Laying out the children of a root is faithful, and their values denote their terms. -/
theorem layChildren_faithful
    (coherent : root.Coherent)
    {draft : Draft}
    {values : List Value}
    (laid : scope.layEach zeros [] root.children Draft.empty = .ok (values, draft)) :
    draft.Faithful scope root ∧
      List.Forall₂ (fun child value => draft.Denotes value.name child.term)
        root.children values := by
  refine
    layChildren_induct (Draft.Faithful scope root) Draft.GrowsTo
      (fun tree value draft => draft.Denotes value.name tree.term)
      Draft.GrowsTo.refl Draft.GrowsTo.trans
      (fun stands grown => grown _ _ stands)
      ?received ?receive ?built ?build (Draft.empty_faithful scope root) laid
  case received =>
    intro tree draft parameter exposed supplied faithful found
    have identity : parameter.value.identity = tree.identity := by
      simpa using List.find?_some found
    rw [Tree.term_of_isSupplied supplied, ← identity]
    exact Draft.denotes_parameter faithful.wellNamed (List.mem_of_find?_eq_some found)
  case receive =>
    intro tree draft value later exposed supplied faithful absent laid
    exact faithful.receive exposed supplied absent laid
  case built =>
    intro tree draft value exposed constructed faithful found
    exact faithful.built tree value exposed constructed found
  case build =>
    intro tree recipe inputs draft value later exposed constructed isRecipe faithful
      denotes laid
    exact faithful.build coherent exposed constructed isRecipe denotes laid

end Scope

namespace Blueprint

/-- A symbol is written with the name under which the function imports its package. -/
def Spells
    (blueprint : Blueprint)
    (symbol : Symbol) : Prop :=
  match symbol.qualifier with
  | none => symbol.importPath = "" ∨ symbol.importPath = blueprint.goal.importPath
  | some name => { path := symbol.importPath, name } ∈ blueprint.imports

/-- What a function returns in the error slot that it adds. -/
def addedTerms (blueprint : Blueprint) : List Term :=
  if blueprint.statements.any Statement.isGuard && !blueprint.goal.wantsError then
    [.nil]
  else
    []

/-- Everything in a function stands for a node that laying out its tree comes to. -/
structure Faithful
    (root : Tree)
    (blueprint : Blueprint) : Prop where
  identities :
    (blueprint.parameters.map (fun parameter => parameter.value.identity)).Nodup
  received :
    ∀ parameter ∈ blueprint.parameters,
      ∃ node,
        root.Exposed node ∧
          node.isSupplied = true ∧
          node.identity = parameter.value.identity ∧
          node.hoist = parameter.hoisted
  made :
    ∀ statement ∈ blueprint.statements, ∀ identity,
      statement.builtIdentity? = some identity →
      ∃ node,
        root.Exposed node ∧
          node.isSupplied = false ∧
          node.identity = identity ∧
          (∃ name,
            statement.boundName? = some name ∧
              blueprint.term? name = some node.term) ∧
          ∃ symbol,
            statement.symbol? = some symbol ∧
              blueprint.Spells symbol
  returned :
    blueprint.returnedTerms? =
      some (root.children.map Tree.term ++ blueprint.addedTerms)

section Assembled

variable {goal : Goal} {imports : ImportTable} {root : Tree} {draft : Draft}

/-- A mentioned symbol is written with the name of its import. -/
theorem spells_of_symbol
    (results : List Value)
    (types : List TypeExpr)
    {symbol : Symbol}
    (mentioned : symbol.reference ∈ Scope.mentioned goal root)
    (written :
      (Scope.ofTree goal imports root).symbol symbol.importPath symbol.name =
        .ok symbol) :
    (assembled (Scope.ofTree goal imports root) results types draft).Spells symbol := by
  rw [Scope.symbol] at written
  by_cases isBare :
      symbol.importPath = "" ∨
        symbol.importPath = (Scope.ofTree goal imports root).goal.importPath
  · rw [if_pos isBare] at written
    have unqualified : symbol.qualifier = none := by
      rw [← Except.ok.inj written]
    simp only [Spells, unqualified]
    exact isBare
  · rw [if_neg isBare] at written
    rw [not_or] at isBare
    obtain ⟨qualifier, used⟩ :=
      Scope.ofTree_used imports mentioned isBare.1 isBare.2
    have usedHere :
        (Scope.ofTree goal imports root).imports.known.get? symbol.importPath =
          some { name := qualifier, used := true } :=
      used
    have known :
        (Scope.ofTree goal imports root).imports.nameOf? symbol.importPath =
          some qualifier := by
      rw [ImportTable.nameOf?, usedHere]
      rfl
    rw [known] at written
    have qualified : symbol.qualifier = some qualifier := by
      rw [← Except.ok.inj written]
    simp only [Spells, qualified]
    exact ImportTable.mem_listed usedHere

/-- Putting a function together sorts its parameters, which changes no meaning. -/
theorem term?_assembled
    (scope : Scope)
    (results : List Value)
    (types : List TypeExpr)
    (wellNamed : draft.WellNamed)
    (name : String) :
    (assembled scope results types draft).term? name = draft.term? name := by
  have sameReceived :
      received? (draft.parameters.mergeSort Parameter.precedes) =
        received? draft.parameters :=
    (received?_perm wellNamed.distinct_parameters
      (List.mergeSort_perm draft.parameters Parameter.precedes).symm).symm
  unfold term? assembled
  dsimp only
  rw [sameReceived]
  rfl

/-- The returned operands have the names of the results, if there is one for each. -/
theorem map_name_returnedOperands
    {results : List Value}
    (arity : results.length = goal.results.length) :
    (Scope.returnedOperands goal results).map Operand.name = results.map Value.name := by
  apply List.ext_getElem
  · simp [Scope.returnedOperands, arity]
  · intro index inOperands inResults
    simp [Scope.returnedOperands, Value.passedAs]

/-- A function is faithful to a coherent tree that has one child for each result. -/
theorem faithful_of_layOut
    (coherent : root.Coherent)
    (arity : root.children.length = goal.results.length)
    {blueprint : Blueprint}
    (laid : layOut goal imports root = .ok blueprint) :
    blueprint.Faithful root := by
  obtain ⟨zeros, results, draft, types, zerosWritten, laidEach, typesWritten, rfl⟩ :=
    layOut_eq_ok_iff.mp laid
  obtain ⟨faithful, denotes⟩ := Scope.layChildren_faithful coherent laidEach
  have sameTerm :=
    term?_assembled (Scope.ofTree goal imports root) results types faithful.wellNamed
  have sameParameters := List.mergeSort_perm draft.parameters Parameter.precedes
  exact {
    identities := by
      have sameIdentities :=
        sameParameters.map (fun parameter => parameter.value.identity)
      exact sameIdentities.nodup_iff.mpr faithful.identities
    received := fun parameter member =>
      faithful.received parameter (sameParameters.mem_iff.mp member)
    made := by
      intro statement member identity built
      obtain ⟨node, exposed, constructed, same, ⟨name, bound, nodeDenotes⟩,
          symbol, isSymbol, mentioned, written⟩ :=
        faithful.made statement member identity built
      exact ⟨node, exposed, constructed, same,
        ⟨name, bound, (sameTerm name).trans nodeDenotes.2⟩,
        symbol, isSymbol,
        spells_of_symbol results types
          (Scope.mem_mentioned_of_exposed goal exposed mentioned) written⟩
    returned := by
      have resultsRead :
          List.Forall₂
            (fun operand term => draft.term? operand.name = some term)
            (Scope.returnedOperands goal results) (root.children.map Tree.term) := by
        have resultArity : results.length = goal.results.length := by
          rw [← denotes.length_eq, arity]
        have namesRead :
            List.Forall₂
              (fun name term => draft.term? name = some term)
              (results.map Value.name) (root.children.map Tree.term) := by
          rw [List.forall₂_map_left_iff, List.forall₂_map_right_iff]
          exact denotes.flip.imp (fun value tree holds => holds.2)
        rw [← map_name_returnedOperands resultArity] at namesRead
        exact List.forall₂_map_left_iff.mp namesRead
      apply List.mapM_eq_some_of_forall₂
      simp only [sameTerm]
      refine List.rel_append resultsRead ?_
      unfold addedTerms assembled
      dsimp only
      split
      · exact .cons (Draft.denotes_nil faithful.wellNamed).2 .nil
      · exact .nil }

end Assembled

end Blueprint

namespace Resolution

/-- A resolved root is laid out for its goal over a coherent tree, before and after hoisting. -/
theorem coherent_of_resolveWithin
    {limit : Nat}
    {setting : Setting}
    {goal : Goal}
    {memory : Memory}
    {root : Tree}
    (resolved : (resolveWithin limit setting goal memory).1 = .ok root)
    {tree : Tree}
    (prepared : tree = root ∨ tree = root.hoisted) :
    tree.Coherent ∧
      tree.children.length = goal.results.length ∧
      ∀ imports, Blueprint.ofTree tree imports = Blueprint.layOut goal imports tree := by
  obtain ⟨children, rfl, resolves⟩ := resolveWithin_resolves resolved
  have derived :
      ResolvesEach setting (resolveWithin limit setting goal memory).2.known
        goal.results (rootNode goal children).children :=
    resolves
  rcases prepared with rfl | rfl
  · exact ⟨coherent_of_resolves derived, resolves.length_eq.symm, fun _ => rfl⟩
  · have arity :
        (rootNode goal children).hoisted.children.length = goal.results.length := by
      rw [Tree.children_hoisted, List.length_map]
      exact resolves.length_eq.symm
    exact ⟨coherent_hoisted_of_resolves derived, arity, fun _ => rfl⟩

/-- The function laid out over a resolved root is faithful to it, before and after hoisting. -/
theorem faithful_of_resolveWithin
    {limit : Nat}
    {setting : Setting}
    {goal : Goal}
    {memory : Memory}
    {root : Tree}
    (resolved : (resolveWithin limit setting goal memory).1 = .ok root)
    {tree : Tree}
    (prepared : tree = root ∨ tree = root.hoisted)
    {imports : ImportTable}
    {blueprint : Blueprint}
    (laid : Blueprint.ofTree tree imports = .ok blueprint) :
    blueprint.Faithful tree ∧ tree.children.length = goal.results.length := by
  obtain ⟨coherent, arity, isLayOut⟩ := coherent_of_resolveWithin resolved prepared
  rw [isLayOut] at laid
  exact ⟨Blueprint.faithful_of_layOut coherent arity laid, arity⟩

/--
A function returns the terms of its tree's results, whether or not it is hoisted.

Reading the body backwards from what is returned gives for each result what the
tree says: supplied nodes are parameters, of which each identity has one, and the
others are made by their recipes from their children. The functions and types
are written with the names under which their packages are imported.
-/
theorem returnedTerms_eq
    {limit : Nat}
    {setting : Setting}
    {goal : Goal}
    {memory : Memory}
    {root : Tree}
    (resolved : (resolveWithin limit setting goal memory).1 = .ok root)
    {tree : Tree}
    (prepared : tree = root ∨ tree = root.hoisted)
    {imports : ImportTable}
    {blueprint : Blueprint}
    (laid : Blueprint.ofTree tree imports = .ok blueprint) :
    blueprint.returnedTerms? =
        some (tree.children.map Tree.term ++ blueprint.addedTerms) ∧
      tree.children.length = goal.results.length ∧
      (blueprint.parameters.map (fun parameter => parameter.value.identity)).Nodup ∧
      ∀ statement ∈ blueprint.statements, ∀ symbol,
        statement.symbol? = some symbol →
        blueprint.Spells symbol := by
  obtain ⟨faithful, arity⟩ := faithful_of_resolveWithin resolved prepared laid
  refine ⟨faithful.returned, arity, faithful.identities, ?_⟩
  intro statement member symbol isSymbol
  obtain ⟨identity, built⟩ : ∃ identity, statement.builtIdentity? = some identity := by
    cases statement with
    | call identity function callee name arguments =>
        exact ⟨identity, rfl⟩
    | literal identity record type name fields =>
        exact ⟨identity, rfl⟩
    | guard zeros =>
        cases isSymbol
  obtain ⟨node, exposed, constructed, same, bound, known, isKnown, spells⟩ :=
    faithful.made statement member identity built
  rw [isSymbol, Option.some.injEq] at isKnown
  rw [isKnown]
  exact spells

/-- The store is opened with its settings, which are received when hoisted. -/
theorem returnedTerms_eq_storage :
    ∃ root blueprint hoisted,
      (resolveWithin 3 Storage.setting Storage.job.goal Memory.empty).1 = .ok root ∧
        Blueprint.ofTree root ImportTable.empty = .ok blueprint ∧
        Blueprint.ofTree root.hoisted ImportTable.empty = .ok hoisted ∧
        blueprint.returnedTerms? =
          some
            (.call { importPath := "p", name := "Open" } 0
                [.literal { importPath := "p", name := "Settings" } [] []] ::
              blueprint.addedTerms) ∧
        hoisted.returnedTerms? =
          some
            (.call { importPath := "p", name := "Open" } 0
                [.parameter "\"p\".Settings"] ::
              hoisted.addedTerms) := by
  have noGoals : Storage.setting.lookup.FindsNoGoal :=
    PackageSearch.lookup_findsNoGoal Storage.search
  obtain ⟨root, resolved, terms, hoistedTerms⟩ :
      ∃ root,
        (resolveWithin 3 Storage.setting Storage.job.goal Memory.empty).1 = .ok root ∧
          root.children.map Tree.term =
            [.call { importPath := "p", name := "Open" } 0
              [.literal { importPath := "p", name := "Settings" } [] []]] ∧
          root.hoisted.children.map Tree.term =
            [.call { importPath := "p", name := "Open" } 0
              [.parameter "\"p\".Settings"]] :=
    ⟨_, rfl, rfl, rfl⟩
  obtain ⟨children, rfl, resolves⟩ := resolveWithin_resolves resolved
  obtain ⟨⟨blueprint, laid⟩, hoisted, hoistedLaid⟩ :=
    exists_ofTree
      (Memory.empty_holdsNoGoal.resolveWithin noGoals 3 Storage.job.goal)
      resolves ImportTable.empty
  have returned := (returnedTerms_eq resolved (.inl rfl) laid).1
  have hoistedReturned := (returnedTerms_eq resolved (.inr rfl) hoistedLaid).1
  rw [terms] at returned
  rw [hoistedTerms] at hoistedReturned
  exact ⟨_, blueprint, hoisted, resolved, laid, hoistedLaid, returned, hoistedReturned⟩

end Resolution

end Wiring
