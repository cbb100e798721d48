import Wiring.Job
import Wiring.Proofs.Coherence
import Wiring.Proofs.Layout
import Wiring.Proofs.PackageAnswers
import Wiring.Proofs.References

namespace Wiring

/-!
# Layout never fails on resolved trees

A layout can fail for four reasons, and each is ruled out by a fact about
resolved trees. Every constructed node has a recipe, and one child for each of
its needs. No goal occurs below the root. No identity is constructed below a node
of the same identity, because both would have the same children and hence the
same size. And every package that is written was imported by the scan.
-/

/-- A lookup whose recipes are never goals. -/
def Lookup.FindsNoGoal (lookup : Lookup) : Prop :=
  ∀ type goal, lookup type ≠ .ok (.goal goal)

namespace PackageSearch

/-- Searching packages finds no goal. -/
theorem lookup_findsNoGoal
    (search : PackageSearch) :
    Lookup.FindsNoGoal search.lookup := by
  intro type goal found
  cases answers_of_lookup found

end PackageSearch

namespace Resolution

/-- No goal is remembered as the recipe of an identity. -/
def Memory.HoldsNoGoal (memory : Memory) : Prop :=
  ∀ identity goal, memory.known.get? identity ≠ some (.goal goal)

/-- Nothing is remembered at first. -/
theorem Memory.empty_holdsNoGoal :
    Memory.empty.HoldsNoGoal := by
  intro identity goal remembered
  simp [Memory.empty] at remembered

/-- A need finds no goal if its lookup does not. -/
theorem recipe_ne_goal
    {lookup : Lookup}
    (noGoals : lookup.FindsNoGoal)
    (need : Need)
    (goal : Goal) :
    need.recipe lookup ≠ .ok (.goal goal) := by
  unfold Need.recipe
  cases need with
  | named type =>
      dsimp only
      split
      · simp
      · exact noGoals type goal
  | record listed =>
      simp
  | error =>
      simp

/-- A lookup that finds no goals remembers none. -/
theorem Memory.HoldsNoGoal.recipeFor
    {setting : Setting}
    (noGoals : setting.lookup.FindsNoGoal)
    (need : Need)
    {memory : Memory}
    (holds : memory.HoldsNoGoal) :
    (recipeFor setting need memory).2.HoldsNoGoal := by
  rcases recipeFor_cases setting need memory with
    ⟨recipe, remembered, result⟩ | ⟨cause, absent, failed, result⟩ |
    ⟨recipe, absent, found, result⟩
  · rw [result]
    exact holds
  · rw [result]
    exact holds
  · rw [result]
    intro identity goal remembered
    rw [Keyed.get?_insert] at remembered
    by_cases same : need.identity = identity
    · rw [if_pos same] at remembered
      cases remembered
      exact recipe_ne_goal noGoals need goal found
    · rw [if_neg same] at remembered
      exact holds identity goal remembered

/-- A run whose lookup finds no goals remembers none. -/
theorem Memory.HoldsNoGoal.resolveWithin
    {setting : Setting}
    (noGoals : setting.lookup.FindsNoGoal)
    (limit : Nat)
    (goal : Goal)
    {memory : Memory}
    (holds : memory.HoldsNoGoal) :
    (resolveWithin limit setting goal memory).2.HoldsNoGoal :=
  resolveWithin_preserves
    Memory.HoldsNoGoal
    (fun _ => True)
    (fun need _ _ _ kept => kept.recipeFor noGoals need)
    (fun _ _ _ _ _ _ _ _ _ _ => trivial)
    limit (fun _ _ => trivial) holds

/-- No run of a sequence remembers a goal if the lookup finds none. -/
theorem Memory.after_holdsNoGoal
    {setting : Setting}
    (noGoals : setting.lookup.FindsNoGoal)
    (goals : List (Nat × Goal)) :
    (Memory.after setting goals).HoldsNoGoal :=
  Memory.after_induct
    Memory.HoldsNoGoal
    goals Memory.empty_holdsNoGoal
    (fun goal _ _ kept => kept.resolveWithin noGoals goal.1 goal.2)

/-- A derived node is no goal if none is known. -/
theorem Resolves.origin_ne_goal
    {setting : Setting}
    {memory : Memory}
    (holds : memory.HoldsNoGoal)
    {stated : Need}
    {tree : Tree}
    (resolves : Resolves setting memory.known stated tree)
    (goal : Goal) :
    tree.origin ≠ .recipe (.goal goal) := by
  intro origin
  exact holds _ goal (resolves.recipe_known origin).1

end Resolution

namespace Scope

variable {scope : Scope} {zeros : List ZeroValue}

/-- Trees can be laid out one after the other if each can be. -/
theorem exists_layEach
    {constructing : List String}
    {trees : List Tree}
    (each :
      ∀ tree ∈ trees, ∀ draft,
        ∃ value later,
          scope.layTree zeros constructing tree draft = .ok (value, later))
    (draft : Draft) :
    ∃ values later,
      scope.layEach zeros constructing trees draft = .ok (values, later) ∧
        values.length = trees.length := by
  induction trees generalizing draft with
  | nil =>
      exact ⟨[], draft, rfl, rfl⟩
  | cons tree rest inductionHypothesis =>
      obtain ⟨value, middle, first⟩ := each tree (by simp) draft
      obtain ⟨values, later, remaining, sameLength⟩ :=
        inductionHypothesis
          (fun other member => each other (List.mem_cons_of_mem tree member))
          middle
      refine ⟨value :: values, later, ?_, by simp [sameLength]⟩
      simp only [layEach, first, remaining]

/-- A recipe is carried out if its symbols can be written and its inputs are there. -/
theorem exists_layRecipe
    {recipe : Recipe}
    (notGoal : ∀ goal, recipe ≠ .goal goal)
    (writes :
      ∀ reference ∈ recipe.references,
        ∃ symbol, scope.symbol reference.importPath reference.name = .ok symbol)
    {inputs : List Value}
    (arity : inputs.length = recipe.needs.length)
    (type : NamedType)
    (draft : Draft) :
    ∃ value later,
      scope.layRecipe zeros type recipe inputs draft = .ok (value, later) := by
  cases recipe with
  | call function =>
      obtain ⟨callee, written⟩ :=
        writes { importPath := function.importPath, name := function.name }
          (by simp [Recipe.references])
      simp only [layRecipe, layCall, written]
      exact ⟨_, _, rfl⟩
  | literal record =>
      obtain ⟨literal, written⟩ :=
        writes record.type.reference (by simp [Recipe.references])
      have writtenType :
          scope.symbol record.type.importPath record.type.name = .ok literal :=
        written
      simp only [layRecipe, layLiteral, writtenType]
      exact ⟨_, _, rfl⟩
  | forward synonym =>
      cases inputs with
      | nil =>
          simp [Recipe.needs] at arity
      | cons inner rest =>
          exact ⟨_, _, rfl⟩
  | noError =>
      exact ⟨_, _, rfl⟩
  | goal whole =>
      exact absurd rfl (notGoal whole)

/--
An exposed node of a coherent tree can be laid out below any of its ancestors.

An ancestor of the same identity would have the same children, and so could not
be larger.
-/
theorem exists_layTree
    {root : Tree}
    (coherent : root.Coherent)
    (notGoal :
      ∀ node,
        root.Exposed node →
        ∀ goal, node.origin ≠ .recipe (.goal goal))
    (writes :
      ∀ node,
        root.Exposed node →
        ∀ reference ∈ node.mentions,
          ∃ symbol, scope.symbol reference.importPath reference.name = .ok symbol)
    (tree : Tree)
    (exposed : root.Exposed tree)
    {constructing : List String}
    (ancestors :
      ∀ identity ∈ constructing,
        ∃ ancestor,
          root.Exposed ancestor ∧
            ancestor.isSupplied = false ∧
            ancestor.identity = identity ∧
            tree.count < ancestor.count)
    (draft : Draft) :
    ∃ value later,
      scope.layTree zeros constructing tree draft = .ok (value, later) := by
  induction tree generalizing constructing draft with
  | node type origin hoist children inductionHypothesis =>
      simp only [layTree]
      by_cases supplied : (Tree.node type origin hoist children).isSupplied = true
      · rw [if_pos supplied]
        split
        · exact ⟨_, _, rfl⟩
        · obtain ⟨symbol, written⟩ :=
            writes _ exposed type.reference (by simp [Tree.mentions, supplied])
          have writtenType :
              scope.symbol type.importPath type.name = .ok symbol :=
            written
          simp only [layParameter, typeExpr, writtenType]
          exact ⟨_, _, rfl⟩
      · rw [if_neg supplied]
        have constructed := Bool.eq_false_iff.mpr supplied
        split
        · exact ⟨_, _, rfl⟩
        · have fresh : type.identity ∉ constructing := by
            intro member
            obtain ⟨ancestor, ancestorExposed, ancestorConstructed, identity, larger⟩ :=
              ancestors type.identity member
            have shared :=
              coherent.shared exposed ancestorExposed
                constructed ancestorConstructed identity.symm
            rw [Tree.count_eq_of_children_eq shared.2] at larger
            exact Nat.lt_irrefl _ larger
          rw [if_neg fresh]
          obtain ⟨recipe, isRecipe, arity⟩ := coherent.recipe exposed constructed
          rw [Tree.origin_node] at isRecipe
          subst isRecipe
          have childrenLaid :
              ∀ child ∈ children, ∀ earlier,
                ∃ value later,
                  scope.layTree zeros (type.identity :: constructing) child earlier =
                    .ok (value, later) := by
            intro child member earlier
            apply inductionHypothesis child member (exposed.child constructed member)
            intro identity isAbove
            have smaller : child.count <
                (Tree.node type (.recipe recipe) hoist children).count :=
              Tree.count_lt_of_mem_children member
            rcases List.mem_cons.mp isAbove with isSelf | isFurther
            · exact ⟨_, exposed, constructed, isSelf.symm, smaller⟩
            · obtain ⟨ancestor, ancestorExposed, ancestorConstructed, same, larger⟩ :=
                ancestors identity isFurther
              exact ⟨ancestor, ancestorExposed, ancestorConstructed, same,
                Nat.lt_trans smaller larger⟩
          obtain ⟨inputs, middle, laid, sameLength⟩ :=
            exists_layEach childrenLaid draft
          have recipeNotGoal : ∀ goal, recipe ≠ .goal goal := by
            intro goal isGoal
            exact notGoal _ exposed goal (by rw [← isGoal, Tree.origin_node])
          have recipeWrites :
              ∀ reference ∈ recipe.references,
                ∃ symbol,
                  scope.symbol reference.importPath reference.name = .ok symbol := by
            intro reference mentioned
            exact writes _ exposed reference
              (by simpa [Tree.mentions, constructed] using mentioned)
          obtain ⟨value, later, carried⟩ :
              ∃ value later,
                scope.layRecipe zeros type recipe inputs middle = .ok (value, later) :=
            exists_layRecipe recipeNotGoal recipeWrites
              (sameLength.trans arity.symm) type middle
          simp only [laid, carried]
          exact ⟨_, _, rfl⟩

/-- The zero values of the results can be written. -/
theorem exists_zeroValues
    (goal : Goal)
    (imports : ImportTable)
    (root : Tree) :
    ∃ zeros, (ofTree goal imports root).zeroValues = .ok zeros := by
  apply List.exists_mapM_ok
  intro result member
  obtain ⟨symbol, written⟩ :=
    ofTree_symbol imports
      (mem_mentioned_of_result root (List.mem_filter.mp member).1)
      result.wanted.name
  have writtenType :
      (ofTree goal imports root).symbol result.wanted.importPath result.wanted.name =
        .ok symbol :=
    written
  simp only [zeroValue]
  split
  · exact ⟨_, rfl⟩
  · simp only [writtenType]
    split
    · exact ⟨_, rfl⟩
    · exact ⟨_, rfl⟩
    · split <;> exact ⟨_, rfl⟩
    · exact ⟨_, rfl⟩

/-- The types of the results can be written. -/
theorem exists_resultTypes
    (goal : Goal)
    (imports : ImportTable)
    (root : Tree)
    (results : List Value) :
    ∃ types, (ofTree goal imports root).resultTypes results = .ok types := by
  apply List.exists_mapM_ok
  rintro ⟨result, value⟩ member
  exact
    ofTree_typeExpr imports
      (mem_mentioned_of_result root (List.of_mem_zip member).1)

end Scope

namespace Blueprint

/-- A goal is laid out over any coherent tree without goals. -/
theorem exists_layOut
    (goal : Goal)
    (imports : ImportTable)
    {root : Tree}
    (coherent : root.Coherent)
    (notGoal :
      ∀ node,
        root.Exposed node →
        ∀ inner, node.origin ≠ .recipe (.goal inner)) :
    ∃ blueprint, layOut goal imports root = .ok blueprint := by
  obtain ⟨zeros, zerosWritten⟩ := Scope.exists_zeroValues goal imports root
  have writes :
      ∀ node,
        root.Exposed node →
        ∀ reference ∈ node.mentions,
          ∃ symbol,
            (Scope.ofTree goal imports root).symbol
              reference.importPath reference.name = .ok symbol := by
    intro node exposed reference mentioned
    exact Scope.ofTree_symbol imports
      (Scope.mem_mentioned_of_exposed goal exposed mentioned) reference.name
  have childrenLaid :
      ∀ child ∈ root.children, ∀ draft,
        ∃ value later,
          (Scope.ofTree goal imports root).layTree zeros [] child draft =
            .ok (value, later) := by
    intro child member draft
    exact Scope.exists_layTree coherent notGoal writes
      child ⟨child, member, .self child⟩ (by simp) draft
  obtain ⟨results, draft, laid, sameLength⟩ :=
    Scope.exists_layEach childrenLaid Draft.empty
  obtain ⟨types, typesWritten⟩ :=
    Scope.exists_resultTypes goal imports root results
  exact ⟨_, layOut_eq_ok_iff.mpr
    ⟨zeros, results, draft, types, zerosWritten, laid, typesWritten, rfl⟩⟩

end Blueprint

namespace Resolution

variable {setting : Setting} {memory : Memory}

/-- No exposed node of a derived root is a goal if none is known. -/
theorem origin_ne_goal_of_exposed
    (holds : memory.HoldsNoGoal)
    {needs : List Need}
    {root node : Tree}
    (resolves : ResolvesEach setting memory.known needs root.children)
    (exposed : root.Exposed node)
    (goal : Goal) :
    node.origin ≠ .recipe (.goal goal) := by
  obtain ⟨stated, nodeResolves⟩ := exists_resolves_of_exposed resolves exposed
  exact nodeResolves.origin_ne_goal holds goal

/-- Hoisting makes no node a goal. -/
theorem origin_ne_goal_of_exposed_hoisted
    (holds : memory.HoldsNoGoal)
    {needs : List Need}
    {root node : Tree}
    (resolves : ResolvesEach setting memory.known needs root.children)
    (exposed : root.hoisted.Exposed node)
    (goal : Goal) :
    node.origin ≠ .recipe (.goal goal) := by
  obtain ⟨source, hoistedFrom⟩ := exists_hoistedFrom resolves exposed
  obtain ⟨stated, sourceResolves⟩ := hoistedFrom.resolves
  rw [hoistedFrom.origin]
  exact sourceResolves.origin_ne_goal holds goal

/-- A resolved root can be laid out, before and after hoisting, if no goal is known. -/
theorem exists_ofTree
    (holds : memory.HoldsNoGoal)
    {goal : Goal}
    {children : List Tree}
    (resolves : ResolvesEach setting memory.known goal.results children)
    (imports : ImportTable) :
    (∃ blueprint,
        Blueprint.ofTree (rootNode goal children) imports = .ok blueprint) ∧
      ∃ blueprint,
        Blueprint.ofTree (rootNode goal children).hoisted imports = .ok blueprint := by
  have derived :
      ResolvesEach setting memory.known goal.results
        (rootNode goal children).children :=
    resolves
  constructor
  · exact Blueprint.exists_layOut goal imports (coherent_of_resolves derived)
      (fun _ exposed => origin_ne_goal_of_exposed holds derived exposed)
  · exact Blueprint.exists_layOut goal imports (coherent_hoisted_of_resolves derived)
      (fun _ exposed => origin_ne_goal_of_exposed_hoisted holds derived exposed)

end Resolution

namespace Job

/-- What stays the same while the needs of a job are resolved. -/
abbrev setting
    (job : Job)
    (lookup : Lookup) :
    Resolution.Setting where
  lookup
  substitutions := job.substitutions
  supplied := job.supplied

/-- A job fails if it is invalid, or valid and does not resolve, and for no other reason. -/
theorem blueprintWithin_eq_error_iff
    {lookup : Lookup}
    (noGoals : lookup.FindsNoGoal)
    {job : Job}
    {limit : Nat}
    {failure : JobError} :
    job.blueprintWithin limit lookup = .error failure ↔
      (∃ problem,
          job.validate = .error problem ∧ failure = .invalid problem) ∨
        (job.validate = .ok () ∧
          ∃ cause,
            (Resolution.resolveWithin limit (job.setting lookup) job.goal
                Resolution.Memory.empty).1 = .error cause ∧
              failure = .resolution job.identity cause) := by
  simp only [blueprintWithin]
  cases checked : job.validate with
  | error problem =>
      simp [eq_comm]
  | ok accepted =>
      cases resolved :
          (Resolution.resolveWithin limit (job.setting lookup) job.goal
            Resolution.Memory.empty).1 with
      | error cause =>
          simp [eq_comm]
      | ok tree =>
          obtain ⟨children, rfl, resolves⟩ := Resolution.resolveWithin_resolves resolved
          obtain ⟨⟨plain, plainLaid⟩, hoisted, hoistedLaid⟩ :=
            Resolution.exists_ofTree
              (Resolution.Memory.empty_holdsNoGoal.resolveWithin noGoals limit job.goal)
              resolves
              (ImportTable.ofImports job.imports)
          cases hoists : job.hoist with
          | true =>
              simp [layOut, prepare, hoists, hoistedLaid]
          | false =>
              simp [layOut, prepare, hoists, plainLaid]

/-- A valid job that resolves has a blueprint. -/
theorem exists_blueprintWithin
    {lookup : Lookup}
    (noGoals : lookup.FindsNoGoal)
    {job : Job}
    (accepted : job.validate = .ok ())
    {limit : Nat}
    {root : Tree}
    (resolved :
      (Resolution.resolveWithin limit (job.setting lookup) job.goal
        Resolution.Memory.empty).1 = .ok root) :
    ∃ blueprint, job.blueprintWithin limit lookup = .ok blueprint := by
  cases outcome : job.blueprintWithin limit lookup with
  | ok blueprint =>
      exact ⟨blueprint, rfl⟩
  | error failure =>
      rcases (blueprintWithin_eq_error_iff noGoals).mp outcome with
        ⟨problem, rejected, isInvalid⟩ | ⟨valid, cause, unresolved, isResolution⟩
      · rw [accepted] at rejected
        cases rejected
      · rw [resolved] at unresolved
        cases unresolved

end Job

/--
With a lookup that finds no goals, a tree that resolves can be laid out.

This holds after any earlier runs, before and after hoisting and for any imports
of the enclosing file, so a job fails only because it is invalid or does not
resolve. Searching packages is such a lookup.
-/
theorem layout_total :
    (∀ search : PackageSearch, Lookup.FindsNoGoal search.lookup) ∧
      ∀ setting : Resolution.Setting,
        setting.lookup.FindsNoGoal →
        (∀ earlier limit goal root imports,
            (Resolution.resolveWithin limit setting goal
              (Resolution.Memory.after setting earlier)).1 = .ok root →
            (∃ blueprint, Blueprint.ofTree root imports = .ok blueprint) ∧
              ∃ blueprint, Blueprint.ofTree root.hoisted imports = .ok blueprint) ∧
          (∀ job limit failure,
            Job.blueprintWithin limit job setting.lookup = .error failure →
            (∃ problem, failure = .invalid problem) ∨
              ∃ cause, failure = .resolution job.identity cause) ∧
          ∀ job mentioned failure,
            Job.generate job { lookup := setting.lookup, mentioned } = .error failure →
            (∃ problem, failure = .invalid problem) ∨
              ∃ cause, failure = .resolution job.identity cause := by
  refine ⟨PackageSearch.lookup_findsNoGoal, ?_⟩
  intro setting noGoals
  have onlyResolution :
      ∀ job limit failure,
        Job.blueprintWithin limit job setting.lookup = .error failure →
        (∃ problem, failure = .invalid problem) ∨
          ∃ cause, failure = .resolution job.identity cause := by
    intro job limit failure failed
    rcases (Job.blueprintWithin_eq_error_iff noGoals).mp failed with
      ⟨problem, rejected, isInvalid⟩ | ⟨accepted, cause, unresolved, isResolution⟩
    · exact .inl ⟨problem, isInvalid⟩
    · exact .inr ⟨cause, isResolution⟩
  refine ⟨?_, onlyResolution, ?_⟩
  · intro earlier limit goal root imports resolved
    obtain ⟨children, rfl, resolves⟩ := Resolution.resolveWithin_resolves resolved
    exact
      Resolution.exists_ofTree
        ((Resolution.Memory.after_holdsNoGoal noGoals earlier).resolveWithin
          noGoals limit goal)
        resolves imports
  · intro job mentioned failure failed
    simp only [Job.generate] at failed
    split at failed
    · rename_i cause failedBlueprint
      cases failed
      exact onlyResolution job _ failure failedBlueprint
    · cases failed

namespace Storage

/-- A package in which a store is opened with its settings, which may fail. -/
def package : Package where
  importPath := "p"
  name := "p"
  functions :=
    [{ name := "Open"
       receiver := none
       params :=
         [{ name := some "settings"
            type := NamedType.ofText "p" "Settings"
            variadic := false }]
       results := [NamedType.ofText "p" "Store", NamedType.error] }]
  structs := [{ name := "Settings", fields := [] }]
  aliases := []
  interfaces := []

/-- The search of that package. -/
def search : PackageSearch where
  packages := PackageIndex.ofList [package]
  viewpoint := none

/-- Answers from the search, without substitutions or supplied values. -/
def setting : Resolution.Setting where
  lookup := search.lookup
  substitutions := Keyed.empty
  supplied := Keyed.empty

/-- The job of opening the store. -/
def job : Job where
  name := "Provide"
  importPath := "p"
  package := none
  params := []
  results := [.named (NamedType.ofText "p" "Store")]
  redirects := []
  hoist := true
  imports := []

end Storage

/-- The store resolves and can be laid out, and a job without a name fails as invalid. -/
theorem layout_total_storage :
    Storage.setting.lookup.FindsNoGoal ∧
      (∃ root,
        (Resolution.resolveWithin 3 Storage.setting Storage.job.goal
          (Resolution.Memory.after Storage.setting [])).1 = .ok root ∧
        (∃ blueprint, Blueprint.ofTree root ImportTable.empty = .ok blueprint) ∧
        ∃ blueprint, Blueprint.ofTree root.hoisted ImportTable.empty = .ok blueprint) ∧
      (∃ failure,
        Job.blueprintWithin 3 { Storage.job with name := "" }
          Storage.setting.lookup = .error failure ∧
        ((∃ problem, failure = .invalid problem) ∨
          ∃ cause, failure = .resolution "\"p\"." cause)) ∧
      ∃ failure,
        Job.generate { Storage.job with name := "" } Storage.search.catalog =
          .error failure ∧
        ((∃ problem, failure = .invalid problem) ∨
          ∃ cause, failure = .resolution "\"p\"." cause) := by
  have noGoals : Storage.setting.lookup.FindsNoGoal :=
    layout_total.1 Storage.search
  obtain ⟨laysOut, blueprintFails, generateFails⟩ :=
    layout_total.2 Storage.setting noGoals
  refine ⟨noGoals, ⟨_, rfl, ?_⟩, ⟨_, rfl, ?_⟩, ⟨_, rfl, ?_⟩⟩
  · exact laysOut [] 3 Storage.job.goal _ ImportTable.empty rfl
  · exact blueprintFails { Storage.job with name := "" } 3 _ rfl
  · exact
      generateFails { Storage.job with name := "" } Storage.search.catalog.mentioned _ rfl

end Wiring
