import Mathlib.Data.Finset.Card
import Mathlib.Data.Set.Finite.Basic
import Mathlib.Logic.Relation
import Wiring.Lookup.Table
import Wiring.Proofs.Remembered

namespace Wiring.Resolution

/-!
# The dependency graph

Goals span a graph on identities: an identity that the caller supplies has no
edges, and any other points to the identities that its recipe needs, after
substitution. Resolution succeeds exactly if every identity that it can reach is
supplied or has a recipe, and none lies on a cycle.

For a failure the path of the run is a path of the graph without repetitions.
For a success the returned tree unrolls the graph: along every edge the subtrees
become smaller, which leaves no room for a cycle.
-/

/-- The needs that resolving some goals can come to, after substitution. -/
inductive Occurs
    (setting : Setting)
    (goals : List Goal) :
    Need → Prop where
  | result
      {goal : Goal}
      {stated : Need}
      (listed : goal ∈ goals)
      (member : stated ∈ goal.results) :
      Occurs setting goals (setting.substitutions.apply stated)
  | needed
      {need stated : Need}
      {recipe : Recipe}
      (occurs : Occurs setting goals need)
      (free : setting.supplied.get? need.identity = none)
      (found : need.recipe setting.lookup = .ok recipe)
      (member : stated ∈ recipe.needs) :
      Occurs setting goals (setting.substitutions.apply stated)

/-- The identities of the graph. -/
def Reachable
    (setting : Setting)
    (goals : List Goal)
    (identity : String) :
    Prop :=
  ∃ need, Occurs setting goals need ∧ need.identity = identity

/-- The edges of the graph. -/
def DependsOn
    (setting : Setting)
    (goals : List Goal)
    (identity other : String) :
    Prop :=
  setting.supplied.get? identity = none ∧
    ∃ need recipe stated,
      Occurs setting goals need ∧
        need.identity = identity ∧
        need.recipe setting.lookup = .ok recipe ∧
        stated ∈ recipe.needs ∧
        (setting.substitutions.apply stated).identity = other

/-- The recipe of a need that occurs is a matter of its identity. -/
def Agrees
    (setting : Setting)
    (goals : List Goal) :
    Prop :=
  ∀ need other,
    Occurs setting goals need →
    Occurs setting goals other →
    need.identity = other.identity →
    need.recipe setting.lookup = other.recipe setting.lookup

/-- Every remembered recipe is the answer for a need that occurs. -/
def Memory.Answers
    (memory : Memory)
    (setting : Setting)
    (goals : List Goal) :
    Prop :=
  ∀ identity recipe,
    memory.known.get? identity = some recipe →
    ∃ need,
      Occurs setting goals need ∧
        need.identity = identity ∧
        need.recipe setting.lookup = .ok recipe

/-- What a failure says about the graph; a run within its limit says nothing else. -/
def Blames
    (setting : Setting)
    (goals : List Goal) :
    ResolutionError → Prop
  | .unresolved _ cause =>
      ∃ need,
        Occurs setting goals need ∧
          setting.supplied.get? need.identity = none ∧
          need.recipe setting.lookup = .error cause
  | .cycle _ =>
      ∃ identity,
        Reachable setting goals identity ∧
          Relation.TransGen (DependsOn setting goals) identity identity
  | .tooDeep _ =>
      False

/-- What occurs for some goals occurs for more goals. -/
theorem Occurs.mono
    {setting : Setting}
    {goals more : List Goal}
    (included : goals ⊆ more)
    {need : Need}
    (occurs : Occurs setting goals need) :
    Occurs setting more need := by
  induction occurs with
  | result listed member =>
      exact .result (included listed) member
  | needed occurs free found member inductionHypothesis =>
      exact .needed inductionHypothesis free found member

section Answers

variable {setting : Setting} {goals : List Goal}

/-- Whether it is remembered or looked up, the answer for a need is that of the lookup. -/
theorem recipeFor_fst
    (agrees : Agrees setting goals)
    {need : Need}
    (occurs : Occurs setting goals need)
    {memory : Memory}
    (answers : memory.Answers setting goals) :
    (recipeFor setting need memory).1 = need.recipe setting.lookup := by
  rcases recipeFor_cases setting need memory with
    ⟨recipe, remembered, result⟩ | ⟨cause, absent, failed, result⟩ |
    ⟨recipe, absent, found, result⟩
  · obtain ⟨other, otherOccurs, sameIdentity, found⟩ :=
      answers need.identity recipe remembered
    rw [result, agrees need other occurs otherOccurs sameIdentity.symm, found]
  · rw [result, failed]
  · rw [result, found]

/-- Looking up a need that occurs remembers a right answer. -/
theorem Memory.Answers.recipeFor
    {need : Need}
    (occurs : Occurs setting goals need)
    {memory : Memory}
    (answers : memory.Answers setting goals) :
    (recipeFor setting need memory).2.Answers setting goals := by
  rcases recipeFor_cases setting need memory with
    ⟨recipe, remembered, result⟩ | ⟨cause, absent, failed, result⟩ |
    ⟨recipe, absent, found, result⟩
  · rw [result]
    exact answers
  · rw [result]
    exact answers
  · rw [result]
    intro identity known remembered
    rw [Keyed.get?_insert] at remembered
    by_cases same : need.identity = identity
    · rw [if_pos same] at remembered
      cases remembered
      exact ⟨need, occurs, same, found⟩
    · rw [if_neg same] at remembered
      exact answers identity known remembered

/-- The needs of a recipe that a run comes to occur as well. -/
theorem Occurs.of_recipeFor
    (agrees : Agrees setting goals)
    {need stated : Need}
    (occurs : Occurs setting goals need)
    (free : setting.supplied.get? need.identity = none)
    {memory later : Memory}
    (answers : memory.Answers setting goals)
    {recipe : Recipe}
    (looked : Resolution.recipeFor setting need memory = (.ok recipe, later))
    (member : stated ∈ recipe.needs) :
    Occurs setting goals (setting.substitutions.apply stated) := by
  have found := recipeFor_fst agrees occurs answers
  rw [looked] at found
  exact .needed occurs free found.symm member

/-- Right answers stay right when a need that occurs is resolved. -/
theorem Memory.Answers.resolveNeed
    (agrees : Agrees setting goals)
    {root : String}
    {limit : Nat}
    {path : List String}
    {stated : Need}
    (occurs : Occurs setting goals (setting.substitutions.apply stated))
    {memory : Memory}
    (answers : memory.Answers setting goals) :
    (resolveNeed setting root limit path stated memory).2.Answers setting goals :=
  resolveNeed_preserves
    (fun middle => middle.Answers setting goals)
    (Occurs setting goals)
    (fun _ _ needOccurs _ kept => kept.recipeFor needOccurs)
    (fun _ _ _ _ needOccurs free kept looked _ member =>
      needOccurs.of_recipeFor agrees free kept looked member)
    limit path occurs answers

/-- Right answers stay right when one of the goals is resolved. -/
theorem Memory.Answers.resolveWithin
    (agrees : Agrees setting goals)
    (limit : Nat)
    {goal : Goal}
    (listed : goal ∈ goals)
    {memory : Memory}
    (answers : memory.Answers setting goals) :
    (resolveWithin limit setting goal memory).2.Answers setting goals :=
  resolveWithin_preserves
    (fun middle => middle.Answers setting goals)
    (Occurs setting goals)
    (fun _ _ needOccurs _ kept => kept.recipeFor needOccurs)
    (fun _ _ _ _ needOccurs free kept looked _ member =>
      needOccurs.of_recipeFor agrees free kept looked member)
    limit
    (fun _ member => .result listed member)
    answers

/-- Only right answers are remembered after any sequence of runs. -/
theorem Memory.after_answers
    (agrees : Agrees setting goals)
    (earlier : List (Nat × Goal))
    (listed : ∀ goal ∈ earlier, goal.2 ∈ goals) :
    (Memory.after setting earlier).Answers setting goals :=
  Memory.after_induct
    (fun memory => memory.Answers setting goals)
    earlier
    (fun identity recipe remembered => by
      simp [Memory.empty] at remembered)
    (fun goal member memory kept =>
      kept.resolveWithin agrees goal.1 (listed goal member))

end Answers

/--
A run that has room for every reachable identity fails for a reason in the graph.

The identities on the path are reachable, differ from each other, and lead to the
need by the edges of the graph, so that a path that closes is a cycle and a path
without room is longer than the graph is large. The memory may come from runs for
further goals.
-/
theorem resolveNeed_blames
    {setting : Setting}
    {goals all : List Goal}
    (agrees : Agrees setting all)
    (included : goals ⊆ all)
    (finite : {identity | Reachable setting goals identity}.Finite)
    {root : String}
    {limit : Nat}
    {path : List String}
    (room : finite.toFinset.card < path.length + limit)
    (distinct : path.Nodup)
    (reachable : ∀ identity ∈ path, Reachable setting goals identity)
    {stated : Need}
    (leads :
      ∀ identity ∈ path,
        Relation.TransGen (DependsOn setting goals) identity
          (setting.substitutions.apply stated).identity)
    (occurs : Occurs setting goals (setting.substitutions.apply stated))
    {memory later : Memory}
    (answers : memory.Answers setting all)
    {failure : ResolutionError}
    (failed :
      resolveNeed setting root limit path stated memory = (.error failure, later)) :
    Blames setting goals failure := by
  induction limit generalizing path stated memory with
  | zero =>
      have bound : path.length ≤ finite.toFinset.card := by
        rw [← List.toFinset_card_of_nodup distinct]
        apply Finset.card_le_card
        intro identity member
        rw [Set.Finite.mem_toFinset]
        exact reachable identity (List.mem_toFinset.mp member)
      omega
  | succ limit inductionHypothesis =>
      obtain ⟨free, reasons⟩ := resolveNeed_error_cases failed
      generalize setting.substitutions.apply stated = need at *
      have found := recipeFor_fst agrees (occurs.mono included) answers
      rcases reasons with
        ⟨onPath, rfl, rfl⟩ | ⟨offPath, cause, looked, rfl⟩ |
        ⟨offPath, recipe, middle, looked, failedBelow⟩
      · exact ⟨need.identity, ⟨need, occurs, rfl⟩, leads need.identity onPath⟩
      · rw [looked] at found
        exact ⟨need, occurs, free, found.symm⟩
      · rw [looked] at found
        have middleAnswers : middle.Answers setting all := by
          have kept := answers.recipeFor (occurs.mono included)
          rw [looked] at kept
          exact kept
        obtain ⟨below, member, earlier, earlierAnswers, failedAt⟩ :=
          resolveEach_error_cases
            (fun memory => memory.Answers setting all)
            (fun below member memory kept =>
              kept.resolveNeed agrees
                (.needed (occurs.mono included) free found.symm member))
            middleAnswers failedBelow
        have edge :
            DependsOn setting goals need.identity
              (setting.substitutions.apply below).identity :=
          ⟨free, need, recipe, below, occurs, rfl, found.symm, member, rfl⟩
        refine
          @inductionHypothesis (path ++ [need.identity])
            ?_ ?_ ?_ below ?_ ?_ earlier ?_ ?_
        · simp only [List.length_append, List.length_singleton]
          omega
        · exact List.nodup_append.mpr
            ⟨distinct, by simp,
              fun identity onPath other isLast same =>
                offPath (by
                  rw [List.mem_singleton] at isLast
                  rw [← isLast, ← same]
                  exact onPath)⟩
        · intro identity member
          rcases List.mem_append.mp member with onPath | isLast
          · exact reachable identity onPath
          · rw [List.mem_singleton] at isLast
            exact ⟨need, occurs, isLast.symm⟩
        · intro identity member
          rcases List.mem_append.mp member with onPath | isLast
          · exact (leads identity onPath).tail edge
          · rw [List.mem_singleton] at isLast
            rw [isLast]
            exact .single edge
        · exact .needed occurs free found.symm member
        · exact earlierAnswers
        · exact failedAt

/-- A goal fails for a reason in its graph if there is room for every reachable identity. -/
theorem resolveWithin_blames
    {setting : Setting}
    {goal : Goal}
    {all : List Goal}
    (agrees : Agrees setting all)
    (included : goal ∈ all)
    (finite : {identity | Reachable setting [goal] identity}.Finite)
    {limit : Nat}
    (room : finite.toFinset.card < limit)
    {memory : Memory}
    (answers : memory.Answers setting all)
    {failure : ResolutionError}
    (failed : (resolveWithin limit setting goal memory).1 = .error failure) :
    Blames setting [goal] failure := by
  simp only [resolveWithin] at failed
  split at failed
  · rename_i cause later failedEach
    cases failed
    obtain ⟨stated, member, middle, middleAnswers, failedAt⟩ :=
      resolveEach_error_cases
        (fun memory => memory.Answers setting all)
        (fun stated member memory kept =>
          kept.resolveNeed agrees (.result included member))
        answers failedEach
    have emptyPathRoom :
        finite.toFinset.card < ([] : List String).length + limit := by
      simpa using room
    exact
      resolveNeed_blames agrees (by simpa using included) finite
        emptyPathRoom List.nodup_nil (by simp) (by simp)
        (.result (by simp) member) middleAnswers failedAt
  · cases failed

section Derived

variable {setting : Setting} {goals : List Goal} {memory : Memory}

/-- A derived node of an identity that is not supplied carries the answer of the lookup. -/
theorem Resolves.origin_of_answers
    (agrees : Agrees setting goals)
    (answers : memory.Answers setting goals)
    {stated need : Need}
    {tree : Tree}
    (resolves : Resolves setting memory.known stated tree)
    (occurs : Occurs setting goals need)
    (sameIdentity : need.identity = tree.identity)
    (free : setting.supplied.get? need.identity = none) :
    ∃ recipe,
      tree.origin = .recipe recipe ∧
        need.recipe setting.lookup = .ok recipe := by
  rw [sameIdentity, resolves.identity_eq] at free
  have identity := resolves.identity_eq
  cases resolves with
  | supplied given =>
      rw [free] at given
      contradiction
  | @constructed _ recipe children _ remembered arity each =>
      obtain ⟨other, otherOccurs, otherIdentity, found⟩ :=
        answers _ recipe remembered
      refine ⟨recipe, rfl, ?_⟩
      rw [agrees need other occurs otherOccurs, found]
      rw [sameIdentity, identity, otherIdentity]

/-- Every need that occurs has its own derived tree once the goal is derived. -/
theorem Occurs.exists_resolves
    (agrees : Agrees setting goals)
    (answers : memory.Answers setting goals)
    {goal : Goal}
    (listed : goal ∈ goals)
    {children : List Tree}
    (resolves : ResolvesEach setting memory.known goal.results children)
    {need : Need}
    (occurs : Occurs setting [goal] need) :
    ∃ stated tree,
      setting.substitutions.apply stated = need ∧
        Resolves setting memory.known stated tree := by
  induction occurs with
  | @result source stated isGoal member =>
      rw [List.mem_singleton] at isGoal
      subst isGoal
      obtain ⟨child, childMember, childResolves⟩ :=
        resolves.exists_of_mem_left member
      exact ⟨stated, child, rfl, childResolves⟩
  | @needed need below recipe occurs free found member inductionHypothesis =>
      obtain ⟨stated, tree, same, treeResolves⟩ := inductionHypothesis
      have sameIdentity : need.identity = tree.identity := by
        rw [treeResolves.identity_eq, same]
      obtain ⟨carried, origin, carriedFound⟩ :=
        treeResolves.origin_of_answers agrees answers
          (occurs.mono (by simpa using listed)) sameIdentity free
      rw [found] at carriedFound
      cases carriedFound
      obtain ⟨known, eachResolves⟩ := treeResolves.recipe_known origin
      obtain ⟨child, childMember, childResolves⟩ :=
        eachResolves.exists_of_mem_left member
      exact ⟨below, child, rfl, childResolves⟩

/-- An edge of the graph leads from a derived node to one of its children. -/
theorem Resolves.exists_child
    (agrees : Agrees setting goals)
    (answers : memory.Answers setting goals)
    {stated : Need}
    {tree : Tree}
    (resolves : Resolves setting memory.known stated tree)
    {other : String}
    (edge : DependsOn setting goals tree.identity other) :
    ∃ below child,
      child ∈ tree.children ∧
        child.identity = other ∧
        Resolves setting memory.known below child := by
  obtain ⟨free, need, recipe, below, occurs, identity, found, member, target⟩ := edge
  rw [← identity] at free
  obtain ⟨carried, origin, carriedFound⟩ :=
    resolves.origin_of_answers agrees answers occurs identity free
  rw [found] at carriedFound
  cases carriedFound
  obtain ⟨known, eachResolves⟩ := resolves.recipe_known origin
  obtain ⟨child, childMember, childResolves⟩ :=
    eachResolves.exists_of_mem_left member
  exact ⟨below, child, childMember,
    by rw [childResolves.identity_eq, target], childResolves⟩

/-- Along the edges of the graph derived trees become smaller. -/
theorem Resolves.exists_smaller
    (agrees : Agrees setting goals)
    (answers : memory.Answers setting goals)
    {stated : Need}
    {tree : Tree}
    (resolves : Resolves setting memory.known stated tree)
    {other : String}
    (leads : Relation.TransGen (DependsOn setting goals) tree.identity other) :
    ∃ below node,
      node.identity = other ∧
        Resolves setting memory.known below node ∧
        node.count < tree.count := by
  induction leads with
  | single edge =>
      obtain ⟨below, child, member, identity, childResolves⟩ :=
        resolves.exists_child agrees answers edge
      exact ⟨below, child, identity, childResolves,
        Tree.count_lt_of_mem_children member⟩
  | tail earlier edge inductionHypothesis =>
      obtain ⟨above, node, rfl, nodeResolves, smaller⟩ := inductionHypothesis
      obtain ⟨below, child, member, identity, childResolves⟩ :=
        nodeResolves.exists_child agrees answers edge
      exact ⟨below, child, identity, childResolves,
        (Tree.count_lt_of_mem_children member).trans smaller⟩

/-- The identity of a derived tree lies on no cycle. -/
theorem Resolves.not_cyclic
    (agrees : Agrees setting goals)
    (answers : memory.Answers setting goals)
    {stated : Need}
    {tree : Tree}
    (resolves : Resolves setting memory.known stated tree) :
    ¬ Relation.TransGen (DependsOn setting goals) tree.identity tree.identity := by
  intro cycle
  obtain ⟨below, node, identity, nodeResolves, smaller⟩ :=
    resolves.exists_smaller agrees answers cycle
  have sameChildren := (nodeResolves.shared resolves identity).2.2
  rw [Tree.count_eq_of_children_eq sameChildren] at smaller
  exact Nat.lt_irrefl _ smaller

/-- The graph of some goals is part of the graph of more goals. -/
theorem DependsOn.mono
    {more : List Goal}
    (included : goals ⊆ more)
    {identity other : String}
    (edge : DependsOn setting goals identity other) :
    DependsOn setting more identity other := by
  obtain ⟨free, need, recipe, stated, occurs, rest⟩ := edge
  exact ⟨free, need, recipe, stated, occurs.mono included, rest⟩

end Derived

/--
A goal resolves exactly if its graph is acyclic and leaves no identity without a
recipe.

The loader may have resolved other goals before. Every limit above the number of
reachable identities gives the same outcome, and none of them is ever exceeded.
-/
theorem resolveWithin_ok_iff_acyclic
    (setting : Setting)
    (earlier : List (Nat × Goal))
    (goal : Goal)
    (agrees : Agrees setting (goal :: earlier.map Prod.snd))
    (finite : {identity | Reachable setting [goal] identity}.Finite)
    (limit : Nat)
    (room : finite.toFinset.card < limit) :
    (∀ chain,
        (resolveWithin limit setting goal (Memory.after setting earlier)).1 ≠
          .error (.tooDeep chain)) ∧
      ((∃ root,
          (resolveWithin limit setting goal (Memory.after setting earlier)).1 =
            .ok root) ↔
        (∀ need,
            Occurs setting [goal] need →
            setting.supplied.get? need.identity = none →
            ∃ recipe, need.recipe setting.lookup = .ok recipe) ∧
          ∀ identity,
            Reachable setting [goal] identity →
            ¬ Relation.TransGen (DependsOn setting [goal]) identity identity) := by
  have included : goal ∈ goal :: earlier.map Prod.snd := by simp
  have answers :
      (Memory.after setting earlier).Answers setting
        (goal :: earlier.map Prod.snd) :=
    Memory.after_answers agrees earlier
      (fun run member =>
        List.mem_cons_of_mem goal (List.mem_map_of_mem member))
  have blames :
      ∀ failure,
        (resolveWithin limit setting goal (Memory.after setting earlier)).1 =
            .error failure →
          Blames setting [goal] failure :=
    fun failure failed =>
      resolveWithin_blames agrees included finite room answers failed
  refine ⟨fun chain tooDeep => blames _ tooDeep, ?_, ?_⟩
  · rintro ⟨root, resolved⟩
    obtain ⟨children, rootShape, resolves⟩ := resolveWithin_resolves resolved
    have lastAnswers := answers.resolveWithin agrees limit included
    constructor
    · intro need occurs free
      obtain ⟨stated, tree, same, treeResolves⟩ :=
        occurs.exists_resolves agrees lastAnswers included resolves
      obtain ⟨recipe, origin, found⟩ :=
        treeResolves.origin_of_answers agrees lastAnswers
          (occurs.mono (by simp)) (by rw [treeResolves.identity_eq, same]) free
      exact ⟨recipe, found⟩
    · rintro identity ⟨need, occurs, rfl⟩ cycle
      obtain ⟨stated, tree, same, treeResolves⟩ :=
        occurs.exists_resolves agrees lastAnswers included resolves
      apply treeResolves.not_cyclic agrees lastAnswers
      rw [treeResolves.identity_eq, same]
      exact cycle.lift id (fun _ _ edge => DependsOn.mono (by simp) edge)
  · rintro ⟨resolvable, acyclic⟩
    cases outcome :
        (resolveWithin limit setting goal (Memory.after setting earlier)).1 with
    | ok root =>
        exact ⟨root, rfl⟩
    | error failure =>
        have blamed := blames failure outcome
        cases failure with
        | unresolved chain cause =>
            obtain ⟨need, occurs, free, failed⟩ := blamed
            obtain ⟨recipe, found⟩ := resolvable need occurs free
            rw [failed] at found
            cases found
        | cycle path =>
            obtain ⟨identity, reachable, cycle⟩ := blamed
            exact (acyclic identity reachable cycle).elim
        | tooDeep chain =>
            exact blamed.elim

namespace Diamond

/-- A type of the package `p`. -/
def named (name : String) : NamedType :=
  NamedType.ofText "p" name

/-- The recipe of a constructor in the package `p`. -/
def make
    (name : String)
    (params : List NamedType) :
    Recipe :=
  .call {
    importPath := "p"
    name := "New" ++ name
    params
    leading := []
    output := named name
    trailing := [] }

/-- `A` needs `B` and `C`, and `B` needs `C` as well. -/
def table : LookupTable where
  entries :=
    [("\"p\".A", .found (make "A" [named "B", named "C"])),
      ("\"p\".B", .found (make "B" [named "C"])),
      ("\"p\".C", .found (make "C" []))]
  nodup_keys := by decide

/-- Answers from the table, without substitutions or supplied values. -/
def setting : Setting where
  lookup := table.lookup
  substitutions := Keyed.empty
  supplied := Keyed.empty

/-- The function that provides `A`. -/
def goal : Goal where
  importPath := "p"
  name := "Provide"
  package := "p"
  results := [.named (named "A")]

/-- Only the three types occur. -/
theorem occurs_cases
    {need : Need}
    (occurs : Occurs setting [goal] need) :
    need = .named (named "A") ∨
      need = .named (named "B") ∨
      need = .named (named "C") := by
  induction occurs with
  | @result source stated listed member =>
      rw [List.mem_singleton] at listed
      subst listed
      rw [show goal.results = [.named (named "A")] from rfl,
        List.mem_singleton] at member
      subst member
      exact .inl rfl
  | @needed need stated recipe occurs free found member inductionHypothesis =>
      rcases inductionHypothesis with rfl | rfl | rfl
      · have recipeShape : recipe = make "A" [named "B", named "C"] :=
          (Except.ok.inj found).symm
        subst recipeShape
        simp only [make, Recipe.needs, List.map_cons, List.map_nil,
          List.mem_cons, List.not_mem_nil, or_false] at member
        rcases member with rfl | rfl
        · exact .inr (.inl rfl)
        · exact .inr (.inr rfl)
      · have recipeShape : recipe = make "B" [named "C"] :=
          (Except.ok.inj found).symm
        subst recipeShape
        simp only [make, Recipe.needs, List.map_cons, List.map_nil,
          List.mem_cons, List.not_mem_nil, or_false] at member
        subst member
        exact .inr (.inr rfl)
      · have recipeShape : recipe = make "C" [] :=
          (Except.ok.inj found).symm
        subst recipeShape
        simp [make, Recipe.needs] at member

/-- The three types differ in their identities. -/
theorem agrees : Agrees setting [goal] := by
  intro need other occurs otherOccurs same
  rcases occurs_cases occurs with rfl | rfl | rfl <;>
    rcases occurs_cases otherOccurs with rfl | rfl | rfl <;>
    first
      | rfl
      | exact absurd same (by decide)

/-- Every reachable identity is that of one of the three types. -/
theorem reachable_subset :
    {identity | Reachable setting [goal] identity} ⊆
      (↑({"\"p\".A", "\"p\".B", "\"p\".C"} : Finset String) : Set String) := by
  rintro identity ⟨need, occurs, rfl⟩
  rcases occurs_cases occurs with rfl | rfl | rfl <;> decide

/-- Three identities can be reached at most. -/
theorem finite : {identity | Reachable setting [goal] identity}.Finite :=
  (Finset.finite_toSet _).subset reachable_subset

theorem card_finite_lt : finite.toFinset.card < 4 := by
  have bound :
      finite.toFinset.card ≤
        ({"\"p\".A", "\"p\".B", "\"p\".C"} : Finset String).card :=
    Finset.card_le_card (by simpa using reachable_subset)
  exact Nat.lt_of_le_of_lt bound (by decide)

end Diamond

/-- A type that two others share is no cycle: the goal resolves, and its graph is acyclic. -/
theorem resolveWithin_ok_iff_acyclic_diamond :
    Agrees Diamond.setting [Diamond.goal] ∧
      Diamond.finite.toFinset.card < 4 ∧
      (∃ root,
        (resolveWithin 4 Diamond.setting Diamond.goal
          (Memory.after Diamond.setting [])).1 = .ok root) ∧
      ∀ identity,
        Reachable Diamond.setting [Diamond.goal] identity →
        ¬ Relation.TransGen (DependsOn Diamond.setting [Diamond.goal])
          identity identity :=
  ⟨Diamond.agrees,
    Diamond.card_finite_lt,
    ⟨_, rfl⟩,
    ((resolveWithin_ok_iff_acyclic Diamond.setting [] Diamond.goal
      Diamond.agrees Diamond.finite 4 Diamond.card_finite_lt).2.mp
        ⟨_, rfl⟩).2⟩

end Wiring.Resolution
