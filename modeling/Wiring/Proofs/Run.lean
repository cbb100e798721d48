import Wiring.Resolution

namespace Wiring.Resolution

/-!
# Runs of resolution

What one step of resolution can do: where the recipe of a need comes from, how a
list of needs is resolved, and how a single need succeeds or fails. Memory
changes in one place only, where a recipe is remembered or looked up; a property
of memories that this step keeps is kept by whole runs, successful or not.
-/

/-- What taking a recipe from memory or looking it up can do. -/
theorem recipeFor_cases
    (setting : Setting)
    (need : Need)
    (memory : Memory) :
    (∃ recipe,
        memory.known.get? need.identity = some recipe ∧
          recipeFor setting need memory = (.ok recipe, memory)) ∨
      (∃ cause,
        memory.known.get? need.identity = none ∧
          need.recipe setting.lookup = .error cause ∧
          recipeFor setting need memory =
            (.error cause,
              { memory with
                searched := memory.searched ++ need.lookedUp?.toList })) ∨
      (∃ recipe,
        memory.known.get? need.identity = none ∧
          need.recipe setting.lookup = .ok recipe ∧
          recipeFor setting need memory =
            (.ok recipe,
              { known := memory.known.insert need.identity recipe
                searched := memory.searched ++ need.lookedUp?.toList })) := by
  unfold recipeFor
  cases remembered : memory.known.get? need.identity with
  | some recipe =>
      exact .inl ⟨recipe, rfl, rfl⟩
  | none =>
      cases found : need.recipe setting.lookup with
      | error cause =>
          exact .inr (.inl ⟨cause, rfl, rfl, rfl⟩)
      | ok recipe =>
          exact .inr (.inr ⟨recipe, rfl, rfl, rfl⟩)

/-- A list of needs is resolved by resolving the first and then the others. -/
theorem resolveEach_cons_ok
    {resolve : Need → Memory → Except ResolutionError Tree × Memory}
    {need : Need}
    {rest : List Need}
    {memory later : Memory}
    {trees : List Tree}
    (resolved : resolveEach resolve (need :: rest) memory = (.ok trees, later)) :
    ∃ tree middle others,
      resolve need memory = (.ok tree, middle) ∧
        resolveEach resolve rest middle = (.ok others, later) ∧
        trees = tree :: others := by
  simp only [resolveEach] at resolved
  split at resolved
  · cases resolved
  · rename_i tree middle first
    split at resolved
    · cases resolved
    · rename_i others last remaining
      cases resolved
      exact ⟨tree, middle, others, first, remaining, rfl⟩

/-- A need is resolved either as a supplied leaf or from a recipe and its needs. -/
theorem resolveNeed_ok_cases
    {setting : Setting}
    {root : String}
    {limit : Nat}
    {path : List String}
    {stated : Need}
    {memory later : Memory}
    {tree : Tree}
    (resolved :
      resolveNeed setting root (limit + 1) path stated memory = (.ok tree, later)) :
    (∃ hoist,
        setting.supplied.get? (setting.substitutions.apply stated).identity =
            some hoist ∧
          tree = .node (setting.substitutions.apply stated).wanted .caller hoist [] ∧
          later = memory) ∨
      (∃ recipe middle children,
        setting.supplied.get? (setting.substitutions.apply stated).identity = none ∧
          (setting.substitutions.apply stated).identity ∉ path ∧
          recipeFor setting (setting.substitutions.apply stated) memory =
            (.ok recipe, middle) ∧
          resolveEach
              (resolveNeed setting root limit
                (path ++ [(setting.substitutions.apply stated).identity]))
              recipe.needs middle =
            (.ok children, later) ∧
          tree =
            .node
              (nodeType (setting.substitutions.apply stated).wanted recipe children)
              (.recipe recipe) false children) := by
  simp only [resolveNeed] at resolved
  generalize setting.substitutions.apply stated = need at resolved ⊢
  cases free : setting.supplied.get? need.identity with
  | some hoist =>
      simp only [free, Prod.mk.injEq, Except.ok.injEq] at resolved
      exact .inl ⟨hoist, rfl, resolved.1.symm, resolved.2.symm⟩
  | none =>
      simp only [free] at resolved
      split at resolved
      · cases resolved
      · rename_i offPath
        split at resolved
        · cases resolved
        · rename_i recipe middle looked
          split at resolved
          · cases resolved
          · rename_i children last remaining
            cases resolved
            exact .inr ⟨recipe, middle, children, rfl, offPath, looked, remaining, rfl⟩

/-- A list of needs fails at one of them, in a memory that the needs before it have left. -/
theorem resolveEach_error_cases
    (invariant : Memory → Prop)
    {resolve : Need → Memory → Except ResolutionError Tree × Memory}
    {needs : List Need}
    (each :
      ∀ need ∈ needs, ∀ memory,
        invariant memory → invariant (resolve need memory).2)
    {memory later : Memory}
    (holds : invariant memory)
    {failure : ResolutionError}
    (failed : resolveEach resolve needs memory = (.error failure, later)) :
    ∃ need ∈ needs, ∃ middle,
      invariant middle ∧ resolve need middle = (.error failure, later) := by
  induction needs generalizing memory with
  | nil =>
      cases failed
  | cons need rest inductionHypothesis =>
      simp only [resolveEach] at failed
      split at failed
      · rename_i cause middle first
        cases failed
        exact ⟨need, by simp, memory, holds, first⟩
      · rename_i tree middle first
        have kept : invariant middle := by
          have afterFirst := each need (by simp) memory holds
          rw [first] at afterFirst
          exact afterFirst
        split at failed
        · rename_i cause last remaining
          cases failed
          obtain ⟨below, member, earlier, earlierKept, failedBelow⟩ :=
            inductionHypothesis
              (fun below member => each below (List.mem_cons_of_mem need member))
              kept remaining
          exact ⟨below, List.mem_cons_of_mem need member,
            earlier, earlierKept, failedBelow⟩
        · cases failed

/-- A need fails by a cycle, for want of a recipe, or at one of its recipe's needs. -/
theorem resolveNeed_error_cases
    {setting : Setting}
    {root : String}
    {limit : Nat}
    {path : List String}
    {stated : Need}
    {memory later : Memory}
    {failure : ResolutionError}
    (failed :
      resolveNeed setting root (limit + 1) path stated memory =
        (.error failure, later)) :
    setting.supplied.get? (setting.substitutions.apply stated).identity = none ∧
      (((setting.substitutions.apply stated).identity ∈ path ∧
          failure =
            .cycle (root :: path ++
              [(setting.substitutions.apply stated).identity]) ∧
          later = memory) ∨
        ((setting.substitutions.apply stated).identity ∉ path ∧
          ∃ cause,
            recipeFor setting (setting.substitutions.apply stated) memory =
                (.error cause, later) ∧
              failure = .unresolved (root :: path) cause) ∨
        ((setting.substitutions.apply stated).identity ∉ path ∧
          ∃ recipe middle,
            recipeFor setting (setting.substitutions.apply stated) memory =
                (.ok recipe, middle) ∧
              resolveEach
                  (resolveNeed setting root limit
                    (path ++ [(setting.substitutions.apply stated).identity]))
                  recipe.needs middle =
                (.error failure, later))) := by
  simp only [resolveNeed] at failed
  generalize setting.substitutions.apply stated = need at failed ⊢
  cases free : setting.supplied.get? need.identity with
  | some hoist =>
      simp [free] at failed
  | none =>
      simp only [free] at failed
      refine ⟨rfl, ?_⟩
      split at failed
      · rename_i onPath
        cases failed
        exact .inl ⟨onPath, rfl, rfl⟩
      · rename_i offPath
        split at failed
        · rename_i cause last looked
          cases failed
          exact .inr (.inl ⟨offPath, cause, looked, rfl⟩)
        · rename_i recipe middle looked
          split at failed
          · rename_i below last remaining
            cases failed
            exact .inr (.inr ⟨offPath, recipe, middle, looked, remaining⟩)
          · cases failed

/-- A list whose first need resolves leaves the memory that the others leave. -/
theorem snd_resolveEach_cons
    {resolve : Need → Memory → Except ResolutionError Tree × Memory}
    {need : Need}
    {memory middle : Memory}
    {tree : Tree}
    (first : resolve need memory = (.ok tree, middle))
    (rest : List Need) :
    (resolveEach resolve (need :: rest) memory).2 = (resolveEach resolve rest middle).2 := by
  simp only [resolveEach, first]
  split <;> rename_i remaining <;> rw [remaining]

/-- A need whose recipe is found leaves the memory that the needs of the recipe leave. -/
theorem snd_resolveNeed_of_found
    {setting : Setting}
    {path : List String}
    {stated : Need}
    (free : setting.supplied.get? (setting.substitutions.apply stated).identity = none)
    (offPath : (setting.substitutions.apply stated).identity ∉ path)
    {memory middle : Memory}
    {recipe : Recipe}
    (found :
      recipeFor setting (setting.substitutions.apply stated) memory = (.ok recipe, middle))
    (root : String)
    (limit : Nat) :
    (resolveNeed setting root (limit + 1) path stated memory).2 =
      (resolveEach
        (resolveNeed setting root limit
          (path ++ [(setting.substitutions.apply stated).identity]))
        recipe.needs middle).2 := by
  simp only [resolveNeed, free, offPath, if_false, found]
  split <;> rename_i remaining <;> rw [remaining]

/-- Resolving a goal leaves the memory that its results leave. -/
theorem snd_resolveWithin
    (limit : Nat)
    (setting : Setting)
    (goal : Goal)
    (memory : Memory) :
    (resolveWithin limit setting goal memory).2 =
      (resolveEach (resolveNeed setting goal.identity limit []) goal.results memory).2 := by
  unfold resolveWithin
  split <;> rename_i remaining <;> rw [remaining]

/-- What resolving each of some needs keeps, resolving all of them keeps. -/
theorem resolveEach_preserves
    (invariant : Memory → Prop)
    {resolve : Need → Memory → Except ResolutionError Tree × Memory}
    {needs : List Need}
    (each :
      ∀ need ∈ needs, ∀ memory,
        invariant memory → invariant (resolve need memory).2)
    {memory : Memory}
    (holds : invariant memory) :
    invariant (resolveEach resolve needs memory).2 := by
  induction needs generalizing memory with
  | nil =>
      exact holds
  | cons need rest inductionHypothesis =>
      have afterFirst := each need (by simp) memory holds
      have afterRest :=
        inductionHypothesis
          (fun later member => each later (List.mem_cons_of_mem need member))
          afterFirst
      cases first : resolve need memory with
      | mk result middle =>
          rw [first] at afterFirst afterRest
          cases result with
          | error failure =>
              simpa [resolveEach, first] using afterFirst
          | ok tree =>
              rw [snd_resolveEach_cons first]
              exact afterRest

/--
What lookups keep, resolving a need keeps.

`met` says of which needs it has to be known that their lookup keeps the
invariant; it passes from a need to those of its recipe.
-/
theorem resolveNeed_preserves
    {setting : Setting}
    {root : String}
    (invariant : Memory → Prop)
    (met : Need → Prop)
    (found :
      ∀ need memory,
        met need →
        setting.supplied.get? need.identity = none →
        invariant memory →
        invariant (recipeFor setting need memory).2)
    (closed :
      ∀ need memory recipe later,
        met need →
        setting.supplied.get? need.identity = none →
        invariant memory →
        recipeFor setting need memory = (.ok recipe, later) →
        ∀ stated ∈ recipe.needs, met (setting.substitutions.apply stated))
    (limit : Nat)
    (path : List String)
    {stated : Need}
    (meets : met (setting.substitutions.apply stated))
    {memory : Memory}
    (holds : invariant memory) :
    invariant (resolveNeed setting root limit path stated memory).2 := by
  induction limit generalizing path stated memory with
  | zero =>
      exact holds
  | succ limit inductionHypothesis =>
      cases free :
          setting.supplied.get? (setting.substitutions.apply stated).identity with
      | some hoist =>
          simpa [resolveNeed, free] using holds
      | none =>
          by_cases onPath : (setting.substitutions.apply stated).identity ∈ path
          · simpa [resolveNeed, free, onPath] using holds
          · have afterLookup := found _ memory meets free holds
            cases looked : recipeFor setting (setting.substitutions.apply stated) memory with
            | mk answer middle =>
                rw [looked] at afterLookup
                cases answer with
                | error cause =>
                    simpa [resolveNeed, free, onPath, looked] using afterLookup
                | ok recipe =>
                    rw [snd_resolveNeed_of_found free onPath looked]
                    exact
                      resolveEach_preserves invariant
                        (fun below member earlier kept =>
                          inductionHypothesis _
                            (closed _ memory recipe middle meets free holds looked below member)
                            kept)
                        afterLookup

/-- What lookups keep, resolving a goal keeps, whether or not it succeeds. -/
theorem resolveWithin_preserves
    {setting : Setting}
    (invariant : Memory → Prop)
    (met : Need → Prop)
    (found :
      ∀ need memory,
        met need →
        setting.supplied.get? need.identity = none →
        invariant memory →
        invariant (recipeFor setting need memory).2)
    (closed :
      ∀ need memory recipe later,
        met need →
        setting.supplied.get? need.identity = none →
        invariant memory →
        recipeFor setting need memory = (.ok recipe, later) →
        ∀ stated ∈ recipe.needs, met (setting.substitutions.apply stated))
    (limit : Nat)
    {goal : Goal}
    (meets :
      ∀ stated ∈ goal.results, met (setting.substitutions.apply stated))
    {memory : Memory}
    (holds : invariant memory) :
    invariant (resolveWithin limit setting goal memory).2 := by
  rw [snd_resolveWithin]
  exact
    resolveEach_preserves invariant
      (fun need member earlier kept =>
        resolveNeed_preserves invariant met found closed limit [] (meets need member) kept)
      holds

end Wiring.Resolution
