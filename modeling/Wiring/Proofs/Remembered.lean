import Wiring.Proofs.Derivation
import Wiring.Proofs.Run

namespace Wiring.Resolution

/-!
# What resolution remembers

Resolution only ever adds recipes to its memory, so every tree that a run returns
is derived from the recipes that are known at its end, whatever was known at its
start. `Memory.after` is the memory that any sequence of runs leaves, failed ones
included.
-/

/-- Every recipe that is known at first is known later. -/
def Memory.GrowsTo
    (memory later : Memory) :
    Prop :=
  ∀ identity recipe,
    memory.known.get? identity = some recipe →
    later.known.get? identity = some recipe

namespace Memory.GrowsTo

theorem refl
    (memory : Memory) :
    memory.GrowsTo memory :=
  fun _ _ remembered => remembered

theorem trans
    {memory middle later : Memory}
    (first : memory.GrowsTo middle)
    (second : middle.GrowsTo later) :
    memory.GrowsTo later :=
  fun identity recipe remembered =>
    second identity recipe (first identity recipe remembered)

end Memory.GrowsTo

/-- A lookup forgets no recipe. -/
theorem recipeFor_grows
    (setting : Setting)
    (need : Need)
    (memory : Memory) :
    memory.GrowsTo (recipeFor setting need memory).2 := by
  rcases recipeFor_cases setting need memory with
    ⟨recipe, remembered, result⟩ | ⟨cause, absent, failed, result⟩ |
    ⟨recipe, absent, found, result⟩
  · rw [result]
    exact .refl memory
  · rw [result]
    exact fun identity recipe remembered => remembered
  · rw [result]
    intro identity known remembered
    rw [Keyed.get?_insert]
    by_cases same : need.identity = identity
    · rw [← same, absent] at remembered
      contradiction
    · rw [if_neg same]
      exact remembered

/-- A recipe that is found is known from then on. -/
theorem recipeFor_remembers
    {setting : Setting}
    {need : Need}
    {memory later : Memory}
    {recipe : Recipe}
    (found : recipeFor setting need memory = (.ok recipe, later)) :
    later.known.get? need.identity = some recipe := by
  rcases recipeFor_cases setting need memory with
    ⟨known, remembered, result⟩ | ⟨cause, absent, failed, result⟩ |
    ⟨answer, absent, answered, result⟩
  · rw [result] at found
    cases found
    exact remembered
  · rw [result] at found
    cases found
  · rw [result] at found
    cases found
    simp [Keyed.get?_insert]

/-- Resolving a need forgets no recipe. -/
theorem resolveNeed_grows
    (setting : Setting)
    (root : String)
    (limit : Nat)
    (path : List String)
    (stated : Need)
    (memory : Memory) :
    memory.GrowsTo (resolveNeed setting root limit path stated memory).2 :=
  resolveNeed_preserves
    (fun later => memory.GrowsTo later)
    (fun _ => True)
    (fun need middle _ _ grown => grown.trans (recipeFor_grows setting need middle))
    (fun _ _ _ _ _ _ _ _ _ _ => trivial)
    limit path trivial (.refl memory)

/-- Resolving a list of needs forgets no recipe if resolving each need forgets none. -/
theorem resolveEach_grows
    {resolve : Need → Memory → Except ResolutionError Tree × Memory}
    (grows :
      ∀ need (memory : Memory), memory.GrowsTo (resolve need memory).2)
    (needs : List Need)
    (memory : Memory) :
    memory.GrowsTo (resolveEach resolve needs memory).2 :=
  resolveEach_preserves
    (fun later => memory.GrowsTo later)
    (fun need _ middle grown => grown.trans (grows need middle))
    (.refl memory)

/-- Resolved lists are derived if resolved trees are. -/
theorem resolveEach_resolves
    {setting : Setting}
    {resolve : Need → Memory → Except ResolutionError Tree × Memory}
    (grows :
      ∀ need (memory : Memory), memory.GrowsTo (resolve need memory).2)
    {needs : List Need}
    (each :
      ∀ need ∈ needs, ∀ memory tree later,
        resolve need memory = (.ok tree, later) →
        Resolves setting later.known need tree)
    {memory later : Memory}
    {trees : List Tree}
    (resolved : resolveEach resolve needs memory = (.ok trees, later)) :
    ResolvesEach setting later.known needs trees := by
  induction needs generalizing memory trees with
  | nil =>
      cases resolved
      exact .nil
  | cons need rest inductionHypothesis =>
      obtain ⟨tree, middle, others, first, remaining, rfl⟩ :=
        resolveEach_cons_ok resolved
      have grown : middle.GrowsTo later := by
        have restGrows := resolveEach_grows grows rest middle
        rw [remaining] at restGrows
        exact restGrows
      have firstResolves := each need (by simp) memory tree middle first
      exact .cons (firstResolves.mono grown)
        (inductionHypothesis
          (fun below member => each below (List.mem_cons_of_mem need member))
          remaining)

/-- A tree that a run returns for a need is derived from what is known at its end. -/
theorem resolveNeed_resolves
    {setting : Setting}
    {root : String}
    {limit : Nat}
    {path : List String}
    {stated : Need}
    {memory later : Memory}
    {tree : Tree}
    (resolved : resolveNeed setting root limit path stated memory = (.ok tree, later)) :
    Resolves setting later.known stated tree := by
  induction limit generalizing path stated memory later tree with
  | zero =>
      cases resolved
  | succ limit inductionHypothesis =>
      rcases resolveNeed_ok_cases resolved with
        ⟨hoist, given, rfl, rfl⟩ |
        ⟨recipe, middle, children, free, offPath, looked, remaining, rfl⟩
      · exact .supplied given
      · have eachResolves : ResolvesEach setting later.known recipe.needs children :=
          resolveEach_resolves
            (fun need earlier =>
              resolveNeed_grows setting root limit _ need earlier)
            (fun need member earlier child last childResolved =>
              inductionHypothesis childResolved)
            remaining
        have grown : middle.GrowsTo later := by
          have eachGrows :=
            resolveEach_grows
              (resolveNeed_grows setting root limit
                (path ++ [(setting.substitutions.apply stated).identity]))
              recipe.needs middle
          rw [remaining] at eachGrows
          exact eachGrows
        exact .constructed free
          (grown _ _ (recipeFor_remembers looked))
          eachResolves.length_eq
          (fun need child member => List.forall₂_zip eachResolves member)

/-- The children of a resolved root are derived from what is known at the end of the run. -/
theorem resolveWithin_resolves
    {limit : Nat}
    {setting : Setting}
    {goal : Goal}
    {memory : Memory}
    {root : Tree}
    (resolved : (resolveWithin limit setting goal memory).1 = .ok root) :
    ∃ children,
      root = rootNode goal children ∧
        ResolvesEach setting (resolveWithin limit setting goal memory).2.known
          goal.results children := by
  unfold resolveWithin at resolved ⊢
  split at resolved
  · cases resolved
  · rename_i children later remaining
    cases resolved
    refine ⟨children, rfl, ?_⟩
    exact
      resolveEach_resolves
        (resolveNeed_grows setting goal.identity limit [])
        (fun need _ earlier tree last childResolved =>
          resolveNeed_resolves childResolved)
        remaining

/-- The memory after resolving some goals, each within its limit, from an empty one. -/
def Memory.after
    (setting : Setting)
    (goals : List (Nat × Goal)) :
    Memory :=
  goals.foldl
    (fun memory goal => (resolveWithin goal.1 setting goal.2 memory).2)
    Memory.empty

/-- What each of some runs keeps holds after all of them, if it holds at first. -/
theorem Memory.after_induct
    {setting : Setting}
    (invariant : Memory → Prop)
    (goals : List (Nat × Goal))
    (holds : invariant Memory.empty)
    (each :
      ∀ goal ∈ goals, ∀ memory,
        invariant memory →
        invariant (resolveWithin goal.1 setting goal.2 memory).2) :
    invariant (Memory.after setting goals) :=
  List.foldlRecOn goals _ holds
    (fun memory kept goal member => each goal member memory kept)

end Wiring.Resolution
