import Wiring.Proofs.Remembered

namespace Wiring.Resolution

/-!
# What a resolver discovers

A resolver asks for the recipe of a need when it comes to the need and knows none
for its identity. The asked needs of a life of runs form a log, over which the
discovered recipe of an identity is the first answer to a need of this identity.
Nothing else is ever remembered: what is known after any runs, failed ones
included, is what was discovered.
-/

/-- The need, if a recipe for it has to be asked for. -/
def newlyAsked
    (need : Need)
    (memory : Memory) :
    List Need :=
  if memory.known.contains need.identity then
    []
  else
    [need]

/-- The needs that are asked for while one need of a list is resolved after the other. -/
def askedByEach
    (resolve : Need → Memory → Except ResolutionError Tree × Memory)
    (askedBy : Need → Memory → List Need) :
    List Need →
    Memory →
    List Need
  | [], _ =>
      []
  | need :: rest, memory =>
      match resolve need memory with
      | (.error _, _) =>
          askedBy need memory
      | (.ok _, later) =>
          askedBy need memory ++ askedByEach resolve askedBy rest later

/-- The needs that are asked for while a need is resolved, in this order. -/
def askedByNeed
    (setting : Setting)
    (root : String) :
    Nat →
    List String →
    Need →
    Memory →
    List Need
  | 0, _, _, _ =>
      []
  | limit + 1, path, stated, memory =>
      let need := setting.substitutions.apply stated
      match setting.supplied.get? need.identity with
      | some _ =>
          []
      | none =>
          if need.identity ∈ path then
            []
          else
            match recipeFor setting need memory with
            | (.error _, _) =>
                newlyAsked need memory
            | (.ok recipe, later) =>
                newlyAsked need memory ++
                  askedByEach
                    (resolveNeed setting root limit (path ++ [need.identity]))
                    (askedByNeed setting root limit (path ++ [need.identity]))
                    recipe.needs later

/-- The needs that are asked for while a goal is resolved. -/
def askedWithin
    (limit : Nat)
    (setting : Setting)
    (goal : Goal)
    (memory : Memory) :
    List Need :=
  askedByEach
    (resolveNeed setting goal.identity limit [])
    (askedByNeed setting goal.identity limit [])
    goal.results memory

/-- The needs that are asked for in a life of runs, one run after the other. -/
def askedFrom
    (setting : Setting) :
    List (Nat × Goal) →
    Memory →
    List Need
  | [], _ =>
      []
  | run :: rest, memory =>
      askedWithin run.1 setting run.2 memory
        ++ askedFrom setting rest (resolveWithin run.1 setting run.2 memory).2

/-- The first answer to a need of an identity. -/
def firstFound
    (lookup : Lookup)
    (asked : List Need)
    (identity : String) :
    Option Recipe :=
  asked.findSome? fun need =>
    if need.identity = identity then
      (need.recipe lookup).toOption
    else
      none

/-- The recipe that is first discovered for an identity in a life of runs. -/
def discovered
    (setting : Setting)
    (life : List (Nat × Goal))
    (identity : String) :
    Option Recipe :=
  firstFound setting.lookup (askedFrom setting life Memory.empty) identity

/-- One more need is answered only if no need of its identity was before. -/
theorem firstFound_concat
    (lookup : Lookup)
    (asked : List Need)
    (need : Need)
    (identity : String) :
    firstFound lookup (asked ++ [need]) identity =
      (firstFound lookup asked identity).or
        (if need.identity = identity then (need.recipe lookup).toOption else none) := by
  rw [firstFound, List.findSome?_append, List.findSome?_singleton]
  rfl

/-- A memory knows what was first discovered and has searched for what was asked. -/
structure Memory.Records
    (setting : Setting)
    (asked : List Need)
    (memory : Memory) : Prop where
  known : ∀ identity, memory.known.get? identity = firstFound setting.lookup asked identity
  searched : memory.searched = asked.flatMap (fun need => need.lookedUp?.toList)

namespace Memory.Records

variable {setting : Setting} {asked : List Need} {memory : Memory}

/-- Nothing is known before anything is asked. -/
theorem empty :
    Memory.empty.Records setting [] where
  known := fun _ => rfl
  searched := rfl

/-- Taking a recipe from memory or asking for it is recorded. -/
theorem recipeFor
    (records : memory.Records setting asked)
    (need : Need) :
    (recipeFor setting need memory).2.Records setting (asked ++ newlyAsked need memory) := by
  rcases recipeFor_cases setting need memory with
    ⟨recipe, remembered, result⟩ | ⟨cause, absent, failed, result⟩ |
    ⟨recipe, absent, found, result⟩
  · have isKnown : newlyAsked need memory = [] :=
      if_pos (by rw [Keyed.contains, remembered]; rfl)
    rw [result, isKnown, List.append_nil]
    exact records
  all_goals
    have isAsked : newlyAsked need memory = [need] :=
      if_neg (by simp [Keyed.contains, absent])
    rw [result, isAsked]
    refine ⟨fun identity => ?_, by simp [records.searched]⟩
    rw [firstFound_concat, ← records.known]
  · rw [failed]
    split
    · exact Option.or_none.symm
    · exact Option.or_none.symm
  · rw [found, Keyed.get?_insert]
    split
    · rename_i same
      rw [← same, absent]
      rfl
    · exact Option.or_none.symm

/-- Resolving a list of needs is recorded if resolving each is. -/
theorem resolveEach
    {resolve : Need → Memory → Except ResolutionError Tree × Memory}
    {askedBy : Need → Memory → List Need}
    {needs : List Need}
    (each :
      ∀ need ∈ needs, ∀ asked memory,
        memory.Records setting asked →
        (resolve need memory).2.Records setting (asked ++ askedBy need memory))
    (records : memory.Records setting asked) :
    (resolveEach resolve needs memory).2.Records setting
      (asked ++ askedByEach resolve askedBy needs memory) := by
  induction needs generalizing asked memory with
  | nil =>
      simpa [Resolution.resolveEach, askedByEach] using records
  | cons need rest inductionHypothesis =>
      have afterFirst := each need List.mem_cons_self asked memory records
      cases first : resolve need memory with
      | mk result middle =>
          rw [first] at afterFirst
          cases result with
          | error failure =>
              simpa [Resolution.resolveEach, askedByEach, first] using afterFirst
          | ok tree =>
              rw [snd_resolveEach_cons first]
              simp only [askedByEach, first, ← List.append_assoc]
              exact
                inductionHypothesis
                  (fun later member => each later (List.mem_cons_of_mem need member))
                  afterFirst

/-- Resolving a need is recorded. -/
theorem resolveNeed
    (records : memory.Records setting asked)
    (root : String)
    (limit : Nat)
    (path : List String)
    (stated : Need) :
    (resolveNeed setting root limit path stated memory).2.Records setting
      (asked ++ askedByNeed setting root limit path stated memory) := by
  induction limit generalizing asked memory path stated with
  | zero =>
      simpa [Resolution.resolveNeed, askedByNeed] using records
  | succ limit inductionHypothesis =>
      simp only [askedByNeed]
      cases free :
          setting.supplied.get? (setting.substitutions.apply stated).identity with
      | some hoist =>
          simpa [Resolution.resolveNeed, free] using records
      | none =>
          by_cases onPath : (setting.substitutions.apply stated).identity ∈ path
          · simpa [Resolution.resolveNeed, free, onPath] using records
          · have afterLookup := records.recipeFor (setting.substitutions.apply stated)
            simp only [onPath, if_false]
            cases looked :
                Resolution.recipeFor setting (setting.substitutions.apply stated) memory with
            | mk answer middle =>
                rw [looked] at afterLookup
                cases answer with
                | error cause =>
                    simpa [Resolution.resolveNeed, free, onPath, looked] using afterLookup
                | ok recipe =>
                    rw [snd_resolveNeed_of_found free onPath looked]
                    simp only [← List.append_assoc]
                    exact
                      afterLookup.resolveEach
                        (fun below _ _ _ kept => inductionHypothesis kept _ below)

/-- Resolving a goal is recorded. -/
theorem resolveWithin
    (records : memory.Records setting asked)
    (limit : Nat)
    (goal : Goal) :
    (resolveWithin limit setting goal memory).2.Records setting
      (asked ++ askedWithin limit setting goal memory) := by
  rw [snd_resolveWithin, askedWithin]
  exact
    records.resolveEach
      (fun need _ _ _ kept => kept.resolveNeed goal.identity limit [] need)

/-- A life of runs is recorded. -/
theorem foldl
    (records : memory.Records setting asked)
    (life : List (Nat × Goal)) :
    (life.foldl
        (fun memory run => (Resolution.resolveWithin run.1 setting run.2 memory).2)
        memory).Records setting
      (asked ++ askedFrom setting life memory) := by
  induction life generalizing asked memory with
  | nil =>
      simpa [askedFrom] using records
  | cons run rest inductionHypothesis =>
      rw [List.foldl_cons, askedFrom, ← List.append_assoc]
      exact inductionHypothesis (records.resolveWithin run.1 run.2)

end Memory.Records

/-- The memory of a life of runs records what was asked in it. -/
theorem Memory.after_records
    (setting : Setting)
    (life : List (Nat × Goal)) :
    (Memory.after setting life).Records setting (askedFrom setting life Memory.empty) :=
  Memory.Records.empty.foldl life

/-- What is known after a life of runs is what was discovered in it. -/
theorem known_after
    (setting : Setting)
    (life : List (Nat × Goal)) :
    (Memory.after setting life).known.get? = discovered setting life :=
  funext (Memory.after_records setting life).known

/-- One more run leaves the memory of the longer life. -/
theorem Memory.after_concat
    (setting : Setting)
    (earlier : List (Nat × Goal))
    (limit : Nat)
    (goal : Goal) :
    Memory.after setting (earlier ++ [(limit, goal)]) =
      (resolveWithin limit setting goal (Memory.after setting earlier)).2 := by
  rw [Memory.after, List.foldl_append]
  rfl

end Wiring.Resolution
