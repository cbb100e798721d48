import Wiring.Proofs.FailureChains

namespace Wiring

/-!
# What a resolver searches

The log of a resolver lists the types that were handed to the lookup, over all the goals
that it has served. What was found once is remembered, so that no identity is searched
again after a success, and what the caller supplies is never searched. A failed search is
the last one of its run, because it ends the run, and it is what the run reports.
-/

/-- A type that is looked up has the identity of its need, whose recipe is the answer. -/
theorem Need.eq_named_of_lookedUp?
    {need : Need}
    {type : NamedType}
    (lookedUp : need.lookedUp? = some type) :
    need = .named type ∧ type.isError = false := by
  cases need with
  | named wanted =>
      simp only [Need.lookedUp?] at lookedUp
      split at lookedUp
      · cases lookedUp
      · rename_i notError
        cases lookedUp
        exact ⟨rfl, Bool.eq_false_iff.mpr notError⟩
  | record listed =>
      cases lookedUp
  | error =>
      cases lookedUp

namespace Resolution

/-- A search for a type finds a recipe. -/
def Finds
    (lookup : Lookup)
    (type : NamedType) : Prop :=
  ∃ recipe, lookup type = .ok recipe

/--
The log of a memory repeats no success.

After a type has been found no type of its identity is searched again, and none that the
caller supplies is ever searched. What was found is known, and whatever is known was
found by a search of the log, unless its need has brought the recipe with it.
-/
structure Memory.SearchesOnce
    (setting : Setting)
    (memory : Memory) : Prop where
  once :
    memory.searched.Pairwise fun first later =>
      Finds setting.lookup first → later.identity ≠ first.identity
  free : ∀ type ∈ memory.searched, setting.supplied.get? type.identity = none
  kept :
    ∀ type ∈ memory.searched,
      Finds setting.lookup type →
      ∃ recipe, memory.known.get? type.identity = some recipe
  logged :
    ∀ identity recipe,
      memory.known.get? identity = some recipe →
      ∃ need : Need,
        need.identity = identity ∧
          need.recipe setting.lookup = .ok recipe ∧
          ∀ type, need.lookedUp? = some type → type ∈ memory.searched

/--
The searches of a run account for its answer.

Either all of them find a recipe, and no need is unresolved. Or the last of them finds
none, and this is the cause of the failure.
-/
inductive AccountsFor
    (lookup : Lookup) :
    List NamedType →
    Except ResolutionError α → Prop where
  | found
      {searches : List NamedType}
      {answer : Except ResolutionError α}
      (finds : ∀ type ∈ searches, Finds lookup type)
      (resolved : ∀ chain cause, answer ≠ .error (.unresolved chain cause)) :
      AccountsFor lookup searches answer
  | failed
      {searches : List NamedType}
      {last : NamedType}
      {chain : List String}
      {cause : LookupError}
      (finds : ∀ type ∈ searches, Finds lookup type)
      (failed : lookup last = .error cause) :
      AccountsFor lookup (searches ++ [last]) (.error (.unresolved chain cause))

section Once

variable {setting : Setting} {memory : Memory}

/-- Nothing is searched at first. -/
theorem Memory.empty_searchesOnce
    (setting : Setting) :
    Memory.empty.SearchesOnce setting where
  once := .nil
  free := by simp [Memory.empty]
  kept := by simp [Memory.empty]
  logged := by simp [Memory.empty]

/-- One more search does not repeat a success, if nothing is known of the identity. -/
theorem Memory.SearchesOnce.pairwise_append
    (once : memory.SearchesOnce setting)
    {need : Need}
    (absent : memory.known.get? need.identity = none) :
    (memory.searched ++ need.lookedUp?.toList).Pairwise fun first later =>
      Finds setting.lookup first → later.identity ≠ first.identity := by
  rw [List.pairwise_append]
  refine ⟨once.once, ?_, ?_⟩
  · cases need.lookedUp? <;> simp
  · intro first isEarlier later isNew finds same
    obtain ⟨rfl, _⟩ := Need.eq_named_of_lookedUp? (Option.mem_toList.mp isNew)
    obtain ⟨recipe, known⟩ := once.kept first isEarlier finds
    rw [← same] at known
    cases absent.symm.trans known

/-- What is known is still found in a longer log. -/
theorem Memory.SearchesOnce.logged_append
    (once : memory.SearchesOnce setting)
    (more : List NamedType)
    {identity : String}
    {recipe : Recipe}
    (known : memory.known.get? identity = some recipe) :
    ∃ need : Need,
      need.identity = identity ∧
        need.recipe setting.lookup = .ok recipe ∧
        ∀ type, need.lookedUp? = some type → type ∈ memory.searched ++ more := by
  obtain ⟨need, same, brought, isLogged⟩ := once.logged identity recipe known
  exact ⟨need, same, brought,
    fun type lookedUp => List.mem_append_left more (isLogged type lookedUp)⟩

/-- Taking a recipe from memory or searching for it repeats no success. -/
theorem Memory.SearchesOnce.recipeFor
    (once : memory.SearchesOnce setting)
    {need : Need}
    (free : setting.supplied.get? need.identity = none) :
    (recipeFor setting need memory).2.SearchesOnce setting := by
  have freeNow :
      ∀ type ∈ memory.searched ++ need.lookedUp?.toList,
        setting.supplied.get? type.identity = none := by
    intro type member
    rcases List.mem_append.mp member with isEarlier | isNew
    · exact once.free type isEarlier
    · obtain ⟨rfl, _⟩ := Need.eq_named_of_lookedUp? (Option.mem_toList.mp isNew)
      exact free
  rcases recipeFor_cases setting need memory with
    ⟨recipe, remembered, result⟩ | ⟨cause, absent, failed, result⟩ |
    ⟨recipe, absent, found, result⟩ <;>
  rw [result]
  · exact once
  · -- The new search fails, so that all that finds a recipe is in the log already.
    refine ⟨once.pairwise_append absent, freeNow, ?_,
      fun _ _ known => once.logged_append _ known⟩
    intro type member finds
    rcases List.mem_append.mp member with isEarlier | isNew
    · exact once.kept type isEarlier finds
    · obtain ⟨rfl, notError⟩ := Need.eq_named_of_lookedUp? (Option.mem_toList.mp isNew)
      obtain ⟨recipe, found⟩ := finds
      simp [Need.recipe, notError, found] at failed
  · -- The new recipe is filed under the identity of the need, and no other is changed.
    refine ⟨once.pairwise_append absent, freeNow, ?_, ?_⟩
    · intro type member finds
      rw [Keyed.get?_insert]
      split
      · exact ⟨recipe, rfl⟩
      · rename_i other
        rcases List.mem_append.mp member with isEarlier | isNew
        · exact once.kept type isEarlier finds
        · obtain ⟨rfl, _⟩ := Need.eq_named_of_lookedUp? (Option.mem_toList.mp isNew)
          exact absurd rfl other
    · intro identity answer remembered
      rw [Keyed.get?_insert] at remembered
      split at remembered
      · rename_i same
        cases remembered
        exact ⟨need, same, found,
          fun type lookedUp => List.mem_append_right _ (Option.mem_toList.mpr lookedUp)⟩
      · exact once.logged_append _ remembered

/-- No success is repeated in a life of runs. -/
theorem Memory.after_searchesOnce
    (setting : Setting)
    (life : List (Nat × Goal)) :
    (Memory.after setting life).SearchesOnce setting :=
  Memory.after_induct
    (Memory.SearchesOnce setting)
    life (Memory.empty_searchesOnce setting)
    (fun run _ _ once =>
      resolveWithin_preserves
        (Memory.SearchesOnce setting)
        (fun _ => True)
        (fun _ _ _ free kept => kept.recipeFor free)
        (fun _ _ _ _ _ _ _ _ _ _ => trivial)
        run.1 (fun _ _ => trivial) once)

end Once

section Run

variable {lookup : Lookup} {searches front : List NamedType}

/-- Before an answer without failure every search finds a recipe. -/
theorem AccountsFor.finds
    {value : α}
    (accounts : AccountsFor lookup searches (.ok value : Except ResolutionError α)) :
    ∀ type ∈ searches, Finds lookup type := by
  cases accounts with
  | found finds resolved =>
      exact finds

/-- What accounts for a value accounts for every value. -/
theorem AccountsFor.ok
    (finds : ∀ type ∈ searches, Finds lookup type)
    (value : α) :
    AccountsFor lookup searches (.ok value : Except ResolutionError α) :=
  .found finds (fun _ _ isFailure => nomatch isFailure)

/-- A search that fails without any before it accounts for the failure. -/
theorem AccountsFor.alone
    {type : NamedType}
    {chain : List String}
    {cause : LookupError}
    (failed : lookup type = .error cause) :
    AccountsFor lookup [type] (.error (.unresolved chain cause) : Except ResolutionError α) := by
  have finds : ∀ type ∈ [], Finds lookup type := by simp
  exact AccountsFor.failed finds failed

/-- What accounts for a failure accounts for it wherever it is passed on. -/
theorem AccountsFor.passedOn
    {failure : ResolutionError}
    (accounts : AccountsFor lookup searches (.error failure : Except ResolutionError α)) :
    AccountsFor lookup searches (.error failure : Except ResolutionError β) := by
  cases accounts with
  | found finds resolved =>
      refine .found finds fun chain cause isUnresolved => ?_
      exact resolved chain cause (congrArg Except.error (Except.error.inj isUnresolved))
  | failed finds failed =>
      exact .failed finds failed

/-- Searches that find a recipe may come before. -/
theorem AccountsFor.after
    {answer : Except ResolutionError α}
    (accounts : AccountsFor lookup searches answer)
    (finds : ∀ type ∈ front, Finds lookup type) :
    AccountsFor lookup (front ++ searches) answer := by
  cases accounts with
  | found findsLater resolved =>
      exact .found (List.forall_mem_append.mpr ⟨finds, findsLater⟩) resolved
  | failed findsLater failed =>
      rw [← List.append_assoc]
      exact .failed (List.forall_mem_append.mpr ⟨finds, findsLater⟩) failed

variable {setting : Setting}

/-- A recipe that is known or found adds no failed search. -/
theorem exists_searches_of_recipeFor
    {need : Need}
    {memory later : Memory}
    {recipe : Recipe}
    (looked : recipeFor setting need memory = (.ok recipe, later)) :
    ∃ searches,
      later.searched = memory.searched ++ searches ∧
        ∀ type ∈ searches, Finds setting.lookup type := by
  rcases recipeFor_cases setting need memory with
    ⟨known, _, result⟩ | ⟨cause, _, _, result⟩ | ⟨answer, _, found, result⟩ <;>
  rw [result] at looked <;>
  cases looked
  · exact ⟨[], by simp, by simp⟩
  · refine ⟨need.lookedUp?.toList, rfl, ?_⟩
    intro type member
    obtain ⟨rfl, notError⟩ := Need.eq_named_of_lookedUp? (Option.mem_toList.mp member)
    refine ⟨recipe, ?_⟩
    simpa [Need.recipe, notError] using found

/-- A need without a recipe adds one search, which fails for the reported cause. -/
theorem exists_search_of_recipeFor
    {need : Need}
    {memory later : Memory}
    {cause : LookupError}
    (looked : recipeFor setting need memory = (.error cause, later)) :
    ∃ type,
      later.searched = memory.searched ++ [type] ∧ setting.lookup type = .error cause := by
  rcases recipeFor_cases setting need memory with
    ⟨known, _, result⟩ | ⟨answer, _, failed, result⟩ | ⟨answer, _, _, result⟩ <;>
  rw [result] at looked <;>
  cases looked
  obtain ⟨type, rfl, notError, isAnswer⟩ := Need.named_of_recipe_eq_error failed
  exact ⟨type, by simp [Need.lookedUp?, notError], isAnswer⟩

/-- The searches for a list of needs account for its answer if those for each need do. -/
theorem exists_accountsFor_resolveEach
    {resolve : Need → Memory → Except ResolutionError Tree × Memory}
    (each :
      ∀ need memory,
        ∃ searches,
          (resolve need memory).2.searched = memory.searched ++ searches ∧
            AccountsFor lookup searches (resolve need memory).1)
    (needs : List Need)
    (memory : Memory) :
    ∃ searches,
      (resolveEach resolve needs memory).2.searched = memory.searched ++ searches ∧
        AccountsFor lookup searches (resolveEach resolve needs memory).1 := by
  induction needs generalizing memory with
  | nil =>
      exact ⟨[], by simp [resolveEach], .ok (by simp) _⟩
  | cons need rest inductionHypothesis =>
      obtain ⟨searches, adds, accounts⟩ := each need memory
      simp only [resolveEach]
      cases first : resolve need memory with
      | mk answer middle =>
          rw [first] at adds accounts
          cases answer with
          | error failure =>
              exact ⟨searches, adds, accounts.passedOn⟩
          | ok tree =>
              obtain ⟨more, addsMore, accountsLater⟩ := inductionHypothesis middle
              rw [adds, List.append_assoc] at addsMore
              dsimp only
              cases remaining : resolveEach resolve rest middle with
              | mk others last =>
                  rw [remaining] at addsMore accountsLater
                  cases others with
                  | error failure =>
                      exact ⟨searches ++ more, addsMore, accountsLater.after accounts.finds⟩
                  | ok trees =>
                      exact ⟨searches ++ more, addsMore,
                        (AccountsFor.ok accountsLater.finds _).after accounts.finds⟩

/-- The searches for a need account for its answer. -/
theorem exists_accountsFor_resolveNeed
    (setting : Setting)
    (root : String)
    (limit : Nat)
    (path : List String)
    (stated : Need)
    (memory : Memory) :
    ∃ searches,
      (resolveNeed setting root limit path stated memory).2.searched =
          memory.searched ++ searches ∧
        AccountsFor setting.lookup searches
          (resolveNeed setting root limit path stated memory).1 := by
  induction limit generalizing path stated memory with
  | zero =>
      exact ⟨[], by simp [resolveNeed],
        .found (by simp) (fun _ _ isFailure => nomatch isFailure)⟩
  | succ limit inductionHypothesis =>
      simp only [resolveNeed]
      cases free :
          setting.supplied.get? (setting.substitutions.apply stated).identity with
      | some hoist =>
          exact ⟨[], by simp, .ok (by simp) _⟩
      | none =>
          by_cases onPath : (setting.substitutions.apply stated).identity ∈ path
          · simp only [if_pos onPath]
            exact ⟨[], (List.append_nil _).symm,
              .found (by simp) (fun _ _ isFailure => nomatch isFailure)⟩
          · simp only [if_neg onPath]
            -- The search for the need itself comes first, and those for its children follow
            -- only if it has found a recipe.
            cases looked :
                recipeFor setting (setting.substitutions.apply stated) memory with
            | mk result middle =>
                cases result with
                | error cause =>
                    obtain ⟨type, adds, failed⟩ := exists_search_of_recipeFor looked
                    exact ⟨[type], adds, .alone failed⟩
                | ok recipe =>
                    obtain ⟨searches, adds, finds⟩ := exists_searches_of_recipeFor looked
                    obtain ⟨more, addsMore, accounts⟩ :=
                      exists_accountsFor_resolveEach
                        (inductionHypothesis
                          (path ++ [(setting.substitutions.apply stated).identity]))
                        recipe.needs middle
                    rw [adds, List.append_assoc] at addsMore
                    dsimp only
                    cases remaining :
                        resolveEach
                          (resolveNeed setting root limit
                            (path ++ [(setting.substitutions.apply stated).identity]))
                          recipe.needs middle with
                    | mk answer last =>
                        rw [remaining] at addsMore accounts
                        cases answer with
                        | error failure =>
                            exact ⟨searches ++ more, addsMore, accounts.passedOn.after finds⟩
                        | ok children =>
                            exact ⟨searches ++ more, addsMore,
                              (AccountsFor.ok accounts.finds _).after finds⟩

/-- The searches for a goal account for its answer. -/
theorem exists_accountsFor_resolveWithin
    (limit : Nat)
    (setting : Setting)
    (goal : Goal)
    (memory : Memory) :
    ∃ searches,
      (resolveWithin limit setting goal memory).2.searched = memory.searched ++ searches ∧
        AccountsFor setting.lookup searches (resolveWithin limit setting goal memory).1 := by
  obtain ⟨searches, adds, accounts⟩ :=
    exists_accountsFor_resolveEach
      (exists_accountsFor_resolveNeed setting goal.identity limit []) goal.results memory
  simp only [resolveWithin]
  cases resolved :
      resolveEach (resolveNeed setting goal.identity limit []) goal.results memory with
  | mk answer later =>
      rw [resolved] at adds accounts
      cases answer with
      | error failure =>
          exact ⟨searches, adds, accounts.passedOn⟩
      | ok children =>
          exact ⟨searches, adds, .ok accounts.finds _⟩

end Run

/--
Every identity is searched at most once with success, and a failed search is reported.

The log is that of the resolver's whole life up to and including a run: the types of
the needs that were asked for, in this order. What the run adds to it accounts for the
answer of the run.
-/
theorem searchesOnce_after
    (setting : Setting)
    (earlier : List (Nat × Goal))
    (limit : Nat)
    (goal : Goal) :
    (Memory.after setting (earlier ++ [(limit, goal)])).SearchesOnce setting ∧
      (Memory.after setting (earlier ++ [(limit, goal)])).Records setting
        (askedFrom setting (earlier ++ [(limit, goal)]) Memory.empty) ∧
      ∃ searches,
        (Memory.after setting (earlier ++ [(limit, goal)])).searched =
            (Memory.after setting earlier).searched ++ searches ∧
          AccountsFor setting.lookup searches
            (resolveWithin limit setting goal (Memory.after setting earlier)).1 := by
  refine ⟨Memory.after_searchesOnce setting _, Memory.after_records setting _, ?_⟩
  rw [Memory.after_concat]
  exact exists_accountsFor_resolveWithin limit setting goal (Memory.after setting earlier)

end Resolution

end Wiring
