import Wiring.Proofs.Conformance

namespace Wiring

/-!
# Failures name genuine chains

A failed resolution names the identities that led to the failure. Each is needed by
the one before it, as the recipes say that the resolver has discovered, and the
chain ends where a need closes a cycle or has no recipe. The chain therefore proves
the failure, whatever the resolver was used for before.
-/

/-- Only a named type can lack a recipe, because it is looked up. -/
theorem Need.named_of_recipe_eq_error
    {need : Need}
    {lookup : Lookup}
    {cause : LookupError}
    (failed : need.recipe lookup = .error cause) :
    ∃ type, need = .named type ∧ type.isError = false ∧ lookup type = .error cause := by
  cases need with
  | named type =>
      simp only [Need.recipe] at failed
      split at failed
      · cases failed
      · rename_i notError
        exact ⟨type, rfl, Bool.eq_false_iff.mpr notError, failed⟩
  | record listed =>
      cases failed
  | error =>
      cases failed

namespace Resolution

/-- What is needed at the end of a chain: by the goal, or by the recipe of the last identity. -/
def needsBelow
    (discovered : String → Option Recipe)
    (goal : Goal)
    (entries : List String) :
    List Need :=
  match entries.getLast? with
  | none => goal.results
  | some identity => (discovered identity).elim [] Recipe.needs

/-- Each identity is that of a need of the one before, once replaced, and is not supplied. -/
inductive Linked
    (setting : Setting)
    (discovered : String → Option Recipe)
    (goal : Goal) :
    List String → Prop where
  | goal :
      Linked setting discovered goal []
  | need
      {entries : List String}
      {stated : Need}
      (linked : Linked setting discovered goal entries)
      (needed : stated ∈ needsBelow discovered goal entries)
      (free : setting.supplied.get? (setting.substitutions.apply stated).identity = none) :
      Linked setting discovered goal
        (entries ++ [(setting.substitutions.apply stated).identity])

/--
A failure is proved by the chain that it names.

A cycle closes at one of its different identities. What is unresolved is needed at the
end of the chain, is not on it, and was the last type to be looked up, with the named
cause as the answer. A chain that is too deep has as many identities as the limit allows.
-/
inductive Genuine
    (limit : Nat)
    (setting : Setting)
    (discovered : String → Option Recipe)
    (goal : Goal)
    (searched : List NamedType) :
    ResolutionError → Prop where
  | cycle
      {entries : List String}
      {last : String}
      (linked : Linked setting discovered goal (entries ++ [last]))
      (distinct : entries.Nodup)
      (once : entries.count last = 1) :
      Genuine limit setting discovered goal searched
        (.cycle (goal.identity :: (entries ++ [last])))
  | unresolved
      {entries : List String}
      {stated : Need}
      {type : NamedType}
      {cause : LookupError}
      (linked : Linked setting discovered goal entries)
      (distinct : entries.Nodup)
      (needed : stated ∈ needsBelow discovered goal entries)
      (free : setting.supplied.get? (setting.substitutions.apply stated).identity = none)
      (offPath : (setting.substitutions.apply stated).identity ∉ entries)
      (isNamed : setting.substitutions.apply stated = .named type)
      (notError : type.isError = false)
      (failed : setting.lookup type = .error cause)
      (lookedUp : searched.getLast? = some type) :
      Genuine limit setting discovered goal searched
        (.unresolved (goal.identity :: entries) cause)
  | tooDeep
      {entries : List String}
      (linked : Linked setting discovered goal entries)
      (distinct : entries.Nodup)
      (deep : entries.length = limit) :
      Genuine limit setting discovered goal searched
        (.tooDeep (goal.identity :: entries))

section Chains

variable {setting : Setting} {goal : Goal} {memory later : Memory} {entries : List String}

/-- More recipes are known later, so no need at the end of a chain is lost. -/
theorem needsBelow_subset
    (grows : memory.GrowsTo later)
    (goal : Goal)
    (entries : List String) :
    needsBelow memory.known.get? goal entries ⊆ needsBelow later.known.get? goal entries := by
  unfold needsBelow
  split
  · exact List.Subset.refl _
  · rename_i identity isLast
    cases known : memory.known.get? identity with
    | none =>
        exact List.nil_subset _
    | some recipe =>
        rw [grows identity recipe known]
        exact List.Subset.refl _

/-- At the end of a chain stand the needs of the recipe that is known for its last identity. -/
theorem needsBelow_concat
    {identity : String}
    {recipe : Recipe}
    (known : memory.known.get? identity = some recipe)
    (goal : Goal)
    (entries : List String) :
    needsBelow memory.known.get? goal (entries ++ [identity]) = recipe.needs := by
  simp [needsBelow, known]

/-- A linked chain stays linked when recipes are added. -/
theorem Linked.mono
    (grows : memory.GrowsTo later)
    (linked : Linked setting memory.known.get? goal entries) :
    Linked setting later.known.get? goal entries := by
  induction linked with
  | goal =>
      exact .goal
  | need linked needed free inductionHypothesis =>
      exact .need inductionHypothesis (needsBelow_subset grows goal _ needed) free

/-- A need without a recipe is reported with the chain that it stands at the end of. -/
theorem genuine_of_recipeFor
    {stated : Need}
    (linked : Linked setting memory.known.get? goal entries)
    (distinct : entries.Nodup)
    (needed : stated ∈ needsBelow memory.known.get? goal entries)
    (free : setting.supplied.get? (setting.substitutions.apply stated).identity = none)
    (offPath : (setting.substitutions.apply stated).identity ∉ entries)
    {cause : LookupError}
    (failed :
      recipeFor setting (setting.substitutions.apply stated) memory = (.error cause, later))
    (limit : Nat) :
    Genuine limit setting later.known.get? goal later.searched
      (.unresolved (goal.identity :: entries) cause) := by
  rcases recipeFor_cases setting (setting.substitutions.apply stated) memory with
    ⟨recipe, _, result⟩ | ⟨answer, _, unanswered, result⟩ | ⟨recipe, _, _, result⟩
  · rw [result] at failed
    cases failed
  · rw [result] at failed
    cases failed
    obtain ⟨type, isNamed, notError, isAnswer⟩ := Need.named_of_recipe_eq_error unanswered
    refine .unresolved linked distinct needed free offPath isNamed notError isAnswer ?_
    simp [isNamed, Need.lookedUp?, notError]
  · rw [result] at failed
    cases failed

/-- A need that fails at the end of a linked chain is reported with a genuine chain. -/
theorem genuine_of_resolveNeed
    {total limit : Nat}
    (depth : entries.length + limit = total)
    (linked : Linked setting memory.known.get? goal entries)
    (distinct : entries.Nodup)
    {stated : Need}
    (needed : stated ∈ needsBelow memory.known.get? goal entries)
    {failure : ResolutionError}
    (failed :
      resolveNeed setting goal.identity limit entries stated memory = (.error failure, later)) :
    Genuine total setting later.known.get? goal later.searched failure := by
  induction limit generalizing entries stated memory with
  | zero =>
      cases failed
      exact .tooDeep linked distinct depth
  | succ limit inductionHypothesis =>
      obtain ⟨free, outcome⟩ := resolveNeed_error_cases failed
      rcases outcome with
        ⟨onPath, rfl, rfl⟩ | ⟨offPath, cause, unanswered, rfl⟩ |
        ⟨offPath, recipe, middle, found, failedBelow⟩
      · exact .cycle (.need linked needed free) distinct
          (List.count_eq_one_of_mem distinct onPath)
      · exact genuine_of_recipeFor linked distinct needed free offPath unanswered total
      · -- The chain is extended by the need, whose recipe is known from here on.
        obtain ⟨below, member, last, grown, failedThere⟩ :=
          resolveEach_error_cases (fun reached => middle.GrowsTo reached)
            (fun need _ reached grown =>
              grown.trans (resolveNeed_grows setting goal.identity limit _ need reached))
            (.refl middle) failedBelow
        have grows : memory.GrowsTo last := by
          have first := recipeFor_grows setting (setting.substitutions.apply stated) memory
          rw [found] at first
          exact first.trans grown
        have known := grown _ _ (recipeFor_remembers found)
        refine inductionHypothesis ?_
          (.need (linked.mono grows) (needsBelow_subset grows goal _ needed) free)
          ?_ ?_ failedThere
        · rw [List.length_append, List.length_singleton]
          omega
        · exact List.nodup_append_comm.mp (List.nodup_cons.mpr ⟨offPath, distinct⟩)
        · rw [needsBelow_concat known]
          exact member

end Chains

/--
Whatever a resolution fails with is proved by the chain that it names.

The resolver may have served any goals before, with or without success. The recipes
along the chain are those that it has first discovered in its whole life.
-/
theorem genuine_of_resolveWithin
    {setting : Setting}
    {earlier : List (Nat × Goal)}
    {limit : Nat}
    {goal : Goal}
    {failure : ResolutionError}
    (failed :
      (resolveWithin limit setting goal (Memory.after setting earlier)).1 = .error failure) :
    Genuine limit setting (discovered setting (earlier ++ [(limit, goal)])) goal
      (Memory.after setting (earlier ++ [(limit, goal)])).searched failure := by
  rw [← known_after, Memory.after_concat]
  generalize Memory.after setting earlier = memory at failed ⊢
  unfold resolveWithin at failed ⊢
  split at failed
  · rename_i cause later failedEach
    cases failed
    obtain ⟨stated, member, middle, _, failedThere⟩ :=
      resolveEach_error_cases (fun _ => True) (fun _ _ _ _ => trivial) trivial failedEach
    exact genuine_of_resolveNeed (Nat.zero_add limit) .goal List.nodup_nil member failedThere
  · cases failed

/-- Answers from the table of the diamond, where `A` takes the place of `C`. -/
def Rebuilt.looped : Setting where
  lookup := Diamond.table.lookup
  substitutions :=
    Substitutions.add Keyed.empty (.named (Diamond.named "C")) (.named (Diamond.named "A"))
  supplied := Keyed.empty

/--
A cycle through a replacement is reported by a resolver that has failed before, and a
type without a recipe by a new one.
-/
theorem genuine_of_resolveWithin_rebuilt :
    ((resolveWithin 4 Rebuilt.looped Diamond.goal
          (Memory.after Rebuilt.looped [(1, Diamond.goal)])).1 =
        .error (.cycle ["\"p\".Provide", "\"p\".A", "\"p\".B", "\"p\".A"]) ∧
      Genuine 4 Rebuilt.looped
        (discovered Rebuilt.looped [(1, Diamond.goal), (4, Diamond.goal)]) Diamond.goal
        (Memory.after Rebuilt.looped [(1, Diamond.goal), (4, Diamond.goal)]).searched
        (.cycle ["\"p\".Provide", "\"p\".A", "\"p\".B", "\"p\".A"])) ∧
    ((resolveWithin 3 Rebuilt.setting Rebuilt.failing (Memory.after Rebuilt.setting [])).1 =
        .error (.unresolved ["\"p\".Fail"] (.notFound "\"p\".E" none)) ∧
      Genuine 3 Rebuilt.setting (discovered Rebuilt.setting [(3, Rebuilt.failing)])
        Rebuilt.failing (Memory.after Rebuilt.setting [(3, Rebuilt.failing)]).searched
        (.unresolved ["\"p\".Fail"] (.notFound "\"p\".E" none))) := by
  have closes :
      (resolveWithin 4 Rebuilt.looped Diamond.goal
          (Memory.after Rebuilt.looped [(1, Diamond.goal)])).1 =
        .error (.cycle ["\"p\".Provide", "\"p\".A", "\"p\".B", "\"p\".A"]) := by
    rfl
  have lacks :
      (resolveWithin 3 Rebuilt.setting Rebuilt.failing (Memory.after Rebuilt.setting [])).1 =
        .error (.unresolved ["\"p\".Fail"] (.notFound "\"p\".E" none)) := by
    rfl
  exact ⟨⟨closes, genuine_of_resolveWithin closes⟩, lacks, genuine_of_resolveWithin lacks⟩

end Resolution

end Wiring
