import Wiring.Proofs.DependencyGraph

namespace Wiring.Resolution

/-!
# Resolution without memory

What is remembered from earlier needs and goals saves lookups, and nothing else
can be seen of it: a goal has the tree, or the error with its chain or path, that
it has when every need is looked up anew. The limit on the depth cannot be seen
either, as long as it is not exceeded: an answer within one limit is the answer
within every greater one.
-/

/-- Resolve a need of the last identity on the path, looking up everything anew. -/
def resolveNeedAfresh
    (setting : Setting)
    (root : String) :
    Nat →
    List String →
    Need →
    Except ResolutionError Tree
  | 0, path, _ =>
      .error (.tooDeep (root :: path))
  | limit + 1, path, stated =>
      let need := setting.substitutions.apply stated
      match setting.supplied.get? need.identity with
      | some hoist =>
          .ok (.node need.wanted .caller hoist [])
      | none =>
          if need.identity ∈ path then
            .error (.cycle (root :: path ++ [need.identity]))
          else
            match need.recipe setting.lookup with
            | .error cause =>
                .error (.unresolved (root :: path) cause)
            | .ok recipe =>
                match recipe.needs.mapM
                    (resolveNeedAfresh setting root limit (path ++ [need.identity])) with
                | .error failure =>
                    .error failure
                | .ok children =>
                    .ok (.node
                      (nodeType need.wanted recipe children)
                      (.recipe recipe)
                      false
                      children)

/-- Resolve a goal with a limit on the depth, looking up everything anew. -/
def resolveAfresh
    (limit : Nat)
    (setting : Setting)
    (goal : Goal) :
    Except ResolutionError Tree :=
  match goal.results.mapM (resolveNeedAfresh setting goal.identity limit []) with
  | .error failure => .error failure
  | .ok children => .ok (rootNode goal children)

/-- A need resolves either as a supplied leaf or from a recipe and its needs. -/
theorem resolveNeedAfresh_succ_eq_ok_iff
    {setting : Setting}
    {root : String}
    {limit : Nat}
    {path : List String}
    {stated : Need}
    {tree : Tree} :
    resolveNeedAfresh setting root (limit + 1) path stated = .ok tree ↔
      (∃ hoist,
        setting.supplied.get? (setting.substitutions.apply stated).identity =
            some hoist ∧
          tree = .node (setting.substitutions.apply stated).wanted .caller hoist []) ∨
      ∃ recipe children,
        setting.supplied.get? (setting.substitutions.apply stated).identity = none ∧
          (setting.substitutions.apply stated).identity ∉ path ∧
          (setting.substitutions.apply stated).recipe setting.lookup = .ok recipe ∧
          recipe.needs.mapM
              (resolveNeedAfresh setting root limit
                (path ++ [(setting.substitutions.apply stated).identity])) =
            .ok children ∧
          tree =
            .node
              (nodeType (setting.substitutions.apply stated).wanted recipe children)
              (.recipe recipe) false children := by
  simp only [resolveNeedAfresh]
  generalize setting.substitutions.apply stated = need
  constructor
  · intro resolved
    split at resolved
    · rename_i hoist given
      exact .inl ⟨hoist, given, (Except.ok.inj resolved).symm⟩
    · rename_i free
      split at resolved
      · cases resolved
      · rename_i offPath
        split at resolved
        · cases resolved
        · rename_i recipe found
          split at resolved
          · cases resolved
          · rename_i children remaining
            exact .inr
              ⟨recipe, children, free, offPath, found, remaining,
                (Except.ok.inj resolved).symm⟩
  · rintro (⟨hoist, given, rfl⟩ |
      ⟨recipe, children, free, offPath, found, remaining, rfl⟩)
    · simp only [given]
    · simp only [free, if_neg offPath, found, remaining]

section Transparent

variable {setting : Setting} {goals : List Goal}

/-- Resolving one need after the other is a map if each answer does not depend on the memory. -/
theorem resolveEach_fst_eq_mapM
    (invariant : Memory → Prop)
    {resolve : Need → Memory → Except ResolutionError Tree × Memory}
    {afresh : Need → Except ResolutionError Tree}
    {needs : List Need}
    (kept :
      ∀ need ∈ needs, ∀ memory,
        invariant memory → invariant (resolve need memory).2)
    (each :
      ∀ need ∈ needs, ∀ memory,
        invariant memory → (resolve need memory).1 = afresh need)
    {memory : Memory}
    (holds : invariant memory) :
    (resolveEach resolve needs memory).1 = needs.mapM afresh := by
  induction needs generalizing memory with
  | nil =>
      rfl
  | cons need rest inductionHypothesis =>
      have keptFirst := kept need List.mem_cons_self memory holds
      have sameFirst := each need List.mem_cons_self memory holds
      have sameRest :=
        inductionHypothesis
          (fun below member => kept below (List.mem_cons_of_mem need member))
          (fun below member => each below (List.mem_cons_of_mem need member))
          keptFirst
      rw [List.mapM_cons, ← sameFirst]
      simp only [resolveEach]
      cases first : resolve need memory with
      | mk answer middle =>
          rw [first] at sameRest
          cases answer with
          | error failure =>
              rfl
          | ok tree =>
              dsimp only at sameRest ⊢
              rw [← sameRest]
              cases remaining : resolveEach resolve rest middle with
              | mk answers last =>
                  cases answers <;> rfl

/-- A need has the answer that it has without memory, if only right answers are remembered. -/
theorem resolveNeed_fst_eq_afresh
    (agrees : Agrees setting goals)
    (root : String)
    (limit : Nat)
    (path : List String)
    {stated : Need}
    (occurs : Occurs setting goals (setting.substitutions.apply stated))
    {memory : Memory}
    (answers : memory.Answers setting goals) :
    (resolveNeed setting root limit path stated memory).1 =
      resolveNeedAfresh setting root limit path stated := by
  induction limit generalizing path stated memory with
  | zero =>
      rfl
  | succ limit inductionHypothesis =>
      simp only [resolveNeed, resolveNeedAfresh]
      generalize setting.substitutions.apply stated = need at occurs ⊢
      cases free : setting.supplied.get? need.identity with
      | some hoist =>
          rfl
      | none =>
          by_cases onPath : need.identity ∈ path
          · simp only [if_pos onPath]
          · simp only [if_neg onPath]
            -- The look-up may add to the memory, but only a right answer: the children
            -- start from another memory of the same kind.
            have found := recipeFor_fst agrees occurs answers
            have afterLookup := answers.recipeFor occurs
            rw [← found]
            cases looked : recipeFor setting need memory with
            | mk answer middle =>
                rw [looked] at found afterLookup
                cases answer with
                | error cause =>
                    rfl
                | ok recipe =>
                    have needed :
                        ∀ below ∈ recipe.needs,
                          Occurs setting goals (setting.substitutions.apply below) :=
                      fun below member => .needed occurs free found.symm member
                    have sameChildren :=
                      resolveEach_fst_eq_mapM
                        (fun memory => memory.Answers setting goals)
                        (fun below member memory kept =>
                          kept.resolveNeed agrees (needed below member))
                        (fun below member memory kept =>
                          inductionHypothesis (path ++ [need.identity])
                            (needed below member) kept)
                        afterLookup
                    dsimp only
                    rw [← sameChildren]
                    cases remaining :
                        resolveEach
                          (resolveNeed setting root limit (path ++ [need.identity]))
                          recipe.needs middle with
                    | mk children last =>
                        cases children <;> rfl

/-- A goal has the answer that it has without memory, if only right answers are remembered. -/
theorem resolveWithin_fst_eq_afresh
    (agrees : Agrees setting goals)
    (limit : Nat)
    {goal : Goal}
    (listed : goal ∈ goals)
    {memory : Memory}
    (answers : memory.Answers setting goals) :
    (resolveWithin limit setting goal memory).1 = resolveAfresh limit setting goal := by
  have sameChildren :=
    resolveEach_fst_eq_mapM
      (fun memory => memory.Answers setting goals)
      (fun stated member memory kept =>
        kept.resolveNeed agrees (.result listed member))
      (fun stated member memory kept =>
        resolveNeed_fst_eq_afresh agrees goal.identity limit []
          (.result listed member) kept)
      answers
  simp only [resolveWithin, resolveAfresh, ← sameChildren]
  cases remaining :
      resolveEach (resolveNeed setting goal.identity limit []) goal.results memory with
  | mk children last =>
      cases children <;> rfl

end Transparent

section Limit

/-- The limit on the depth was not exceeded. -/
def Settled (answer : Except ResolutionError α) : Prop :=
  ∀ chain, answer ≠ .error (.tooDeep chain)

/-- Answers that are settled for each of some needs are settled for all of them together. -/
theorem mapM_eq_of_settled
    {resolve other : Need → Except ResolutionError Tree}
    {needs : List Need}
    (each : ∀ need ∈ needs, Settled (resolve need) → other need = resolve need)
    (settled : Settled (needs.mapM resolve)) :
    needs.mapM other = needs.mapM resolve := by
  induction needs with
  | nil =>
      rfl
  | cons need rest inductionHypothesis =>
      have eachRest :=
        inductionHypothesis
          (fun below member => each below (List.mem_cons_of_mem need member))
      have eachFirst := each need List.mem_cons_self
      rw [List.mapM_cons] at settled
      rw [List.mapM_cons, List.mapM_cons]
      cases first : resolve need with
      | error failure =>
          rw [first] at settled eachFirst
          have settledFirst : Settled (.error failure : Except ResolutionError Tree) :=
            fun chain isDeep => settled chain (by rw [Except.error.inj isDeep]; rfl)
          rw [eachFirst settledFirst]
          rfl
      | ok tree =>
          rw [first] at settled eachFirst
          have settledRest : Settled (rest.mapM resolve) :=
            fun chain isDeep => settled chain (by rw [isDeep]; rfl)
          rw [eachFirst (fun chain isDeep => nomatch isDeep), eachRest settledRest]

/-- An answer for a need that does not exceed a limit is the answer within a greater one. -/
theorem resolveNeedAfresh_mono
    {setting : Setting}
    {root : String}
    {limit more : Nat}
    (greater : limit ≤ more)
    {path : List String}
    {stated : Need}
    (settled : Settled (resolveNeedAfresh setting root limit path stated)) :
    resolveNeedAfresh setting root more path stated =
      resolveNeedAfresh setting root limit path stated := by
  induction limit generalizing more path stated with
  | zero =>
      exact absurd rfl (settled (root :: path))
  | succ limit inductionHypothesis =>
      obtain ⟨lower, rfl⟩ : ∃ lower, more = lower + 1 :=
        Nat.exists_eq_add_of_le' (Nat.le_trans (Nat.le_add_left 1 limit) greater)
      simp only [resolveNeedAfresh] at settled ⊢
      generalize setting.substitutions.apply stated = need at settled ⊢
      cases free : setting.supplied.get? need.identity with
      | some hoist =>
          rfl
      | none =>
          rw [free] at settled
          by_cases onPath : need.identity ∈ path
          · simp only [if_pos onPath]
          · simp only [if_neg onPath] at settled ⊢
            cases found : need.recipe setting.lookup with
            | error cause =>
                rfl
            | ok recipe =>
                rw [found] at settled
                have settledChildren :
                    Settled
                      (recipe.needs.mapM
                        (resolveNeedAfresh setting root limit
                          (path ++ [need.identity]))) :=
                  fun chain isDeep => settled chain (by simp only [isDeep])
                dsimp only
                rw [mapM_eq_of_settled
                  (fun below _ belowSettled =>
                    inductionHypothesis (Nat.le_of_succ_le_succ greater) belowSettled)
                  settledChildren]

/-- An answer for a goal that does not exceed a limit is the answer within a greater one. -/
theorem resolveAfresh_mono
    {setting : Setting}
    {goal : Goal}
    {limit more : Nat}
    (greater : limit ≤ more)
    (settled : Settled (resolveAfresh limit setting goal)) :
    resolveAfresh more setting goal = resolveAfresh limit setting goal := by
  have settledChildren :
      Settled (goal.results.mapM (resolveNeedAfresh setting goal.identity limit [])) :=
    fun chain isDeep => settled chain (by rw [resolveAfresh, isDeep])
  rw [resolveAfresh, resolveAfresh,
    mapM_eq_of_settled
      (fun stated _ statedSettled => resolveNeedAfresh_mono greater statedSettled)
      settledChildren]

end Limit

/--
What earlier runs remember cannot be seen in the answer for a goal.

Whatever goals were resolved before, with success or not, a goal has the same
tree or the same error as without any memory. That answer does not depend on the
limit either, unless it says that the limit is exceeded.
-/
theorem resolveWithin_eq_afresh
    (setting : Setting)
    (earlier : List (Nat × Goal))
    (goal : Goal)
    (agrees : Agrees setting (goal :: earlier.map Prod.snd))
    (limit : Nat) :
    (resolveWithin limit setting goal (Memory.after setting earlier)).1 =
        resolveAfresh limit setting goal ∧
      (Settled (resolveAfresh limit setting goal) →
        ∀ more,
          limit ≤ more →
          (resolveWithin more setting goal (Memory.after setting earlier)).1 =
            resolveAfresh limit setting goal) := by
  have listed : goal ∈ goal :: earlier.map Prod.snd := List.mem_cons_self
  have answers :
      (Memory.after setting earlier).Answers setting (goal :: earlier.map Prod.snd) :=
    Memory.after_answers agrees earlier
      (fun run member => List.mem_cons_of_mem goal (List.mem_map_of_mem member))
  constructor
  · exact resolveWithin_fst_eq_afresh agrees limit listed answers
  · intro settled more greater
    rw [resolveWithin_fst_eq_afresh agrees more listed answers]
    exact resolveAfresh_mono greater settled

namespace Interrupted

/-- A function that provides `B`, and `D`, for which there is no recipe. -/
def goal : Goal where
  importPath := "p"
  name := "Fail"
  package := "p"
  results := [.named (Diamond.named "B"), .named (Diamond.named "D")]

/-- Only four types occur. -/
theorem occurs_cases
    {need : Need}
    (occurs : Occurs Diamond.setting [Diamond.goal, goal] need) :
    need = .named (Diamond.named "A") ∨
      need = .named (Diamond.named "B") ∨
      need = .named (Diamond.named "C") ∨
      need = .named (Diamond.named "D") := by
  induction occurs with
  | @result source stated listed member =>
      simp only [List.mem_cons, List.not_mem_nil, or_false] at listed
      rcases listed with rfl | rfl
      · rw [show Diamond.goal.results = [.named (Diamond.named "A")] from rfl,
          List.mem_singleton] at member
        subst member
        exact .inl rfl
      · simp only [goal, List.mem_cons, List.not_mem_nil, or_false] at member
        rcases member with rfl | rfl
        · exact .inr (.inl rfl)
        · exact .inr (.inr (.inr rfl))
  | @needed need stated recipe occurs free found member inductionHypothesis =>
      rcases inductionHypothesis with rfl | rfl | rfl | rfl
      · have recipeShape :
            recipe = Diamond.make "A" [Diamond.named "B", Diamond.named "C"] :=
          (Except.ok.inj found).symm
        subst recipeShape
        simp only [Diamond.make, Recipe.needs, List.map_cons, List.map_nil,
          List.mem_cons, List.not_mem_nil, or_false] at member
        rcases member with rfl | rfl
        · exact .inr (.inl rfl)
        · exact .inr (.inr (.inl rfl))
      · have recipeShape : recipe = Diamond.make "B" [Diamond.named "C"] :=
          (Except.ok.inj found).symm
        subst recipeShape
        simp only [Diamond.make, Recipe.needs, List.map_cons, List.map_nil,
          List.mem_cons, List.not_mem_nil, or_false] at member
        subst member
        exact .inr (.inr (.inl rfl))
      · have recipeShape : recipe = Diamond.make "C" [] :=
          (Except.ok.inj found).symm
        subst recipeShape
        simp [Diamond.make, Recipe.needs] at member
      · cases found

/-- The four types differ in their identities. -/
theorem agrees : Agrees Diamond.setting [Diamond.goal, goal] := by
  intro need other occurs otherOccurs same
  rcases occurs_cases occurs with rfl | rfl | rfl | rfl <;>
    rcases occurs_cases otherOccurs with rfl | rfl | rfl | rfl <;>
    first
      | rfl
      | exact absurd same (by decide)

end Interrupted

/-- After a failed run that remembers `B` and `C`, a goal resolves as if nothing were known. -/
theorem resolveWithin_eq_afresh_interrupted :
    Agrees Diamond.setting [Diamond.goal, Interrupted.goal] ∧
      (resolveWithin 4 Diamond.setting Interrupted.goal Memory.empty).1 =
        .error (.unresolved ["\"p\".Fail"] (.notFound "\"p\".D" none)) ∧
      (Memory.after Diamond.setting [(4, Interrupted.goal)]).known.keys =
        ["\"p\".B", "\"p\".C"] ∧
      (resolveWithin 4 Diamond.setting Diamond.goal
          (Memory.after Diamond.setting [(4, Interrupted.goal)])).1 =
        resolveAfresh 4 Diamond.setting Diamond.goal ∧
      ∃ root,
        ∀ more,
          4 ≤ more →
          (resolveWithin more Diamond.setting Diamond.goal
              (Memory.after Diamond.setting [(4, Interrupted.goal)])).1 = .ok root := by
  obtain ⟨same, stable⟩ :=
    resolveWithin_eq_afresh Diamond.setting [(4, Interrupted.goal)] Diamond.goal
      Interrupted.agrees 4
  obtain ⟨root, resolved⟩ :
      ∃ root, resolveAfresh 4 Diamond.setting Diamond.goal = .ok root :=
    ⟨_, rfl⟩
  have settled : Settled (resolveAfresh 4 Diamond.setting Diamond.goal) := by
    intro chain
    rw [resolved]
    exact fun isDeep => nomatch isDeep
  refine ⟨Interrupted.agrees, rfl, rfl, same, root, ?_⟩
  intro more greater
  rw [stable settled more greater, resolved]

end Wiring.Resolution
