import Wiring.Proofs.PackageAnswers
import Wiring.Proofs.Provenance
import Wiring.Proofs.ResolutionAfresh
import Wiring.Proofs.Sharing

namespace Wiring

/-!
# Resolution returns

The recursion of a resolver follows whatever recipes the lookup finds, and no part of
its input becomes smaller on the way. `Runs` is this recursion without any limit,
together with how many of its calls are nested at most. Over a finite catalog every
goal has a run, whatever the resolver remembers: the path repeats no identity, so a
run nests at most one call more than there are identities to meet. The limit that the
resolver computes for itself is therefore never exceeded.
-/

namespace Need

/-- The identities of the fields that are listed with a need. -/
def fieldIdentities : Need → List String
  | .record listed => listed.fields.map (fun field => field.type.identity)
  | _ => []

/-- A need speaks of its own identity. -/
theorem identity_mem_mentioned
    (need : Need) :
    need.identity ∈ need.mentioned := by
  cases need <;> simp [mentioned, identity, wanted]

/-- A need speaks of the fields that are listed with it. -/
theorem fieldIdentities_subset_mentioned
    (need : Need) :
    need.fieldIdentities ⊆ need.mentioned := by
  cases need <;> simp [mentioned, fieldIdentities]

end Need

/-- A catalog mentions all that the recipes of its lookup speak of. -/
def Catalog.Complete (catalog : Catalog) : Prop :=
  ∀ type recipe,
    catalog.lookup type = .ok recipe →
    recipe.mentioned ⊆ catalog.mentioned

/-- What stays the same while goals are resolved from a catalog. -/
abbrev Catalog.setting
    (catalog : Catalog)
    (substitutions : Substitutions)
    (supplied : Supplied) :
    Resolution.Setting where
  lookup := catalog.lookup
  substitutions
  supplied

/-- What a package mentions is mentioned by a search that finds the package. -/
theorem PackageSearch.mentionedBy_subset
    {search : PackageSearch}
    {path : String}
    {package : Package}
    (located : search.packages.get? path = some package) :
    mentionedBy package ⊆ search.catalog.mentioned := by
  intro identity member
  exact List.mem_flatMap.mpr ⟨_, Entries.mem_of_get? located, member⟩

/-- A search of packages mentions all that it needs for its answers. -/
theorem PackageSearch.catalog_complete
    (search : PackageSearch) :
    search.catalog.Complete := by
  intro type recipe found identity member
  obtain ⟨need, needed, mentions⟩ := List.mem_flatMap.mp member
  cases answers_of_lookup found with
  | @call package function leading trailing output located declared provides samePath sameName =>
      obtain ⟨required, isRequired, rfl⟩ := List.mem_map.mp needed
      obtain rfl := List.mem_singleton.mp mentions
      apply mentionedBy_subset located
      simp only [mentionedBy, List.map_append, List.mem_append]
      exact .inl (.inl
        (List.mem_map_of_mem (List.mem_flatMap.mpr ⟨function, declared, isRequired⟩)))
  | @literal package struct located declared sameName =>
      obtain ⟨filled, isFilled, rfl⟩ := List.mem_map.mp needed
      obtain rfl := List.mem_singleton.mp mentions
      obtain ⟨field, isField, rfl⟩ := List.mem_map.mp isFilled
      apply mentionedBy_subset located
      simp only [mentionedBy, List.map_append, List.mem_append]
      exact .inl (.inr
        (List.mem_map_of_mem
          (List.mem_flatMap.mpr
            ⟨struct, declared, List.mem_map_of_mem (List.mem_filter.mp isField).1⟩)))
  | @forward package declared located listed sameName =>
      obtain rfl := List.mem_singleton.mp needed
      obtain rfl := List.mem_singleton.mp mentions
      apply mentionedBy_subset located
      simp only [mentionedBy, List.map_append, List.mem_append]
      refine .inr (List.mem_map.mpr ⟨declared.target, List.mem_map_of_mem listed, ?_⟩)
      split <;> rfl

/-- A table mentions all that its rows need. -/
theorem LookupTable.catalog_complete
    (table : LookupTable) :
    table.catalog.Complete := by
  intro type recipe found identity member
  simp only [catalog, lookup] at found
  split at found
  · rename_i row isRow
    refine List.mem_flatMap.mpr ⟨_, Entries.mem_of_get? isRow, ?_⟩
    cases row with
    | found known =>
        cases found
        exact member
    | _ =>
        cases found
  · cases found

namespace Resolution

/--
The needs of the last identity on a path are resolved one after the other.

The number says how many calls are nested at most, one for each need on the way from
the listed ones downwards. There is no limit on it: the rules are those of the
recursion alone.
-/
inductive Runs
    (setting : Setting)
    (root : String) :
    Nat →
    List String →
    List Need →
    Memory →
    Except ResolutionError (List Tree) →
    Memory → Prop where
  | done
      {path : List String}
      {memory : Memory} :
      Runs setting root 0 path [] memory (.ok []) memory
  | supplied
      {path : List String}
      {stated : Need}
      {rest : List Need}
      {memory last : Memory}
      {hoist : Bool}
      {levels : Nat}
      {answer : Except ResolutionError (List Tree)}
      (given :
        setting.supplied.get? (setting.substitutions.apply stated).identity = some hoist)
      (others : Runs setting root levels path rest memory answer last) :
      Runs setting root (max 1 levels) path (stated :: rest) memory
        (answer.map
          (.node (setting.substitutions.apply stated).wanted .caller hoist [] :: ·))
        last
  | cycle
      {path : List String}
      {stated : Need}
      {rest : List Need}
      {memory : Memory}
      (free : setting.supplied.get? (setting.substitutions.apply stated).identity = none)
      (onPath : (setting.substitutions.apply stated).identity ∈ path) :
      Runs setting root 1 path (stated :: rest) memory
        (.error (.cycle (root :: path ++ [(setting.substitutions.apply stated).identity])))
        memory
  | unresolved
      {path : List String}
      {stated : Need}
      {rest : List Need}
      {memory later : Memory}
      {cause : LookupError}
      (free : setting.supplied.get? (setting.substitutions.apply stated).identity = none)
      (offPath : (setting.substitutions.apply stated).identity ∉ path)
      (failed :
        recipeFor setting (setting.substitutions.apply stated) memory = (.error cause, later)) :
      Runs setting root 1 path (stated :: rest) memory
        (.error (.unresolved (root :: path) cause)) later
  | failedBelow
      {path : List String}
      {stated : Need}
      {rest : List Need}
      {memory middle later : Memory}
      {recipe : Recipe}
      {levels : Nat}
      {failure : ResolutionError}
      (free : setting.supplied.get? (setting.substitutions.apply stated).identity = none)
      (offPath : (setting.substitutions.apply stated).identity ∉ path)
      (found :
        recipeFor setting (setting.substitutions.apply stated) memory = (.ok recipe, middle))
      (below :
        Runs setting root levels (path ++ [(setting.substitutions.apply stated).identity])
          recipe.needs middle (.error failure) later) :
      Runs setting root (levels + 1) path (stated :: rest) memory (.error failure) later
  | constructed
      {path : List String}
      {stated : Need}
      {rest : List Need}
      {memory middle later last : Memory}
      {recipe : Recipe}
      {children : List Tree}
      {levels more : Nat}
      {answer : Except ResolutionError (List Tree)}
      (free : setting.supplied.get? (setting.substitutions.apply stated).identity = none)
      (offPath : (setting.substitutions.apply stated).identity ∉ path)
      (found :
        recipeFor setting (setting.substitutions.apply stated) memory = (.ok recipe, middle))
      (below :
        Runs setting root levels (path ++ [(setting.substitutions.apply stated).identity])
          recipe.needs middle (.ok children) later)
      (others : Runs setting root more path rest later answer last) :
      Runs setting root (max (levels + 1) more) path (stated :: rest) memory
        (answer.map
          (.node (nodeType (setting.substitutions.apply stated).wanted recipe children)
            (.recipe recipe) false children :: ·))
        last

section Limit

/-- A list whose first need has a tree has the answer of the others, with this tree in front. -/
theorem resolveEach_cons_of_ok
    {resolve : Need → Memory → Except ResolutionError Tree × Memory}
    {need : Need}
    {rest : List Need}
    {memory middle last : Memory}
    {tree : Tree}
    {answer : Except ResolutionError (List Tree)}
    (first : resolve need memory = (.ok tree, middle))
    (others : resolveEach resolve rest middle = (answer, last)) :
    resolveEach resolve (need :: rest) memory = (answer.map (tree :: ·), last) := by
  simp only [resolveEach, first, others]
  cases answer <;> rfl

/-- A list whose first need fails has the failure as its answer. -/
theorem resolveEach_cons_of_error
    {resolve : Need → Memory → Except ResolutionError Tree × Memory}
    {need : Need}
    {memory later : Memory}
    {failure : ResolutionError}
    (first : resolve need memory = (.error failure, later))
    (rest : List Need) :
    resolveEach resolve (need :: rest) memory = (.error failure, later) := by
  simp only [resolveEach, first]

variable {setting : Setting} {root : String} {levels : Nat} {path : List String}
  {needs : List Need} {memory later : Memory} {answer : Except ResolutionError (List Tree)}

/-- A limit that leaves room for the calls of a run does not change what they return. -/
theorem Runs.resolveEach_eq
    (runs : Runs setting root levels path needs memory answer later)
    {limit : Nat}
    (room : levels ≤ limit) :
    resolveEach (resolveNeed setting root limit path) needs memory = (answer, later) := by
  induction runs generalizing limit with
  | done =>
      rfl
  | supplied given others inductionHypothesis =>
      refine resolveEach_cons_of_ok ?_ (inductionHypothesis (le_of_max_le_right room))
      obtain ⟨lower, rfl⟩ := Nat.exists_eq_add_of_le' (le_of_max_le_left room)
      simp only [resolveNeed, given]
  | cycle free onPath =>
      refine resolveEach_cons_of_error ?_ _
      obtain ⟨lower, rfl⟩ := Nat.exists_eq_add_of_le' room
      simp only [resolveNeed, free, onPath, if_true]
  | unresolved free offPath failed =>
      refine resolveEach_cons_of_error ?_ _
      obtain ⟨lower, rfl⟩ := Nat.exists_eq_add_of_le' room
      simp only [resolveNeed, free, offPath, if_false, failed]
  | failedBelow free offPath found below inductionHypothesis =>
      refine resolveEach_cons_of_error ?_ _
      obtain ⟨lower, rfl⟩ :=
        Nat.exists_eq_add_of_le' (Nat.le_trans (Nat.le_add_left 1 _) room)
      simp only [resolveNeed, free, offPath, if_false, found,
        inductionHypothesis (Nat.le_of_succ_le_succ room)]
  | constructed free offPath found below others belowHypothesis othersHypothesis =>
      refine resolveEach_cons_of_ok ?_ (othersHypothesis (le_of_max_le_right room))
      have roomBelow := le_of_max_le_left room
      obtain ⟨lower, rfl⟩ :=
        Nat.exists_eq_add_of_le' (Nat.le_trans (Nat.le_add_left 1 _) roomBelow)
      simp only [resolveNeed, free, offPath, if_false, found,
        belowHypothesis (Nat.le_of_succ_le_succ roomBelow)]

/-- A run never fails for want of a limit. -/
theorem Runs.settled
    (runs : Runs setting root levels path needs memory answer later) :
    Settled answer := by
  induction runs with
  | done =>
      exact fun chain isDeep => nomatch isDeep
  | @supplied path stated rest memory last hoist levels answer given others inductionHypothesis =>
      cases answer with
      | ok trees =>
          exact fun chain isDeep => nomatch isDeep
      | error failure =>
          exact inductionHypothesis
  | cycle free onPath =>
      exact fun chain isDeep => nomatch isDeep
  | unresolved free offPath failed =>
      exact fun chain isDeep => nomatch isDeep
  | failedBelow free offPath found below inductionHypothesis =>
      exact fun chain isDeep =>
        inductionHypothesis chain (congrArg Except.error (Except.error.inj isDeep))
  | @constructed path stated rest memory middle later last recipe children levels more answer
      free offPath found below others belowHypothesis othersHypothesis =>
      cases answer with
      | ok trees =>
          exact fun chain isDeep => nomatch isDeep
      | error failure =>
          exact othersHypothesis

end Limit

section Levels

variable {setting : Setting} {goal : Goal} {met : Need → Prop}
  {accepts : String → Recipe → Prop} {root : String} {identities : List String}

/-- A run knows accepted recipes only, if it starts with such and with met needs. -/
theorem Runs.knowsOnly
    (vouches : setting.Vouches goal met accepts)
    {levels : Nat}
    {path : List String}
    {needs : List Need}
    {memory later : Memory}
    {answer : Except ResolutionError (List Tree)}
    (runs : Runs setting root levels path needs memory answer later)
    (meets : ∀ stated ∈ needs, met (setting.substitutions.apply stated))
    (knows : memory.KnowsOnly accepts) :
    later.KnowsOnly accepts := by
  induction runs with
  | done =>
      exact knows
  | supplied given others inductionHypothesis =>
      exact inductionHypothesis (List.forall_mem_of_forall_mem_cons meets) knows
  | cycle free onPath =>
      exact knows
  | unresolved free offPath failed =>
      have after := knows.recipeFor vouches (meets _ List.mem_cons_self)
      rw [failed] at after
      exact after
  | failedBelow free offPath found below inductionHypothesis =>
      have meetsFirst := meets _ List.mem_cons_self
      have after := knows.recipeFor vouches meetsFirst
      rw [found] at after
      exact inductionHypothesis (vouches.met_of_recipeFor meetsFirst knows found) after
  | constructed free offPath found below others belowHypothesis othersHypothesis =>
      have meetsFirst := meets _ List.mem_cons_self
      have after := knows.recipeFor vouches meetsFirst
      rw [found] at after
      exact othersHypothesis (List.forall_mem_of_forall_mem_cons meets)
        (belowHypothesis (vouches.met_of_recipeFor meetsFirst knows found) after)

/-- A path that is extended by an identity that is not on it repeats no identity. -/
theorem nodup_path_append
    {path : List String}
    (distinct : path.Nodup)
    {identity : String}
    (offPath : identity ∉ path) :
    (path ++ [identity]).Nodup :=
  List.nodup_append_comm.mp (List.nodup_cons.mpr ⟨offPath, distinct⟩)

/--
A run nests at most one call more than there are identities that are not yet on the path.

The identities of met needs are among the given ones, and so is the path, which
repeats none of them.
-/
theorem Runs.levels_add_length_le
    (vouches : setting.Vouches goal met accepts)
    (inside : ∀ need, met need → need.identity ∈ identities)
    {levels : Nat}
    {path : List String}
    {needs : List Need}
    {memory later : Memory}
    {answer : Except ResolutionError (List Tree)}
    (runs : Runs setting root levels path needs memory answer later)
    (distinct : path.Nodup)
    (contained : path ⊆ identities)
    (meets : ∀ stated ∈ needs, met (setting.substitutions.apply stated))
    (knows : memory.KnowsOnly accepts) :
    levels + path.length ≤ identities.length + 1 := by
  induction runs with
  | done =>
      have bound := (distinct.subperm contained).length_le
      omega
  | supplied given others inductionHypothesis =>
      have bound := (distinct.subperm contained).length_le
      have boundOthers :=
        inductionHypothesis distinct contained (List.forall_mem_of_forall_mem_cons meets) knows
      omega
  | cycle free onPath =>
      have bound := (distinct.subperm contained).length_le
      omega
  | unresolved free offPath failed =>
      have bound := (distinct.subperm contained).length_le
      omega
  | failedBelow free offPath found below inductionHypothesis =>
      have meetsFirst := meets _ List.mem_cons_self
      have after := knows.recipeFor vouches meetsFirst
      rw [found] at after
      have boundBelow :=
        inductionHypothesis (nodup_path_append distinct offPath)
          (List.append_subset.mpr
            ⟨contained, List.cons_subset.mpr ⟨inside _ meetsFirst, List.nil_subset _⟩⟩)
          (vouches.met_of_recipeFor meetsFirst knows found) after
      rw [List.length_append, List.length_singleton] at boundBelow
      omega
  | constructed free offPath found below others belowHypothesis othersHypothesis =>
      have meetsFirst := meets _ List.mem_cons_self
      have meetsRest := List.forall_mem_of_forall_mem_cons meets
      have meetsBelow := vouches.met_of_recipeFor meetsFirst knows found
      have after := knows.recipeFor vouches meetsFirst
      rw [found] at after
      have boundBelow :=
        belowHypothesis (nodup_path_append distinct offPath)
          (List.append_subset.mpr
            ⟨contained, List.cons_subset.mpr ⟨inside _ meetsFirst, List.nil_subset _⟩⟩)
          meetsBelow after
      have boundOthers :=
        othersHypothesis distinct contained meetsRest (below.knowsOnly vouches meetsBelow after)
      rw [List.length_append, List.length_singleton] at boundBelow
      omega

/--
Met needs have a run, whatever the recipes lead to.

With every call one more identity is on the path, and there are only so many.
-/
theorem exists_runs
    (vouches : setting.Vouches goal met accepts)
    (inside : ∀ need, met need → need.identity ∈ identities)
    (room : Nat)
    {path : List String}
    (enough : identities.length < path.length + room)
    (distinct : path.Nodup)
    (contained : path ⊆ identities)
    {needs : List Need}
    (meets : ∀ stated ∈ needs, met (setting.substitutions.apply stated))
    {memory : Memory}
    (knows : memory.KnowsOnly accepts) :
    ∃ levels answer later, Runs setting root levels path needs memory answer later := by
  induction room generalizing path needs memory with
  | zero =>
      have bound := (distinct.subperm contained).length_le
      omega
  | succ room deeper =>
      induction needs generalizing memory with
      | nil =>
          exact ⟨0, .ok [], memory, .done⟩
      | cons stated rest others =>
          have meetsFirst := meets stated List.mem_cons_self
          have meetsRest := List.forall_mem_of_forall_mem_cons meets
          cases free :
              setting.supplied.get? (setting.substitutions.apply stated).identity with
          | some hoist =>
              obtain ⟨levels, answer, last, runs⟩ := others meetsRest knows
              exact ⟨_, _, last, .supplied free runs⟩
          | none =>
              by_cases onPath : (setting.substitutions.apply stated).identity ∈ path
              · exact ⟨_, _, memory, .cycle free onPath⟩
              · have after := knows.recipeFor vouches meetsFirst
                cases looked :
                    recipeFor setting (setting.substitutions.apply stated) memory with
                | mk result middle =>
                    rw [looked] at after
                    cases result with
                    | error cause =>
                        exact ⟨_, _, middle, .unresolved free onPath looked⟩
                    | ok recipe =>
                        have meetsBelow := vouches.met_of_recipeFor meetsFirst knows looked
                        obtain ⟨levels, answer, later, below⟩ :=
                          deeper
                            (by
                              rw [List.length_append, List.length_singleton]
                              omega)
                            (nodup_path_append distinct onPath)
                            (List.append_subset.mpr
                              ⟨contained, List.cons_subset.mpr ⟨inside _ meetsFirst, List.nil_subset _⟩⟩)
                            meetsBelow after
                        cases answer with
                        | error failure =>
                            exact ⟨_, _, later, .failedBelow free onPath looked below⟩
                        | ok children =>
                            obtain ⟨more, answer, last, runs⟩ :=
                              others meetsRest (below.knowsOnly vouches meetsBelow after)
                            exact ⟨_, _, last, .constructed free onPath looked below runs⟩

end Levels

section Mentioned

variable {catalog : Catalog} {substitutions : Substitutions} {identities : List String}
  {view : Need → List String}

/-- The recipe for a need speaks of what the catalog mentions, or of the listed fields. -/
theorem mentioned_of_recipe
    (complete : catalog.Complete)
    (catalogued : catalog.mentioned ⊆ identities)
    {need : Need}
    (listed : need.fieldIdentities ⊆ identities)
    {recipe : Recipe}
    (found : need.recipe catalog.lookup = .ok recipe) :
    recipe.mentioned ⊆ identities := by
  cases need with
  | named type =>
      simp only [Need.recipe] at found
      split at found
      · cases found
        exact List.nil_subset _
      · exact List.Subset.trans (complete type recipe found) catalogued
  | record record =>
      cases found
      intro identity member
      obtain ⟨need, needed, mentions⟩ := List.mem_flatMap.mp member
      obtain ⟨field, isField, rfl⟩ := List.mem_map.mp needed
      obtain rfl := List.mem_singleton.mp mentions
      exact listed (List.mem_map_of_mem isField)
  | error =>
      cases found
      exact List.nil_subset _

/-- What resolution can meet is said by the results, the replacements, the catalog or the memory. -/
theorem mem_reachable_iff
    {goal : Goal}
    {memory : Memory}
    {identity : String} :
    identity ∈ reachable catalog substitutions goal memory ↔
      (∃ stated ∈ goal.results, identity ∈ stated.mentioned) ∨
        (∃ entry ∈ substitutions.entries, identity ∈ entry.2.mentioned) ∨
        identity ∈ catalog.mentioned ∨
        ∃ entry ∈ memory.known.entries, identity ∈ entry.2.mentioned := by
  simp only [reachable, List.mem_eraseDups, List.mem_append, List.mem_flatMap, or_assoc]

/--
Over a complete catalog, needs lead to needs that speak of the same identities only, if
all that some goal can reach is among them.

Of the results that are resolved, maybe those of another goal, it has to be known what
`view` shows of them, which are their listed fields at least.
-/
theorem vouches_of_complete
    (complete : catalog.Complete)
    (supplied : Supplied)
    {goal : Goal}
    {memory : Memory}
    (within : reachable catalog substitutions goal memory ⊆ identities)
    (shows : ∀ need, need.fieldIdentities ⊆ view need)
    (shown : ∀ need, view need ⊆ need.mentioned)
    {other : Goal}
    (results : ∀ stated ∈ other.results, view stated ⊆ identities) :
    (catalog.setting substitutions supplied).Vouches other
      (fun need => view need ⊆ identities)
      (fun _ recipe => recipe.mentioned ⊆ identities) := by
  have catalogued : catalog.mentioned ⊆ identities :=
    fun _ member => within (mem_reachable_iff.mpr (.inr (.inr (.inl member))))
  have applied :
      ∀ stated,
        view stated ⊆ identities →
        view (substitutions.apply stated) ⊆ identities := by
    intro stated inside
    unfold Substitutions.apply
    cases found : substitutions.get? stated.identity with
    | none =>
        exact inside
    | some replacement =>
        intro identity member
        exact within
          (mem_reachable_iff.mpr
            (.inr (.inl ⟨_, Entries.mem_of_get? found, shown replacement member⟩)))
  exact {
    answered := fun need recipe inside found =>
      mentioned_of_recipe complete catalogued (List.Subset.trans (shows need) inside) found
    needed := fun _ recipe inside stated member =>
      applied stated fun identity visible =>
        inside (List.mem_flatMap.mpr ⟨stated, member, shown stated visible⟩)
    requested := fun stated member => applied stated (results stated member) }

/-- The needs of a goal speak of what the goal can reach. -/
theorem vouches_of_reachable
    (complete : catalog.Complete)
    (supplied : Supplied)
    {goal : Goal}
    {memory : Memory}
    (within : reachable catalog substitutions goal memory ⊆ identities) :
    (catalog.setting substitutions supplied).Vouches goal
      (fun need => need.mentioned ⊆ identities)
      (fun _ recipe => recipe.mentioned ⊆ identities) :=
  vouches_of_complete complete supplied within
    Need.fieldIdentities_subset_mentioned
    (fun _ => List.Subset.refl _)
    (fun stated listed _ member =>
      within (mem_reachable_iff.mpr (.inl ⟨stated, listed, member⟩)))

end Mentioned

/--
The identities that are mentioned by a goal, the replacements and the catalog, and those
of the fields that earlier goals have listed, each once.
-/
def mentionedSoFar
    (catalog : Catalog)
    (substitutions : Substitutions)
    (earlier : List Goal)
    (goal : Goal) :
    List String :=
  (reachable catalog substitutions goal Memory.empty
    ++ earlier.flatMap (fun before => before.results.flatMap Need.fieldIdentities)).eraseDups

/--
Resolving a goal returns, whatever the resolver was used for before.

There is a run without a limit. Every such run nests at most one call more than there
are mentioned identities, the resolver returns what the run does, and it does not say
that its own limit is exceeded.
-/
structure ReturnsWithinMentioned
    (catalog : Catalog)
    (substitutions : Substitutions)
    (supplied : Supplied)
    (earlier : List (Nat × Goal))
    (goal : Goal) : Prop where
  returns :
    ∃ levels answer later,
      Runs (catalog.setting substitutions supplied) goal.identity
        levels [] goal.results
        (Memory.after (catalog.setting substitutions supplied) earlier)
        answer later
  bounded :
    ∀ levels answer later,
      Runs (catalog.setting substitutions supplied) goal.identity
        levels [] goal.results
        (Memory.after (catalog.setting substitutions supplied) earlier)
        answer later →
      levels ≤
          (mentionedSoFar catalog substitutions (earlier.map Prod.snd) goal).length + 1 ∧
        resolve catalog substitutions supplied goal
            (Memory.after (catalog.setting substitutions supplied) earlier) =
          (answer.map (rootNode goal), later)
  settled :
    Settled
      (resolve catalog substitutions supplied goal
        (Memory.after (catalog.setting substitutions supplied) earlier)).1

section Returning

variable {catalog : Catalog} {substitutions : Substitutions} {supplied : Supplied}
  {earlier : List (Nat × Goal)} {goal : Goal}

/-- What a goal can reach at first is mentioned. -/
theorem reachable_subset_mentionedSoFar
    (catalog : Catalog)
    (substitutions : Substitutions)
    (earlier : List Goal)
    (goal : Goal) :
    reachable catalog substitutions goal Memory.empty ⊆
      mentionedSoFar catalog substitutions earlier goal := by
  intro identity member
  rw [mentionedSoFar, List.mem_eraseDups]
  exact List.mem_append_left _ member

/-- After earlier goals only recipes are known that speak of mentioned identities. -/
theorem after_knowsOnly_mentionedSoFar
    (complete : catalog.Complete) :
    (Memory.after (catalog.setting substitutions supplied) earlier).KnowsOnly
      (fun _ recipe =>
        recipe.mentioned ⊆
          mentionedSoFar catalog substitutions (earlier.map Prod.snd) goal) := by
  have within :=
    reachable_subset_mentionedSoFar catalog substitutions (earlier.map Prod.snd) goal
  refine
    Memory.after_knowsOnly fun run member =>
      vouches_of_complete complete supplied within (fun need => List.Subset.refl need.fieldIdentities)
        Need.fieldIdentities_subset_mentioned ?_
  intro stated isResult identity isListed
  rw [mentionedSoFar, List.mem_eraseDups]
  exact List.mem_append_right _
    (List.mem_flatMap.mpr
      ⟨run.2, List.mem_map_of_mem member, List.mem_flatMap.mpr ⟨stated, isResult, isListed⟩⟩)

/-- The limit that a resolver computes leaves room for every run. -/
theorem Runs.levels_le_depthLimit
    (complete : catalog.Complete)
    {memory later : Memory}
    {levels : Nat}
    {answer : Except ResolutionError (List Tree)}
    (runs :
      Runs (catalog.setting substitutions supplied) goal.identity levels []
        goal.results memory answer later) :
    levels ≤ depthLimit catalog substitutions goal memory := by
  have vouches :=
    vouches_of_reachable complete supplied
      (List.Subset.refl (reachable catalog substitutions goal memory))
  refine
    runs.levels_add_length_le vouches (fun need inside => inside need.identity_mem_mentioned)
      List.nodup_nil (List.nil_subset _) vouches.requested ?_
  intro identity recipe known other mentions
  exact mem_reachable_iff.mpr
    (.inr (.inr (.inr ⟨_, Entries.mem_of_get? known, mentions⟩)))

/-- Over a complete catalog every goal returns. -/
theorem returnsWithinMentioned_of_complete
    (complete : catalog.Complete) :
    ReturnsWithinMentioned catalog substitutions supplied earlier goal := by
  have vouches :=
    vouches_of_reachable complete supplied
      (reachable_subset_mentionedSoFar catalog substitutions (earlier.map Prod.snd) goal)
  have inside :
      ∀ need : Need,
        need.mentioned ⊆
          mentionedSoFar catalog substitutions (earlier.map Prod.snd) goal →
        need.identity ∈ mentionedSoFar catalog substitutions (earlier.map Prod.snd) goal :=
    fun need speaks => speaks need.identity_mem_mentioned
  have knows :
      (Memory.after (catalog.setting substitutions supplied) earlier).KnowsOnly
        (fun _ recipe =>
          recipe.mentioned ⊆
            mentionedSoFar catalog substitutions (earlier.map Prod.snd) goal) :=
    after_knowsOnly_mentionedSoFar complete
  have resolves :
      ∀ levels answer later,
        Runs (catalog.setting substitutions supplied) goal.identity
          levels [] goal.results
          (Memory.after (catalog.setting substitutions supplied) earlier)
          answer later →
        resolve catalog substitutions supplied goal
            (Memory.after (catalog.setting substitutions supplied) earlier) =
          (answer.map (rootNode goal), later) := by
    intro levels answer later runs
    have sameEach := runs.resolveEach_eq (runs.levels_le_depthLimit complete)
    simp only [resolve, resolveWithin, sameEach]
    cases answer <;> rfl
  have returns :
      ∃ levels answer later,
        Runs (catalog.setting substitutions supplied) goal.identity
          levels [] goal.results
          (Memory.after (catalog.setting substitutions supplied) earlier)
          answer later := by
    refine
      exists_runs vouches inside
        ((mentionedSoFar catalog substitutions (earlier.map Prod.snd) goal).length + 1)
        ?_ List.nodup_nil (List.nil_subset _) vouches.requested knows
    rw [List.length_nil, Nat.zero_add]
    exact Nat.lt_succ_self _
  refine ⟨returns, fun levels answer later runs => ⟨?_, resolves levels answer later runs⟩, ?_⟩
  · exact
      runs.levels_add_length_le vouches inside List.nodup_nil (List.nil_subset _)
        vouches.requested knows
  · obtain ⟨levels, answer, later, runs⟩ := returns
    rw [resolves levels answer later runs]
    cases answer with
    | ok trees =>
        intro chain isDeep
        cases isDeep
    | error failure =>
        exact fun chain isDeep =>
          runs.settled chain (congrArg Except.error (Except.error.inj isDeep))

end Returning

/--
Resolving a goal returns over packages as over a table, however their declarations refer
to each other.

The resolver may have served any goals before, with or without success. What these have
looked up is mentioned by the catalog, and only the fields that they have listed
themselves add to the identities to be met.
-/
theorem returns_within_mentioned
    (substitutions : Substitutions)
    (supplied : Supplied)
    (earlier : List (Nat × Goal))
    (goal : Goal) :
    (∀ search : PackageSearch,
      ReturnsWithinMentioned search.catalog substitutions supplied earlier goal) ∧
    ∀ table : LookupTable,
      ReturnsWithinMentioned table.catalog substitutions supplied earlier goal :=
  ⟨fun search => returnsWithinMentioned_of_complete search.catalog_complete,
    fun table => returnsWithinMentioned_of_complete table.catalog_complete⟩

namespace Ladder

/-- A record of the package `p` with one field, which has the type of its name. -/
def record (name field : String) : Need :=
  .record (Record.ofFields (Diamond.named name) [{ name := field, type := Diamond.named field }])

/-- No type has a row. -/
def table : LookupTable :=
  Keyed.empty

/-- The caller computes `D`. -/
def setting : Setting :=
  table.catalog.setting Keyed.empty
    (Supplied.add Keyed.empty (.named (Diamond.named "D")) false)

/-- A function that fills in records, each from the one before. -/
def first : Goal where
  importPath := "p"
  name := "Prepare"
  package := "p"
  results := [record "C" "D", record "B" "C", record "A" "B"]

/-- The calls for `A`, `B`, `C` and `D` are nested, although the goal mentions `A` only. -/
theorem runs :
    ∃ answer later,
      Runs setting Diamond.goal.identity 4 [] Diamond.goal.results
        (Memory.after setting [(4, first)]) answer later := by
  have nested :
      ∃ answer later,
        Runs setting Diamond.goal.identity
          (max (max (max (max 1 0 + 1) 0 + 1) 0 + 1) 0) [] Diamond.goal.results
          (Memory.after setting [(4, first)]) answer later :=
    ⟨_, _,
      .constructed rfl (by decide) rfl
        (.constructed rfl (by decide) rfl
          (.constructed rfl (by decide) rfl (.supplied rfl .done) .done)
          .done)
        .done⟩
  exact nested

end Ladder

/--
The identities that a goal, the replacements and the catalog mention do not bound the
calls, if earlier goals have listed fields.
-/
theorem runs_deeper_than_mentioned :
    (∃ root, (resolveWithin 4 Ladder.setting Ladder.first Memory.empty).1 = .ok root) ∧
      reachable Ladder.table.catalog Keyed.empty Diamond.goal Memory.empty = ["\"p\".A"] ∧
      ¬ ∀ levels answer later,
          Runs Ladder.setting Diamond.goal.identity levels [] Diamond.goal.results
            (Memory.after Ladder.setting [(4, Ladder.first)]) answer later →
          levels ≤
            (reachable Ladder.table.catalog Keyed.empty Diamond.goal Memory.empty).length + 1 := by
  have mentioned :
      reachable Ladder.table.catalog Keyed.empty Diamond.goal Memory.empty = ["\"p\".A"] := by
    decide
  refine ⟨⟨_, rfl⟩, mentioned, fun bounded => ?_⟩
  obtain ⟨answer, later, nested⟩ := Ladder.runs
  have bound := bounded 4 answer later nested
  rw [mentioned] at bound
  exact absurd bound (by decide)

end Resolution

end Wiring
