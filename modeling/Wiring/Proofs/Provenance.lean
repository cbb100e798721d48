import Wiring.Proofs.Coherence

namespace Wiring

/-!
# Where known recipes come from

Every recipe that a run knows was answered for a need that the run came to. What
every such answer fulfils, every known recipe fulfils, and so does the recipe of
every node that the layout can come to. The needs themselves are results,
replacements, and needs of known recipes, and what all of these fulfil is known
of the need behind every node.
-/

/-- What is found in a collection was put in for some item of this key. -/
theorem Keyed.exists_of_get?_foldl_insert
    {α β : Type}
    (key : α → String)
    (content : α → β)
    {items : List α}
    {identity : String}
    {found : β}
    (isFound :
      (items.foldl (fun keyed item => keyed.insert (key item) (content item))
          Keyed.empty).get? identity = some found) :
    ∃ item ∈ items, key item = identity ∧ content item = found := by
  refine
    List.foldlRecOn (motive := fun keyed : Keyed β =>
        ∀ found,
          keyed.get? identity = some found →
          ∃ item ∈ items, key item = identity ∧ content item = found)
      (b := Keyed.empty) items (fun keyed item => keyed.insert (key item) (content item))
      ?empty ?insert found isFound
  case empty =>
    intro found isFound
    simp at isFound
  case insert =>
    intro keyed kept item member found isFound
    rw [Keyed.get?_insert] at isFound
    split at isFound
    · rename_i same
      exact ⟨item, member, same, Option.some.inj isFound⟩
    · exact kept found isFound

/-- What replaces an identity is listed as the replacement of a need of this identity. -/
theorem Substitutions.exists_of_get?_ofPairs
    {pairs : List (Need × Need)}
    {identity : String}
    {need : Need}
    (found : (ofPairs pairs).get? identity = some need) :
    ∃ pair ∈ pairs, pair.1.identity = identity ∧ pair.2 = need :=
  Keyed.exists_of_get?_foldl_insert (fun pair : Need × Need => pair.1.identity) Prod.snd found

/-- The mark of a supplied identity is listed with a need of this identity. -/
theorem Supplied.exists_of_get?_ofPairs
    {pairs : List (Need × Bool)}
    {identity : String}
    {hoist : Bool}
    (found : (ofPairs pairs).get? identity = some hoist) :
    ∃ pair ∈ pairs, pair.1.identity = identity ∧ pair.2 = hoist :=
  Keyed.exists_of_get?_foldl_insert (fun pair : Need × Bool => pair.1.identity) Prod.snd found

namespace Resolution

/-- Every known recipe is accepted for the identity that it is known under. -/
def Memory.KnowsOnly
    (accepts : String → Recipe → Prop)
    (memory : Memory) : Prop :=
  ∀ identity recipe, memory.known.get? identity = some recipe → accepts identity recipe

/--
Every need that can be come to is met, and every answer to a met need is accepted.

The needs of an accepted recipe are met again, after substitution.
-/
structure Setting.Vouches
    (setting : Setting)
    (goal : Goal)
    (met : Need → Prop)
    (accepts : String → Recipe → Prop) : Prop where
  answered :
    ∀ need recipe,
      met need →
      need.recipe setting.lookup = .ok recipe →
      accepts need.identity recipe
  needed :
    ∀ identity recipe,
      accepts identity recipe →
      ∀ stated ∈ recipe.needs, met (setting.substitutions.apply stated)
  requested :
    ∀ stated ∈ goal.results, met (setting.substitutions.apply stated)

section Vouching

variable {setting : Setting} {goal : Goal} {met : Need → Prop}
  {accepts : String → Recipe → Prop}

/-- Nothing is known at first. -/
theorem Memory.empty_knowsOnly :
    Memory.empty.KnowsOnly accepts := by
  simp [KnowsOnly, Memory.empty]

/-- Looking up a met need adds an accepted recipe at most. -/
theorem Memory.KnowsOnly.recipeFor
    (vouches : setting.Vouches goal met accepts)
    {need : Need}
    (meets : met need)
    {memory : Memory}
    (knows : memory.KnowsOnly accepts) :
    (recipeFor setting need memory).2.KnowsOnly accepts := by
  rcases recipeFor_cases setting need memory with
    ⟨recipe, remembered, result⟩ | ⟨cause, absent, failed, result⟩ |
    ⟨recipe, absent, found, result⟩ <;>
  simp only [result]
  · exact knows
  · exact knows
  · intro identity known remembered
    rw [Keyed.get?_insert] at remembered
    split at remembered
    · rename_i same
      cases remembered
      exact same ▸ vouches.answered need recipe meets found
    · exact knows identity known remembered

/-- The needs of the recipe for a met need are met. -/
theorem Setting.Vouches.met_of_recipeFor
    (vouches : setting.Vouches goal met accepts)
    {need : Need}
    (meets : met need)
    {memory later : Memory}
    (knows : memory.KnowsOnly accepts)
    {recipe : Recipe}
    (found : recipeFor setting need memory = (.ok recipe, later)) :
    ∀ stated ∈ recipe.needs, met (setting.substitutions.apply stated) := by
  have knowsLater := knows.recipeFor vouches meets
  rw [found] at knowsLater
  exact vouches.needed need.identity recipe (knowsLater _ _ (recipeFor_remembers found))

/-- A run knows accepted recipes only, if it starts with such. -/
theorem Memory.KnowsOnly.resolveWithin
    (vouches : setting.Vouches goal met accepts)
    (limit : Nat)
    {memory : Memory}
    (knows : memory.KnowsOnly accepts) :
    (resolveWithin limit setting goal memory).2.KnowsOnly accepts :=
  resolveWithin_preserves
    (Memory.KnowsOnly accepts)
    met
    (fun _ _ meets _ kept => kept.recipeFor vouches meets)
    (fun _ _ _ _ meets _ kept found => vouches.met_of_recipeFor meets kept found)
    limit vouches.requested knows

/-- After some runs that come to met needs only, accepted recipes are known and no others. -/
theorem Memory.after_knowsOnly
    {earlier : List (Nat × Goal)}
    (vouches : ∀ run ∈ earlier, setting.Vouches run.2 met accepts) :
    (Memory.after setting earlier).KnowsOnly accepts :=
  Memory.after_induct
    (Memory.KnowsOnly accepts)
    earlier Memory.empty_knowsOnly
    (fun run member _ knows => knows.resolveWithin (vouches run member) run.1)

end Vouching

/-- A node has the type that is wanted for a stated need, up to its shape. -/
def StandsFor
    (setting : Setting)
    (stated : Need)
    (node : Tree) : Prop :=
  node.type = (setting.substitutions.apply stated).wanted.withKind node.type.kind

/--
What is known of a node that the layout of a resolved tree can come to.

It stands for a met need. Its recipe, if it has one, is accepted, and its children
stand for what the recipe needs.
-/
structure VouchedFor
    (setting : Setting)
    (met : Need → Prop)
    (accepts : String → Recipe → Prop)
    (node : Tree) : Prop where
  need : ∃ stated, met (setting.substitutions.apply stated) ∧ StandsFor setting stated node
  recipe :
    ∀ recipe,
      node.origin = .recipe recipe →
      accepts node.identity recipe ∧
        List.Forall₂ (StandsFor setting) recipe.needs node.children

section Derived

variable {setting : Setting} {known : Keyed Recipe} {met : Need → Prop}
  {accepts : String → Recipe → Prop}

/-- Promotion changes no type. -/
theorem StandsFor.promote
    {stated : Need}
    {node : Tree}
    (stands : StandsFor setting stated node) :
    StandsFor setting stated node.promote := by
  simpa [StandsFor] using stands

/-- A derived node stands for its need. -/
theorem Resolves.standsFor
    {stated : Need}
    {node : Tree}
    (resolves : Resolves setting known stated node) :
    StandsFor setting stated node := by
  cases resolves with
  | supplied given =>
      rfl
  | constructed free remembered arity each =>
      simp only [StandsFor, Tree.type_node, nodeType]
      split <;> rfl

/-- The nodes of a list that is derived from some needs stand for them. -/
theorem ResolvesEach.standFor
    {needs : List Need}
    {nodes : List Tree}
    (resolves : ResolvesEach setting known needs nodes) :
    List.Forall₂ (StandsFor setting) needs nodes :=
  resolves.imp (fun _ _ derived => derived.standsFor)

/-- A node is derived from a met need if its tree is and the needs of known recipes are met. -/
theorem Resolves.exists_met
    (needed :
      ∀ identity recipe,
        known.get? identity = some recipe →
        ∀ stated ∈ recipe.needs, met (setting.substitutions.apply stated))
    {tree node : Tree}
    (exposes : tree.Exposes node)
    {stated : Need}
    (meets : met (setting.substitutions.apply stated))
    (resolves : Resolves setting known stated tree) :
    ∃ below, met (setting.substitutions.apply below) ∧ Resolves setting known below node := by
  induction exposes generalizing stated with
  | self tree =>
      exact ⟨stated, meets, resolves⟩
  | under constructed member exposes inductionHypothesis =>
      rcases resolves.origin_cases with
        ⟨isCaller, leaf⟩ | ⟨recipe, isRecipe, unmarked, remembered, each⟩
      · simp [leaf] at member
      · obtain ⟨below, listed, childResolves⟩ := each.exists_of_mem_right member
        exact inductionHypothesis (needed _ recipe remembered below listed) childResolves

/-- A derived node is vouched for if its need is met and known recipes are accepted. -/
theorem Resolves.vouched
    (accepted :
      ∀ identity recipe, known.get? identity = some recipe → accepts identity recipe)
    {stated : Need}
    (meets : met (setting.substitutions.apply stated))
    {node : Tree}
    (resolves : Resolves setting known stated node) :
    VouchedFor setting met accepts node where
  need := ⟨stated, meets, resolves.standsFor⟩
  recipe := by
    intro recipe isRecipe
    obtain ⟨remembered, each⟩ := resolves.recipe_known isRecipe
    exact ⟨accepted _ recipe remembered, ResolvesEach.standFor each⟩

/-- Hoisting changes nothing that a node is vouched for. -/
theorem HoistedFrom.vouched
    {root source node : Tree}
    (hoistedFrom : HoistedFrom setting known root source node)
    (vouched : VouchedFor setting met accepts source) :
    VouchedFor setting met accepts node where
  need := by
    obtain ⟨stated, meets, stands⟩ := vouched.need
    refine ⟨stated, meets, ?_⟩
    rcases hoistedFrom.shape with ⟨isResult, rfl⟩ | rfl
    · simpa [StandsFor] using stands
    · exact stands.promote
  recipe := by
    intro recipe isRecipe
    obtain ⟨accepted, each⟩ := vouched.recipe recipe (hoistedFrom.origin.symm.trans isRecipe)
    rw [hoistedFrom.identity, hoistedFrom.children]
    exact ⟨accepted,
      List.forall₂_map_right_iff.mpr (each.imp fun _ _ stands => stands.promote)⟩

end Derived

/-- Below the root, every recipe of a resolved tree is accepted for the identity of its node. -/
theorem accepted_of_mem_nodes
    {setting : Setting}
    {goal : Goal}
    {met : Need → Prop}
    {accepts : String → Recipe → Prop}
    (vouches : setting.Vouches goal met accepts)
    {memory : Memory}
    (knows : memory.KnowsOnly accepts)
    {limit : Nat}
    {root : Tree}
    (resolved : (resolveWithin limit setting goal memory).1 = .ok root)
    {node : Tree}
    (member : node ∈ root.nodes)
    {recipe : Recipe}
    (isRecipe : node.origin = .recipe recipe) :
    recipe = .goal goal ∨ accepts node.identity recipe := by
  obtain ⟨children, rfl, resolves⟩ := resolveWithin_resolves resolved
  rw [Tree.nodes_eq] at member
  rcases List.mem_cons.mp member with rfl | isBelow
  · cases isRecipe
    exact .inl rfl
  · obtain ⟨stated, nodeResolves⟩ := ResolvesEach.of_mem_nodes resolves isBelow
    exact .inr (knows.resolveWithin vouches limit _ recipe (nodeResolves.recipe_known isRecipe).1)

/-- Every node that the layout of a resolved tree can come to is vouched for. -/
theorem vouched_of_resolveWithin
    {setting : Setting}
    {goal : Goal}
    {met : Need → Prop}
    {accepts : String → Recipe → Prop}
    (vouches : setting.Vouches goal met accepts)
    {memory : Memory}
    (knows : memory.KnowsOnly accepts)
    {limit : Nat}
    {root : Tree}
    (resolved : (resolveWithin limit setting goal memory).1 = .ok root)
    {tree : Tree}
    (prepared : tree = root ∨ tree = root.hoisted) :
    List.Forall₂ (StandsFor setting) goal.results tree.children ∧
      ∀ node, tree.Exposed node → VouchedFor setting met accepts node := by
  obtain ⟨children, rfl, resolves⟩ := resolveWithin_resolves resolved
  have accepted := knows.resolveWithin vouches limit
  generalize (resolveWithin limit setting goal memory).2 = later at resolves accepted
  have derived :
      ResolvesEach setting later.known goal.results (rootNode goal children).children :=
    resolves
  have plain :
      ∀ node,
        (rootNode goal children).Exposed node → VouchedFor setting met accepts node := by
    rintro node ⟨child, member, exposes⟩
    obtain ⟨stated, listed, childResolves⟩ := derived.exists_of_mem_right member
    obtain ⟨below, meets, nodeResolves⟩ :=
      childResolves.exists_met
        (fun identity recipe remembered =>
          vouches.needed identity recipe (accepted identity recipe remembered))
        exposes (vouches.requested stated listed)
    exact nodeResolves.vouched accepted meets
  rcases prepared with rfl | rfl
  · exact ⟨ResolvesEach.standFor derived, plain⟩
  · refine ⟨?_, ?_⟩
    · rw [Tree.children_hoisted, List.forall₂_map_right_iff]
      exact (ResolvesEach.standFor derived).imp
        (fun _ child stands => by simpa [StandsFor] using stands)
    · intro node exposed
      obtain ⟨source, hoistedFrom⟩ := exists_hoistedFrom derived exposed
      exact hoistedFrom.vouched (plain source hoistedFrom.exposed)

end Resolution

end Wiring
