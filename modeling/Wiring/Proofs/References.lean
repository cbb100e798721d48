import Mathlib.Tactic.Tauto
import Wiring.Blueprint.Scope
import Wiring.Proofs.Occurrence

namespace Wiring

/-!
# References are imported

The scan before the layout reads every symbol that an exposed node mentions and
every result type, and uses the packages of all of them. A used package stays
used under its name, so in the scope of a tree each of these symbols can be
written.
-/

/-- The value found under a key is one of the entries. -/
theorem Entries.mem_of_get?
    {key : String}
    {value : α}
    {entries : List (String × α)}
    (found : Entries.get? key entries = some value) :
    (key, value) ∈ entries := by
  induction entries with
  | nil =>
      simp [Entries.get?] at found
  | cons entry rest inductionHypothesis =>
      simp only [Entries.get?] at found
      by_cases same : entry.1 = key
      · rw [if_pos same] at found
        cases found
        rw [← same]
        exact List.mem_cons_self
      · rw [if_neg same] at found
        exact List.mem_cons_of_mem entry (inductionHypothesis found)

/-- The entry with a key, if keys do not repeat, is the one found under it. -/
theorem Entries.get?_of_mem
    {key : String}
    {value : α}
    {entries : List (String × α)}
    (distinct : (entries.map Prod.fst).Nodup)
    (member : (key, value) ∈ entries) :
    Entries.get? key entries = some value := by
  induction entries with
  | nil =>
      simp at member
  | cons entry rest inductionHypothesis =>
      rw [List.map_cons, List.nodup_cons] at distinct
      simp only [Entries.get?]
      rcases List.mem_cons.mp member with isFirst | inRest
      · rw [← isFirst, if_pos rfl]
      · have other : entry.1 ≠ key := by
          intro same
          exact distinct.1 (same ▸ List.mem_map_of_mem inRest)
        rw [if_neg other]
        exact inductionHypothesis distinct.2 inRest

namespace ImportTable

/-- The names of a table are those that it gives to packages. -/
theorem mem_names_iff
    {imports : ImportTable}
    {name : String} :
    name ∈ imports.names ↔ ∃ path, imports.nameOf? path = some name := by
  constructor
  · intro member
    obtain ⟨⟨path, entry⟩, listed, rfl⟩ := List.mem_map.mp member
    refine ⟨path, ?_⟩
    rw [nameOf?, Keyed.get?, Entries.get?_of_mem imports.known.nodup_keys listed]
    rfl
  · rintro ⟨path, known⟩
    obtain ⟨entry, found, rfl⟩ := Option.map_eq_some_iff.mp known
    exact List.mem_map.mpr ⟨(path, entry), Entries.mem_of_get? found, rfl⟩

/-- Using a package gives it a name, unless it has one, and leaves the others alone. -/
theorem get?_known_use
    (imports : ImportTable)
    (path other : String) :
    (imports.use path).known.get? other =
      if path = other then
        some {
          name := (imports.nameOf? path).getD (imports.freshName path)
          used := true }
      else
        imports.known.get? other := by
  unfold use nameOf?
  cases found : imports.known.get? path with
  | some entry =>
      rw [Keyed.get?_insert, Option.map_some, Option.getD_some]
  | none =>
      rw [Keyed.get?_insert, Option.map_none, Option.getD_none]

/-- A used package keeps its name when another package is used. -/
theorem use_keeps_used
    {imports : ImportTable}
    {path name : String}
    (used : imports.known.get? path = some { name, used := true })
    (other : String) :
    (imports.use other).known.get? path = some { name, used := true } := by
  rw [get?_known_use]
  by_cases same : other = path
  · subst same
    simp [nameOf?, used]
  · rw [if_neg same]
    exact used

/-- A used package keeps its name when any packages are used. -/
theorem foldl_use_keeps_used
    {imports : ImportTable}
    {path name : String}
    (used : imports.known.get? path = some { name, used := true })
    (paths : List String) :
    (paths.foldl use imports).known.get? path = some { name, used := true } := by
  induction paths generalizing imports with
  | nil =>
      exact used
  | cons other rest inductionHypothesis =>
      exact inductionHypothesis (use_keeps_used used other)

/-- A package keeps its name when any packages are used. -/
theorem nameOf?_use
    {imports : ImportTable}
    {path name : String}
    (known : imports.nameOf? path = some name)
    (other : String) :
    (imports.use other).nameOf? path = some name := by
  rw [nameOf?, get?_known_use]
  by_cases same : other = path
  · subst same
    simp [known]
  · rw [if_neg same]
    exact known

/-- No name gets lost when packages are used. -/
theorem names_subset_foldl_use
    (imports : ImportTable)
    (paths : List String) :
    imports.names ⊆ (paths.foldl use imports).names := by
  induction paths generalizing imports with
  | nil =>
      exact List.Subset.refl _
  | cons path rest inductionHypothesis =>
      intro name member
      obtain ⟨known, named⟩ := mem_names_iff.mp member
      exact inductionHypothesis (imports.use path)
        (mem_names_iff.mpr ⟨known, nameOf?_use named path⟩)

/-- Reserving names leaves the known packages alone. -/
theorem names_foldl_reserve
    (imports : ImportTable)
    (reserved : List String) :
    (reserved.foldl reserve imports).names = imports.names := by
  induction reserved generalizing imports with
  | nil =>
      rfl
  | cons name rest inductionHypothesis =>
      exact inductionHypothesis (imports.reserve name)

/-- A listed package is listed under one of the names of the table. -/
theorem name_mem_of_listed
    {imports : ImportTable}
    {entry : Import}
    (listed : entry ∈ imports.listed) :
    entry.name ∈ imports.names := by
  rw [ImportTable.listed, (List.mergeSort_perm _ _).mem_iff, List.mem_map] at listed
  obtain ⟨known, member, rfl⟩ := listed
  exact List.mem_map_of_mem (List.mem_filter.mp member).1

/-- A used package is listed under its name. -/
theorem mem_listed
    {imports : ImportTable}
    {path name : String}
    (used : imports.known.get? path = some { name, used := true }) :
    { path, name } ∈ imports.listed := by
  rw [listed, (List.mergeSort_perm _ _).mem_iff, List.mem_map]
  refine ⟨(path, { name, used := true }), ?_, rfl⟩
  rw [List.mem_filter]
  exact ⟨Entries.mem_of_get? used, rfl⟩

/-- Each of some packages is used once all of them are. -/
theorem exists_used_foldl_use
    (imports : ImportTable)
    {paths : List String}
    {path : String}
    (member : path ∈ paths) :
    ∃ name,
      (paths.foldl use imports).known.get? path = some { name, used := true } := by
  induction paths generalizing imports with
  | nil =>
      simp at member
  | cons first rest inductionHypothesis =>
      rcases List.mem_cons.mp member with isFirst | inRest
      · subst isFirst
        have used :
            (imports.use path).known.get? path =
              some {
                name := (imports.nameOf? path).getD (imports.freshName path)
                used := true } := by
          rw [get?_known_use, if_pos rfl]
        exact ⟨_, foldl_use_keeps_used used rest⟩
      · exact inductionHypothesis (imports.use first) inRest

end ImportTable

namespace Tree

/-- The symbols that laying out a node mentions for the node itself. -/
def mentions (node : Tree) : List Reference :=
  if node.isSupplied then
    [node.type.reference]
  else
    match node.origin with
    | .recipe recipe => recipe.references
    | _ => []

/-- What a tree of a list mentions, the list mentions. -/
theorem mem_referencesOfEach
    {trees : List Tree}
    {tree : Tree}
    (member : tree ∈ trees)
    {reference : Reference}
    (mentioned : reference ∈ tree.references) :
    reference ∈ referencesOfEach trees := by
  induction trees with
  | nil =>
      simp at member
  | cons first rest inductionHypothesis =>
      simp only [referencesOfEach, List.mem_append]
      rcases List.mem_cons.mp member with isFirst | inRest
      · subst isFirst
        exact .inl mentioned
      · exact .inr (inductionHypothesis inRest)

/-- A tree mentions what its exposed nodes mention. -/
theorem Exposes.mem_references
    {tree node : Tree}
    (exposed : Exposes tree node)
    {reference : Reference}
    (mentioned : reference ∈ node.mentions) :
    reference ∈ tree.references := by
  induction exposed with
  | self tree =>
      cases tree with
      | node type origin hoist children =>
          unfold mentions at mentioned
          simp only [references]
          by_cases supplied : (Tree.node type origin hoist children).isSupplied = true
          · rw [if_pos supplied] at mentioned ⊢
            exact mentioned
          · rw [if_neg supplied] at mentioned ⊢
            exact List.mem_append_left _ mentioned
  | @under tree child node constructed member exposed inductionHypothesis =>
      cases tree with
      | node type origin hoist children =>
          simp only [references, constructed, Bool.false_eq_true, if_false]
          exact List.mem_append_right _
            (mem_referencesOfEach member (inductionHypothesis mentioned))

end Tree

/-- Removing repetitions removes no member. -/
private theorem mem_eraseRepsBy_loop
    (name kept : String)
    (rest done : List String) :
    name ∈ List.eraseRepsBy.loop (· == ·) kept rest done ↔
      name = kept ∨ name ∈ rest ∨ name ∈ done := by
  induction rest generalizing kept done with
  | nil =>
      simp only [List.eraseRepsBy.loop, List.mem_reverse, List.mem_cons,
        List.not_mem_nil, false_or]
  | cons next rest inductionHypothesis =>
      simp only [List.eraseRepsBy.loop]
      by_cases same : kept = next
      · rw [beq_iff_eq.mpr same, inductionHypothesis, same]
        simp only [List.mem_cons]
        tauto
      · rw [beq_false_of_ne same, inductionHypothesis]
        simp only [List.mem_cons]
        tauto

namespace Scope

/-- Sorting names and removing repetitions keeps every name. -/
theorem mem_sortedOnce
    {name : String}
    {names : List String} :
    name ∈ sortedOnce names ↔ name ∈ names := by
  unfold sortedOnce List.eraseReps
  have sortedPerm := List.mergeSort_perm names (fun left right => decide (left ≤ right))
  rw [← sortedPerm.mem_iff]
  generalize names.mergeSort (fun left right => decide (left ≤ right)) = sorted
  cases sorted with
  | nil =>
      rfl
  | cons first rest =>
      simp only [List.eraseRepsBy, mem_eraseRepsBy_loop, List.mem_cons,
        List.not_mem_nil, or_false]

/-- The imports of a scope have all the names of the enclosing file. -/
theorem names_subset_ofTree
    (goal : Goal)
    (imports : ImportTable)
    (root : Tree) :
    imports.names ⊆ (ofTree goal imports root).imports.names := by
  rw [← ImportTable.names_foldl_reserve imports (localNames goal (mentioned goal root))]
  exact ImportTable.names_subset_foldl_use _ _

/-- The name of the goal is set aside. -/
theorem goal_name_mem_locals
    (goal : Goal)
    (imports : ImportTable)
    (root : Tree) :
    goal.name ∈ (ofTree goal imports root).locals :=
  mem_sortedOnce.mpr List.mem_cons_self

/-- The mentioned symbols of the goal's own package are set aside. -/
theorem name_mem_locals
    {goal : Goal}
    (packaged : goal.importPath ≠ "")
    (imports : ImportTable)
    {root : Tree}
    {reference : Reference}
    (mentions : reference ∈ mentioned goal root)
    (own : reference.importPath = goal.importPath) :
    reference.name ∈ (ofTree goal imports root).locals := by
  apply mem_sortedOnce.mpr
  apply List.mem_cons_of_mem
  apply List.mem_map_of_mem
  rw [List.mem_filter]
  exact ⟨mentions, by simp [own, packaged]⟩

/-- The package of a mentioned symbol is used, unless it needs no import. -/
theorem ofTree_used
    {goal : Goal}
    (imports : ImportTable)
    {root : Tree}
    {reference : Reference}
    (mentions : reference ∈ mentioned goal root)
    (named : reference.importPath ≠ "")
    (foreign : reference.importPath ≠ goal.importPath) :
    ∃ name,
      (ofTree goal imports root).imports.known.get? reference.importPath =
        some { name, used := true } := by
  apply ImportTable.exists_used_foldl_use
  rw [foreignPaths, mem_sortedOnce, List.mem_map]
  refine ⟨reference, ?_, rfl⟩
  rw [List.mem_filter]
  exact ⟨mentions, by simp [named, foreign]⟩

/-- A symbol from the package of a mentioned one can be written. -/
theorem ofTree_symbol
    {goal : Goal}
    (imports : ImportTable)
    {root : Tree}
    {reference : Reference}
    (mentions : reference ∈ mentioned goal root)
    (name : String) :
    ∃ symbol,
      (ofTree goal imports root).symbol reference.importPath name = .ok symbol := by
  by_cases isBare :
      reference.importPath = "" ∨
        reference.importPath = (ofTree goal imports root).goal.importPath
  · exact ⟨_, if_pos isBare⟩
  · rw [symbol, if_neg isBare]
    rw [not_or] at isBare
    obtain ⟨qualifier, used⟩ :=
      ofTree_used imports mentions isBare.1 isBare.2
    simp only [ImportTable.nameOf?, used, Option.map_some]
    exact ⟨_, rfl⟩

/-- The type of a mentioned symbol can be written. -/
theorem ofTree_typeExpr
    {goal : Goal}
    (imports : ImportTable)
    {root : Tree}
    {type : NamedType}
    (mentions : type.reference ∈ mentioned goal root) :
    ∃ expression,
      (ofTree goal imports root).typeExpr type = .ok expression := by
  obtain ⟨symbol, written⟩ :=
    ofTree_symbol imports mentions type.name
  have writtenType :
      (ofTree goal imports root).symbol type.importPath type.name = .ok symbol :=
    written
  rw [typeExpr, writtenType]
  exact ⟨_, rfl⟩

/-- What an exposed node mentions is mentioned by the function. -/
theorem mem_mentioned_of_exposed
    (goal : Goal)
    {root node : Tree}
    (exposed : root.Exposed node)
    {reference : Reference}
    (mentions : reference ∈ node.mentions) :
    reference ∈ mentioned goal root := by
  obtain ⟨child, member, exposes⟩ := exposed
  exact List.mem_append_right _
    (Tree.mem_referencesOfEach member (exposes.mem_references mentions))

/-- The type of a requested result is mentioned by the function. -/
theorem mem_mentioned_of_result
    {goal : Goal}
    (root : Tree)
    {result : Need}
    (member : result ∈ goal.results) :
    result.wanted.reference ∈ mentioned goal root :=
  List.mem_append_left _ (List.mem_map_of_mem member)

end Scope

end Wiring
