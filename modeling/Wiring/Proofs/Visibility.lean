import Wiring.Proofs.LayoutTotal
import Wiring.Proofs.Provenance

namespace Wiring

/-!
# What a generated function reaches for

A job searches packages with the view that its own package has of them. A symbol that
is not exported is therefore found in this package only, and neither a function with a
builtin parameter nor a builtin field is ever used. A record that the caller lists with
its fields is not searched, and so not restricted.
-/

namespace PackageIndex

/-- Every package of an index is filed under its import path. -/
theorem importPath_of_get?_ofList
    {packages : List Package}
    {importPath : String}
    {package : Package}
    (filed : (ofList packages).get? importPath = some package) :
    package.importPath = importPath := by
  refine
    List.foldlRecOn (motive := fun index : PackageIndex =>
        ∀ package, index.get? importPath = some package → package.importPath = importPath)
      (b := Keyed.empty) packages add ?empty ?add package filed
  case empty =>
    intro package filed
    simp at filed
  case add =>
    intro index kept added _ package filed
    rw [add, Keyed.get?_insert] at filed
    split at filed
    · rename_i same
      cases filed
      exact same
    · exact kept package filed

end PackageIndex

namespace Recipe

/--
A recipe uses only what can be used from a package.

What it names of another package is exported, and nothing that it takes is of a builtin
type, except for what an alias stands for.
-/
def VisibleFrom
    (viewpoint : String) : Recipe → Prop
  | .call function =>
      (function.importPath ≠ viewpoint → Identifier.isExported function.name = true) ∧
        ∀ type ∈ function.params, type.isBuiltin = false
  | .literal record =>
      (record.type.importPath ≠ viewpoint →
        Identifier.isExported record.type.name = true ∧
          ∀ field ∈ record.fields, Identifier.isExported field.name = true) ∧
        ∀ field ∈ record.fields, field.type.isBuiltin = false
  | .forward synonym =>
      synonym.importPath ≠ viewpoint → Identifier.isExported synonym.name = true
  | .noError | .goal _ =>
      True

/-- Every recipe but that of a goal needs values of named types. -/
theorem exists_type_of_mem_needs
    {recipe : Recipe}
    (notGoal : ∀ goal, recipe ≠ .goal goal)
    {need : Need}
    (member : need ∈ recipe.needs) :
    ∃ type, need = .named type := by
  cases recipe with
  | call function =>
      obtain ⟨type, _, rfl⟩ := List.mem_map.mp member
      exact ⟨type, rfl⟩
  | literal record =>
      obtain ⟨field, _, rfl⟩ := List.mem_map.mp member
      exact ⟨field.type, rfl⟩
  | forward synonym =>
      exact ⟨synonym.target, List.mem_singleton.mp member⟩
  | noError =>
      cases member
  | goal whole =>
      exact absurd rfl (notGoal whole)

end Recipe

namespace PackageSearch

variable {search : PackageSearch} {viewpoint : String} {package : Package}
  {wanted : NamedType} {recipe : Recipe}

/-- What is seen of another package is exported. -/
theorem isExported_of_sees
    (looks : search.viewpoint = some viewpoint)
    {name : String}
    (seen : search.sees package name = true)
    (other : package.importPath ≠ viewpoint) :
    Identifier.isExported name = true := by
  simpa [sees, looks, other.symm] using seen

/-- The fields that a literal fills are exported by another package, and never builtin. -/
theorem visible_of_mem_filledFields
    (looks : search.viewpoint = some viewpoint)
    {struct : Package.Struct}
    {field : Field}
    (filled : field ∈ search.filledFields package struct) :
    (package.importPath ≠ viewpoint → Identifier.isExported field.name = true) ∧
      field.type.isBuiltin = false := by
  obtain ⟨declared, kept, rfl⟩ := List.mem_map.mp filled
  obtain ⟨notBuiltin, seen⟩ := Bool.and_eq_true_iff.mp (List.mem_filter.mp kept).2
  exact ⟨isExported_of_sees looks seen, by simpa using notBuiltin⟩

/-- What a search finds can be used from its viewpoint. -/
theorem visibleFrom_of_lookup
    (looks : search.viewpoint = some viewpoint)
    (filed :
      ∀ importPath package,
        search.packages.get? importPath = some package → package.importPath = importPath)
    (found : search.lookup wanted = .ok recipe) :
    recipe.VisibleFrom viewpoint := by
  obtain ⟨package, located, symbol⟩ := exists_symbol_of_lookup found
  rcases symbol with
    ⟨function, _, tried⟩ | ⟨struct, _, tried⟩ | ⟨declared, _, tried⟩
  · obtain ⟨_, _, _, _, _, _, _, _, seen, noBuiltin, rfl⟩ := tryFunction_ok_cases tried
    exact ⟨isExported_of_sees looks seen, noBuiltin⟩
  · obtain ⟨sameName, seen, rfl⟩ := tryStruct_ok_cases tried
    have samePath : package.importPath = wanted.importPath := filed _ package located
    refine ⟨fun other => ?_, fun field filled => (visible_of_mem_filledFields looks filled).2⟩
    have otherPackage : package.importPath ≠ viewpoint := samePath ▸ other
    exact ⟨sameName ▸ isExported_of_sees looks seen otherPackage,
      fun field filled => (visible_of_mem_filledFields looks filled).1 otherPackage⟩
  · obtain ⟨_, seen, rfl⟩ := tryAlias_ok_cases tried
    exact isExported_of_sees looks seen

end PackageSearch

namespace Job

open Resolution

variable {job : Job} {earlier : List (Nat × Goal)}

/-- A record that is listed with a result, of the job or of an earlier goal, or a replacement. -/
def Lists
    (job : Job)
    (earlier : List (Nat × Goal))
    (listed : Record) : Prop :=
  .record listed ∈ job.results ∨
    (∃ run ∈ earlier, .record listed ∈ run.2.results) ∨
    ∃ redirect ∈ job.redirects, redirect.replacement = .record listed

/-- The record of a need, if it has one, is listed. -/
def MeetsListed
    (job : Job)
    (earlier : List (Nat × Goal))
    (need : Need) : Prop :=
  ∀ listed, need = .record listed → job.Lists earlier listed

/-- A recipe uses what the package of the job can use, or fills in a listed record. -/
def AcceptsVisible
    (job : Job)
    (earlier : List (Nat × Goal))
    (recipe : Recipe) : Prop :=
  recipe.VisibleFrom job.importPath ∨
    ∃ listed, recipe = .literal listed ∧ job.Lists earlier listed

/-- Packages are searched with the view that the package of the job has of them. -/
abbrev settingIn
    (job : Job)
    (packages : List Package) :
    Setting :=
  job.setting (job.search (PackageIndex.ofList packages)).lookup

/-- The record that is needed in place of another need is listed if the stated one is. -/
theorem MeetsListed.apply
    {stated : Need}
    (meets : job.MeetsListed earlier stated) :
    job.MeetsListed earlier (job.substitutions.apply stated) := by
  intro listed isRecord
  unfold Substitutions.apply at isRecord
  cases found : job.substitutions.get? stated.identity with
  | none =>
      rw [found] at isRecord
      exact meets listed isRecord
  | some replacement =>
      rw [found] at isRecord
      obtain ⟨pair, paired, _, isReplacement⟩ := Substitutions.exists_of_get?_ofPairs found
      obtain ⟨redirect, member, rfl⟩ := List.mem_map.mp paired
      exact .inr (.inr ⟨redirect, member, isReplacement.trans isRecord⟩)

/-- A search for a job knows no other recipes than those that its package can use. -/
theorem vouches_of_listed
    (packages : List Package)
    {goal : Goal}
    (results : ∀ stated ∈ goal.results, job.MeetsListed earlier stated) :
    (job.settingIn packages).Vouches goal
      (job.MeetsListed earlier)
      (fun _ recipe =>
        job.AcceptsVisible earlier recipe ∧ ∀ whole, recipe ≠ .goal whole) where
  answered := by
    intro need recipe meets found
    have noGoal : ∀ whole, recipe ≠ .goal whole := by
      rintro whole rfl
      exact recipe_ne_goal (PackageSearch.lookup_findsNoGoal _) need whole found
    refine ⟨?_, noGoal⟩
    cases need with
    | named type =>
        simp only [Need.recipe] at found
        split at found
        · cases found
          exact .inl trivial
        · exact .inl (PackageSearch.visibleFrom_of_lookup rfl
            (fun _ _ filed => PackageIndex.importPath_of_get?_ofList filed) found)
    | record listed =>
        cases found
        exact .inr ⟨listed, rfl, meets listed rfl⟩
    | error =>
        cases found
        exact .inl trivial
  needed := by
    rintro identity recipe ⟨_, noGoal⟩ stated member
    obtain ⟨type, rfl⟩ := Recipe.exists_type_of_mem_needs noGoal member
    exact MeetsListed.apply (fun _ isRecord => nomatch isRecord)
  requested := fun stated member => (results stated member).apply

/--
No tree of a job reaches for what its package cannot use.

Every recipe of every node is visible from the package of the job, except for the
literals of records that were listed for it, whatever was resolved earlier.
-/
theorem visibleFrom_of_resolveWithin
    (job : Job)
    (packages : List Package)
    (earlier : List (Nat × Goal))
    (limit : Nat)
    (root : Tree)
    (resolved :
      (resolveWithin limit (job.settingIn packages) job.goal
        (Memory.after (job.settingIn packages) earlier)).1 = .ok root) :
    ∀ node ∈ root.nodes,
      ∀ recipe,
        node.origin = .recipe recipe →
        recipe.VisibleFrom job.importPath ∨
          ∃ listed, recipe = .literal listed ∧ job.Lists earlier listed := by
  intro node member recipe isRecipe
  have vouchesEarlier :
      ∀ run ∈ earlier,
        (job.settingIn packages).Vouches run.2 (job.MeetsListed earlier)
          (fun _ recipe =>
            job.AcceptsVisible earlier recipe ∧ ∀ whole, recipe ≠ .goal whole) :=
    fun run isEarlier =>
      vouches_of_listed packages (fun _ requested _ isRecord =>
        .inr (.inl ⟨run, isEarlier, isRecord ▸ requested⟩))
  have vouches :
      (job.settingIn packages).Vouches job.goal (job.MeetsListed earlier)
        (fun _ recipe =>
          job.AcceptsVisible earlier recipe ∧ ∀ whole, recipe ≠ .goal whole) :=
    vouches_of_listed packages (fun _ requested _ isRecord => .inl (isRecord ▸ requested))
  have knows := Memory.after_knowsOnly vouchesEarlier
  rcases accepted_of_mem_nodes vouches knows resolved member isRecipe with rfl | accepted
  · exact .inl trivial
  · exact accepted.1

end Job

namespace Workshop

/-- A type of the package `p`. -/
def named (name : String) : NamedType :=
  NamedType.ofText "p" name

/-- A store that only its own package can open, with a hidden and a builtin field. -/
def package : Package where
  importPath := "p"
  name := "p"
  functions :=
    [{ name := "openStore", receiver := none, params := [], results := [named "Store"] }]
  structs :=
    [{ name := "Store"
       fields :=
         [{ name := some "Settings", type := named "Settings" },
          { name := some "cache", type := named "Cache" },
          { name := some "Size", type := NamedType.ofText "" "int" }] },
     { name := "Settings", fields := [] }]
  aliases := []
  interfaces := []

/-- A record type of `p` that is not exported, listed with its builtin field. -/
def pool : Record where
  type := named "pool"
  fields := [{ name := "size", type := NamedType.ofText "" "int" }]

/-- The job of providing a store and a pool of the given size to the package `q`. -/
def job : Job where
  name := "Provide"
  importPath := "q"
  package := none
  params := [{ need := .named (NamedType.ofText "" "int"), hoist := false }]
  results := [.named (named "Store"), .record pool]
  redirects := []
  hoist := false
  imports := []

end Workshop

/-- Another package fills in the exported field of the store, and the listed pool as it is. -/
theorem Job.visibleFrom_of_resolveWithin_workshop :
    ∃ root,
      (Resolution.resolveWithin 3 (Workshop.job.settingIn [Workshop.package])
        Workshop.job.goal
        (Resolution.Memory.after (Workshop.job.settingIn [Workshop.package]) [])).1 =
          .ok root ∧
        (∀ node ∈ root.nodes,
          ∀ recipe,
            node.origin = .recipe recipe →
            recipe.VisibleFrom "q" ∨
              ∃ listed, recipe = .literal listed ∧ Workshop.job.Lists [] listed) ∧
        root.nodes.map Tree.identity =
          ["\"q\".Provide", "\"p\".Store", "\"p\".Settings", "\"p\".pool", "int"] ∧
        ¬(Recipe.literal Workshop.pool).VisibleFrom "q" := by
  obtain ⟨root, resolved, identities⟩ :
      ∃ root,
        (Resolution.resolveWithin 3 (Workshop.job.settingIn [Workshop.package])
          Workshop.job.goal
          (Resolution.Memory.after (Workshop.job.settingIn [Workshop.package]) [])).1 =
            .ok root ∧
          root.nodes.map Tree.identity =
            ["\"q\".Provide", "\"p\".Store", "\"p\".Settings", "\"p\".pool", "int"] :=
    ⟨_, rfl, by decide +kernel⟩
  refine ⟨root, resolved, ?_, identities, ?_⟩
  · exact Job.visibleFrom_of_resolveWithin Workshop.job [Workshop.package] [] 3 root resolved
  · rintro ⟨_, noBuiltin⟩
    exact absurd (noBuiltin _ (List.mem_singleton.mpr rfl)) (by decide)

end Wiring
