import Wiring.Proofs.ImportNames
import Wiring.Proofs.Termination

namespace Wiring

/-!
# The order of declarations does not matter

Params, redirects, imports and packages are filed under keys and only looked up
from then on. Where no key is used twice, the order of filing cannot be told: the
same values are found, the same names are taken, and whatever is listed is sorted
by a text that does not repeat. A job and a permutation of it therefore lead to the
same function, or to the same failure.
-/

/--
`others` has the items of `items` in an order that no search by key can tell.

The order may change only where no key is used twice.
-/
inductive Rearranges
    (key : α → String)
    (items : List α) : List α → Prop where
  | same : Rearranges key items items
  | permuted
      {others : List α}
      (distinct : (items.map key).Nodup)
      (permutes : items.Perm others) :
      Rearranges key items others

namespace Rearranges

variable {key : α → String} {items others : List α}

/-- A rearrangement is a permutation. -/
theorem perm
    (rearranges : Rearranges key items others) :
    items.Perm others := by
  cases rearranges with
  | same => exact .refl items
  | permuted distinct permutes => exact permutes

/-- With distinct keys, the first item with a key is the only one. -/
theorem find?_eq_some_iff
    (distinct : (items.map key).Nodup)
    {wanted : String}
    {item : α} :
    items.find? (fun item => key item == wanted) = some item ↔
      item ∈ items ∧ key item = wanted := by
  constructor
  · intro found
    exact ⟨List.mem_of_find?_eq_some found, by simpa using List.find?_some found⟩
  · rintro ⟨member, isWanted⟩
    cases found : items.find? (fun item => key item == wanted) with
    | none =>
        have absent := List.find?_eq_none.mp found item member
        simp [isWanted] at absent
    | some first =>
        have sameKey : key first = key item := by
          rw [isWanted]
          simpa using List.find?_some found
        rw [List.inj_on_of_nodup_map distinct (List.mem_of_find?_eq_some found) member sameKey]

/-- The same item is found first in both orders. -/
theorem find?_eq
    (rearranges : Rearranges key items others)
    (wanted : String) :
    items.find? (fun item => key item == wanted) =
      others.find? (fun item => key item == wanted) := by
  cases rearranges with
  | same => rfl
  | permuted distinct permutes =>
      have distinctToo : (others.map key).Nodup := (permutes.map key).nodup_iff.mp distinct
      ext item
      rw [find?_eq_some_iff distinct, find?_eq_some_iff distinctToo, permutes.mem_iff]

end Rearranges

namespace Keyed

/-- Two collections have the same value under every key. -/
def SameAs (filed other : Keyed α) : Prop :=
  ∀ key, filed.get? key = other.get? key

/-- The entries are the keys with the values found under them. -/
theorem mem_entries_iff
    {filed : Keyed α}
    {entry : String × α} :
    entry ∈ filed.entries ↔ filed.get? entry.1 = some entry.2 :=
  ⟨Entries.get?_of_mem filed.nodup_keys, Entries.mem_of_get?⟩

namespace SameAs

variable {filed other : Keyed α}

/-- The same values are filed in some order. -/
theorem entries_perm
    (same : filed.SameAs other) :
    filed.entries.Perm other.entries := by
  refine (List.perm_ext_iff_of_nodup filed.nodup_keys.of_map other.nodup_keys.of_map).mpr ?_
  intro entry
  rw [mem_entries_iff, mem_entries_iff, same entry.1]

end SameAs

/-- With distinct keys, filing items one after the other files each of them for good. -/
theorem get?_foldl_insert
    {key : β → String}
    {value : β → α}
    {items : List β}
    (distinct : (items.map key).Nodup)
    (filed : Keyed α)
    (wanted : String) :
    (items.foldl (fun filed item => filed.insert (key item) (value item)) filed).get? wanted =
      ((items.find? (fun item => key item == wanted)).map value).or (filed.get? wanted) := by
  induction items generalizing filed with
  | nil =>
      simp
  | cons item rest inductionHypothesis =>
      rw [List.map_cons, List.nodup_cons] at distinct
      rw [List.foldl_cons, inductionHypothesis distinct.2, get?_insert, List.find?_cons]
      by_cases isKey : key item = wanted
      · have absent : rest.find? (fun other => key other == wanted) = none := by
          rw [List.find?_eq_none]
          intro other member sameKey
          rw [beq_iff_eq] at sameKey
          exact distinct.1 (isKey.trans sameKey.symm ▸ List.mem_map_of_mem member)
        simp [isKey, absent]
      · simp [isKey, beq_false_of_ne isKey]

/-- Items that are filed in another order are found under the same keys. -/
theorem sameAs_foldl_insert
    {key : β → String}
    (value : β → α)
    {items others : List β}
    (rearranges : Rearranges key items others) :
    (items.foldl (fun filed item => filed.insert (key item) (value item)) empty).SameAs
      (others.foldl (fun filed item => filed.insert (key item) (value item)) empty) := by
  intro wanted
  have found := rearranges.find?_eq wanted
  cases rearranges with
  | same => rfl
  | permuted distinct permutes =>
      have distinctToo : (others.map key).Nodup := (permutes.map key).nodup_iff.mp distinct
      rw [get?_foldl_insert distinct, get?_foldl_insert distinctToo, found]

end Keyed

namespace Identifier

/-- Numbered names are tried alike against taken names in any order. -/
theorem firstFreeNumbered_eq_of_perm
    {taken others : List String}
    (permutes : taken.Perm others)
    (base : String)
    (budget number : Nat) :
    firstFreeNumbered taken base budget number = firstFreeNumbered others base budget number := by
  induction budget generalizing number with
  | zero =>
      rfl
  | succ budget inductionHypothesis =>
      simp only [firstFreeNumbered, permutes.contains_eq, inductionHypothesis]

/-- A fresh name does not depend on the order of the taken ones. -/
theorem fresh_eq_of_perm
    {taken others : List String}
    (permutes : taken.Perm others)
    (base : String)
    (alternatives : List String) :
    fresh taken base alternatives = fresh others base alternatives := by
  simp only [fresh, permutes.contains_eq, permutes.length_eq,
    firstFreeNumbered_eq_of_perm permutes]

end Identifier

namespace ImportTable

/-- Two tables know the same packages alike, and reserve the same names. -/
structure SameAs (imports other : ImportTable) : Prop where
  known : imports.known.SameAs other.known
  reserved : imports.reserved = other.reserved

/-- A package that is not used is known by its name alone. -/
theorem Unused.get?_known
    {imports : ImportTable}
    (unused : imports.Unused)
    (path : String) :
    imports.known.get? path =
      (imports.nameOf? path).map (fun name => { name, used := false }) := by
  cases found : imports.known.get? path with
  | none =>
      simp [nameOf?, found]
  | some entry =>
      simp [nameOf?, found, ← unused path entry found]

/-- The order of the imports of an enclosing file does not matter. -/
theorem sameAs_ofImports
    {entries others : List Import}
    (rearranges : Rearranges Import.path entries others) :
    (ofImports entries).SameAs (ofImports others) where
  known := by
    intro path
    rw [(ofImports_unused entries).get?_known, (ofImports_unused others).get?_known,
      nameOf?_ofImports, nameOf?_ofImports, rearranges.find?_eq]
  reserved := by
    have nothingReserved :
        ∀ entries : List Import, (ofImports entries).reserved = [] := by
      intro entries
      refine List.foldlRecOn (motive := fun imports : ImportTable => imports.reserved = [])
        entries keep rfl ?_
      intro imports kept entry _
      unfold keep
      split <;> exact kept
    rw [nothingReserved, nothingReserved]

namespace SameAs

variable {imports other : ImportTable} (same : imports.SameAs other)

include same

/-- The same packages have the same names. -/
theorem nameOf?_eq
    (path : String) :
    imports.nameOf? path = other.nameOf? path := by
  rw [nameOf?, nameOf?, same.known path]

/-- The same names are those of packages. -/
theorem names_perm :
    imports.names.Perm other.names :=
  same.known.entries_perm.map _

/-- A new package gets the same name. -/
theorem freshName_eq
    (path : String) :
    imports.freshName path = other.freshName path := by
  refine Identifier.fresh_eq_of_perm ?_ _ _
  rw [takenNames, takenNames, same.reserved]
  exact (same.names_perm.append_left _).append_right _

/-- Reserving a name keeps tables the same. -/
theorem reserve
    (name : String) :
    (imports.reserve name).SameAs (other.reserve name) where
  known := same.known
  reserved := by
    simp only [ImportTable.reserve, same.reserved]

/-- Using a package keeps tables the same. -/
theorem use
    (path : String) :
    (imports.use path).SameAs (other.use path) where
  known := by
    intro wanted
    rw [get?_known_use, get?_known_use, same.nameOf?_eq, same.freshName_eq, same.known wanted]
  reserved := by
    have reservedOfUse :
        ∀ imports : ImportTable, (imports.use path).reserved = imports.reserved := by
      intro imports
      unfold ImportTable.use
      split <;> rfl
    rw [reservedOfUse, reservedOfUse, same.reserved]

/-- Tables stay the same through any steps that keep them the same. -/
theorem foldl
    {step : ImportTable → String → ImportTable}
    (keeps :
      ∀ {imports other : ImportTable},
        imports.SameAs other → ∀ text, (step imports text).SameAs (step other text))
    (texts : List String) :
    (texts.foldl step imports).SameAs (texts.foldl step other) := by
  induction texts generalizing imports other with
  | nil => exact same
  | cons text rest inductionHypothesis => exact inductionHypothesis (keeps same text)

/-- The same packages are listed in the same order. -/
theorem listed_eq :
    imports.listed = other.listed := by
  have permutes : imports.listed.Perm other.listed :=
    (List.mergeSort_perm _ _).trans
      (((same.known.entries_perm.filter _).map _).trans (List.mergeSort_perm _ _).symm)
  refine permutes.eq_of_pairwise ?_ imports.listed_pairwise other.listed_pairwise
  rintro left right _ _ (⟨marked, unmarked⟩ | ⟨alike, before⟩)
    (⟨markedToo, unmarkedToo⟩ | ⟨alikeToo, behind⟩)
  · rw [marked] at unmarkedToo
    cases unmarkedToo
  · rw [alikeToo, marked] at unmarked
    cases unmarked
  · rw [alike, markedToo] at unmarkedToo
    cases unmarkedToo
  · exact absurd (before.trans behind) (lt_irrefl _)

end SameAs

end ImportTable

namespace PackageSearch

variable {packages others : PackageIndex} (same : packages.SameAs others)

include same

/-- The same packages give the same answers. -/
theorem lookup_eq_of_sameAs
    (viewpoint : Option String) :
    lookup { packages, viewpoint } = lookup { packages := others, viewpoint } := by
  funext wanted
  simp only [lookup, PackageIndex.packageAt, same wanted.importPath]
  rfl

/-- The same packages mention the same identities. -/
theorem mentioned_perm_of_sameAs
    (viewpoint : Option String) :
    (catalog { packages, viewpoint }).mentioned.Perm
      (catalog { packages := others, viewpoint }).mentioned :=
  same.entries_perm.flatMap_right _

end PackageSearch

namespace Resolution

/-- Two runs look up, replace and supply the same. -/
structure Setting.SameAs (setting other : Setting) : Prop where
  lookup : setting.lookup = other.lookup
  substitutions : setting.substitutions.SameAs other.substitutions
  supplied : setting.supplied.SameAs other.supplied

variable {setting other : Setting} (same : setting.SameAs other)

include same

/-- The same need is resolved in place of a need. -/
theorem Setting.SameAs.apply_eq
    (need : Need) :
    setting.substitutions.apply need = other.substitutions.apply need := by
  rw [Substitutions.apply, Substitutions.apply, same.substitutions]

/-- The same recipe is remembered or looked up. -/
theorem Setting.SameAs.recipeFor_eq
    (need : Need)
    (memory : Memory) :
    recipeFor setting need memory = recipeFor other need memory := by
  rw [recipeFor, recipeFor, same.lookup]

/-- A need is resolved alike. -/
theorem Setting.SameAs.resolveNeed_eq
    (root : String)
    (limit : Nat) :
    resolveNeed setting root limit = resolveNeed other root limit := by
  induction limit with
  | zero =>
      funext path stated memory
      rfl
  | succ limit inductionHypothesis =>
      funext path stated memory
      simp only [resolveNeed, inductionHypothesis, same.apply_eq, same.recipeFor_eq,
        same.supplied (other.substitutions.apply stated).identity]

/-- A goal is resolved alike. -/
theorem Setting.SameAs.resolveWithin_eq
    (limit : Nat)
    (goal : Goal)
    (memory : Memory) :
    resolveWithin limit setting goal memory = resolveWithin limit other goal memory := by
  rw [resolveWithin, resolveWithin, same.resolveNeed_eq]

omit same in
/-- The depth limit does not depend on the order in which identities are mentioned. -/
theorem depthLimit_eq
    {catalog another : Catalog}
    (mentions : catalog.mentioned.Perm another.mentioned)
    {substitutions others : Substitutions}
    (sameSubstitutions : substitutions.SameAs others)
    (goal : Goal)
    (memory : Memory) :
    depthLimit catalog substitutions goal memory = depthLimit another others goal memory := by
  have sameReachable :
      (reachable catalog substitutions goal memory).Perm
        (reachable another others goal memory) := by
    refine
      (List.perm_ext_iff_of_nodup (List.nodup_eraseDups _) (List.nodup_eraseDups _)).mpr ?_
    intro identity
    rw [← reachable, ← reachable, mem_reachable_iff, mem_reachable_iff, mentions.mem_iff]
    simp only [sameSubstitutions.entries_perm.mem_iff]
  rw [depthLimit, depthLimit, sameReachable.length_eq]

end Resolution

namespace Scope

/-- Two scopes have the same goal, the same imports and the same local names. -/
structure SameAs (scope other : Scope) : Prop where
  goal : scope.goal = other.goal
  imports : scope.imports.SameAs other.imports
  locals : scope.locals = other.locals

/-- Over the same imports, a tree has the same scope. -/
theorem sameAs_ofTree
    {imports others : ImportTable}
    (same : imports.SameAs others)
    (goal : Goal)
    (root : Tree) :
    (ofTree goal imports root).SameAs (ofTree goal others root) where
  goal := rfl
  imports :=
    (same.foldl (fun kept name => kept.reserve name) _).foldl (fun kept path => kept.use path) _
  locals := rfl

namespace SameAs

variable {scope other : Scope} (same : scope.SameAs other)

include same

/-- Symbols are written alike. -/
theorem symbol_eq
    (importPath name : String) :
    scope.symbol importPath name = other.symbol importPath name := by
  simp only [symbol, same.goal, same.imports.nameOf?_eq]

/-- Types are written alike. -/
theorem typeExpr_eq
    (type : NamedType) :
    scope.typeExpr type = other.typeExpr type := by
  simp only [typeExpr, same.symbol_eq]

/-- Early returns give back the same values. -/
theorem zeroValues_eq :
    scope.zeroValues = other.zeroValues := by
  simp only [zeroValues, zeroValue, same.goal, same.symbol_eq]

/-- The result types are written alike. -/
theorem resultTypes_eq
    (results : List Value) :
    scope.resultTypes results = other.resultTypes results := by
  simp only [resultTypes, same.goal, same.typeExpr_eq]

/-- A new value gets the same name. -/
theorem freshName_eq
    (draft : Draft)
    (type : NamedType) :
    scope.freshName draft type = other.freshName draft type := by
  have sameQualified : scope.qualifiedNames type = other.qualifiedNames type := by
    simp only [qualifiedNames, same.goal, same.imports.nameOf?_eq]
  rw [freshName, freshName, sameQualified]
  refine Identifier.fresh_eq_of_perm ?_ _ _
  rw [takenNames, takenNames, same.locals]
  exact same.imports.names_perm.append_left _

/-- A recipe is carried out alike. -/
theorem layRecipe_eq
    (zeros : List ZeroValue)
    (type : NamedType)
    (recipe : Recipe)
    (inputs : List Value)
    (draft : Draft) :
    scope.layRecipe zeros type recipe inputs draft =
      other.layRecipe zeros type recipe inputs draft := by
  simp only [layRecipe, layCall, layLiteral, same.symbol_eq, same.freshName_eq]

omit same in
/-- A list of trees is laid out alike if each of its trees is. -/
theorem layEach_eq_of_each
    {zeros : List ZeroValue}
    {constructing : List String}
    {trees : List Tree}
    (each :
      ∀ tree ∈ trees, ∀ draft,
        scope.layTree zeros constructing tree draft =
          other.layTree zeros constructing tree draft)
    (draft : Draft) :
    scope.layEach zeros constructing trees draft =
      other.layEach zeros constructing trees draft := by
  induction trees generalizing draft with
  | nil =>
      rfl
  | cons tree rest inductionHypothesis =>
      simp only [layEach, each tree (by simp),
        inductionHypothesis (fun below member => each below (List.mem_cons_of_mem tree member))]

/-- A tree is laid out alike. -/
theorem layTree_eq
    (zeros : List ZeroValue)
    (constructing : List String)
    (tree : Tree)
    (draft : Draft) :
    scope.layTree zeros constructing tree draft =
      other.layTree zeros constructing tree draft := by
  induction tree generalizing constructing draft with
  | node type origin hoist children inductionHypothesis =>
      have sameChildren :=
        layEach_eq_of_each
          (fun child member draft =>
            inductionHypothesis child member (type.identity :: constructing) draft)
      simp only [layTree, layParameter, sameChildren, same.typeExpr_eq, same.freshName_eq,
        same.layRecipe_eq]

end SameAs

end Scope

/-- Over the same imports, a tree is laid out as the same function. -/
theorem Blueprint.ofTree_eq_of_sameAs
    {imports others : ImportTable}
    (same : imports.SameAs others)
    (root : Tree) :
    ofTree root imports = ofTree root others := by
  have sameLayOut : ∀ goal, layOut goal imports root = layOut goal others root := by
    intro goal
    have sameScope := Scope.sameAs_ofTree same goal root
    have sameEach :
        ∀ zeros draft,
          (Scope.ofTree goal imports root).layEach zeros [] root.children draft =
            (Scope.ofTree goal others root).layEach zeros [] root.children draft :=
      fun zeros =>
        Scope.SameAs.layEach_eq_of_each
          (fun tree _ draft => sameScope.layTree_eq zeros [] tree draft)
    simp only [layOut, sameScope.zeroValues_eq, sameScope.resultTypes_eq,
      sameScope.imports.listed_eq, sameEach]
  simp only [ofTree, sameLayOut]

/-- The order in which packages with different import paths are filed does not matter. -/
theorem PackageIndex.sameAs_ofList
    {packages others : List Package}
    (rearranges : Rearranges Package.importPath packages others) :
    (ofList packages).SameAs (ofList others) :=
  Keyed.sameAs_foldl_insert id rearranges

namespace Job

variable {job : Job} {params : List Param} {redirects : List Redirect} {imports : List Import}

/-- The order of redirects does not matter to what is replaced. -/
theorem sameAs_substitutions
    (rearranges :
      Rearranges (fun redirect => redirect.replaced.identity) job.redirects redirects) :
    job.substitutions.SameAs (substitutions { job with params, redirects, imports }) := by
  have filed :
      ∀ listed : List Redirect,
        Substitutions.ofPairs
            (listed.map fun redirect => (redirect.replaced, redirect.replacement)) =
          listed.foldl
            (fun filed redirect =>
              filed.insert redirect.replaced.identity redirect.replacement)
            Keyed.empty :=
    fun _ => List.foldl_map
  rw [substitutions, substitutions, filed, filed]
  exact Keyed.sameAs_foldl_insert Redirect.replacement rearranges

/-- The order of params does not matter to what is supplied. -/
theorem sameAs_supplied
    (rearranges : Rearranges (fun param => param.need.identity) job.params params) :
    job.supplied.SameAs (supplied { job with params, redirects, imports }) := by
  have filed :
      ∀ listed : List Param,
        Supplied.ofPairs (listed.map fun param => (param.need, param.hoist)) =
          listed.foldl (fun filed param => filed.insert param.need.identity param.hoist)
            Keyed.empty :=
    fun _ => List.foldl_map
  rw [supplied, supplied, filed, filed]
  exact Keyed.sameAs_foldl_insert Param.hoist rearranges

/-- The order of params does not matter to what is wrong with a job. -/
theorem validate_rearranged
    (permutes : job.params.Perm params) :
    validate { job with params, redirects, imports } = job.validate := by
  simp only [validate, problem?, permutes.any_eq]

/-- The order of imports does not matter to the layout of a tree. -/
theorem layOut_rearranged
    (rearranges : Rearranges Import.path job.imports imports)
    (tree : Tree) :
    layOut { job with params, redirects, imports } tree = job.layOut tree := by
  simp only [layOut, Blueprint.ofTree_eq_of_sameAs (ImportTable.sameAs_ofImports rearranges)]
  rfl

/-- The order of params and redirects does not matter to the tree that a job is resolved into. -/
theorem resolution_rearranged
    (sameParams : Rearranges (fun param => param.need.identity) job.params params)
    (sameRedirects :
      Rearranges (fun redirect => redirect.replaced.identity) job.redirects redirects)
    {catalog another : Catalog}
    (sameLookup : catalog.lookup = another.lookup)
    (mentions : catalog.mentioned.Perm another.mentioned) :
    Resolution.resolveWithin
        (depthLimit { job with params, redirects, imports } another)
        (setting { job with params, redirects, imports } another.lookup)
        job.goal Resolution.Memory.empty =
      Resolution.resolveWithin
        (job.depthLimit catalog)
        (job.setting catalog.lookup)
        job.goal Resolution.Memory.empty := by
  have sameSubstitutions :
      job.substitutions.SameAs (substitutions { job with params, redirects, imports }) :=
    sameAs_substitutions sameRedirects
  have sameSetting :
      (job.setting catalog.lookup).SameAs
        (setting { job with params, redirects, imports } another.lookup) :=
    ⟨sameLookup, sameSubstitutions, sameAs_supplied sameParams⟩
  have sameLimit :
      job.depthLimit catalog = depthLimit { job with params, redirects, imports } another :=
    Resolution.depthLimit_eq mentions sameSubstitutions job.goal Resolution.Memory.empty
  rw [sameLimit, sameSetting.resolveWithin_eq]

/-- The order of declarations does not matter to the blueprint of a job. -/
theorem blueprint_rearranged
    (sameParams : Rearranges (fun param => param.need.identity) job.params params)
    (sameRedirects :
      Rearranges (fun redirect => redirect.replaced.identity) job.redirects redirects)
    (sameImports : Rearranges Import.path job.imports imports)
    {catalog another : Catalog}
    (sameLookup : catalog.lookup = another.lookup)
    (mentions : catalog.mentioned.Perm another.mentioned) :
    blueprint { job with params, redirects, imports } another = job.blueprint catalog := by
  have sameTree :
      Resolution.resolveWithin
          (depthLimit { job with params, redirects, imports } another)
          (setting { job with params, redirects, imports } another.lookup)
          job.goal Resolution.Memory.empty =
        Resolution.resolveWithin
          (job.depthLimit catalog) (job.setting catalog.lookup)
          job.goal Resolution.Memory.empty :=
    resolution_rearranged sameParams sameRedirects sameLookup mentions
  have sameGoal : goal { job with params, redirects, imports } = job.goal := rfl
  have sameIdentity : identity { job with params, redirects, imports } = job.identity := rfl
  simp only [blueprint, blueprintWithin, validate_rearranged sameParams.perm,
    layOut_rearranged sameImports, sameGoal, sameIdentity, sameTree]

/--
Where nothing is declared twice, the order of declarations does not matter.

The params of a job, its redirects and its imports, and the packages to search, may
each be permuted if no two of them share an identity or a path. The outcome is the
same function, or the same failure.
-/
theorem generate_rearranged
    (job : Job)
    {params : List Param}
    (sameParams : Rearranges (fun param => param.need.identity) job.params params)
    {redirects : List Redirect}
    (sameRedirects :
      Rearranges (fun redirect => redirect.replaced.identity) job.redirects redirects)
    {imports : List Import}
    (sameImports : Rearranges Import.path job.imports imports)
    {packages others : List Package}
    (samePackages : Rearranges Package.importPath packages others)
    (viewpoint : Option String) :
    generate
        { job with params, redirects, imports }
        (PackageSearch.catalog { packages := PackageIndex.ofList others, viewpoint }) =
      job.generate
        (PackageSearch.catalog { packages := PackageIndex.ofList packages, viewpoint }) := by
  have sameIndex := PackageIndex.sameAs_ofList samePackages
  have sameBlueprint :=
    blueprint_rearranged sameParams sameRedirects sameImports
      (PackageSearch.lookup_eq_of_sameAs sameIndex viewpoint)
      (PackageSearch.mentioned_perm_of_sameAs sameIndex viewpoint)
  rw [generate, generate, sameBlueprint]

end Job

namespace Copying

/-- A type of a package. -/
def type
    (importPath name : String) :
    NamedType :=
  NamedType.ofText importPath name

/-- A function that makes a type of its own package from some types. -/
def constructor
    (importPath name : String)
    (params : List NamedType) :
    Package where
  importPath
  name := importPath
  functions :=
    [{ name := "New" ++ name
       receiver := none
       params := params.map fun type => { name := none, type, variadic := false }
       results := [type importPath name] }]
  structs := []
  aliases := []
  interfaces := []

/-- A copier needs a source, a target, its settings and a clock. -/
def packages : List Package :=
  [constructor "app" "Copier"
      [type "io" "Source", type "io" "Target", type "app" "Config", type "app" "Clock"],
    constructor "disk" "File" [],
    constructor "net" "File" []]

/-- A job that copies from disk to the net, in a file that knows both packages. -/
def job : Job where
  name := "Provide"
  importPath := "app"
  package := none
  params :=
    [{ need := .named (type "app" "Config"), hoist := false },
      { need := .named (type "app" "Clock"), hoist := true }]
  results := [.named (type "app" "Copier")]
  redirects :=
    [{ replaced := .named (type "io" "Source"), replacement := .named (type "disk" "File") },
      { replaced := .named (type "io" "Target"), replacement := .named (type "net" "File") }]
  hoist := false
  imports := [{ path := "net", name := "file" }, { path := "disk", name := "file2" }]

/-- The catalog of some packages, as the package of the job sees them. -/
def catalogOf (packages : List Package) : Catalog :=
  PackageSearch.catalog { packages := PackageIndex.ofList packages, viewpoint := some "app" }

end Copying

/-- With all lists of the copier's job and packages reversed, the same function results. -/
theorem Job.generate_rearranged_copying :
    Rearranges (fun param => param.need.identity) Copying.job.params
        Copying.job.params.reverse ∧
      Rearranges (fun redirect => redirect.replaced.identity) Copying.job.redirects
        Copying.job.redirects.reverse ∧
      Rearranges Import.path Copying.job.imports Copying.job.imports.reverse ∧
      Rearranges Package.importPath Copying.packages Copying.packages.reverse ∧
      ∃ generated,
        Copying.job.generate (Copying.catalogOf Copying.packages) = .ok generated ∧
          Job.generate
              { Copying.job with
                params := Copying.job.params.reverse
                redirects := Copying.job.redirects.reverse
                imports := Copying.job.imports.reverse }
              (Copying.catalogOf Copying.packages.reverse) =
            .ok generated := by
  have params :
      Rearranges (fun param : Job.Param => param.need.identity) Copying.job.params
        Copying.job.params.reverse :=
    .permuted (by decide) (List.reverse_perm _).symm
  have redirects :
      Rearranges (fun redirect : Job.Redirect => redirect.replaced.identity)
        Copying.job.redirects Copying.job.redirects.reverse :=
    .permuted (by decide) (List.reverse_perm _).symm
  have imports :
      Rearranges Import.path Copying.job.imports Copying.job.imports.reverse :=
    .permuted (by decide) (List.reverse_perm _).symm
  have packages :
      Rearranges Package.importPath Copying.packages Copying.packages.reverse :=
    .permuted (by decide) (List.reverse_perm _).symm
  have same :=
    Job.generate_rearranged Copying.job params redirects imports packages (some "app")
  obtain ⟨root, resolved⟩ :
      ∃ root,
        (Resolution.resolveWithin
          (Copying.job.depthLimit (Copying.catalogOf Copying.packages))
          (Copying.job.setting (Copying.catalogOf Copying.packages).lookup)
          Copying.job.goal Resolution.Memory.empty).1 = .ok root :=
    ⟨_, rfl⟩
  have noGoals : (Copying.catalogOf Copying.packages).lookup.FindsNoGoal :=
    PackageSearch.lookup_findsNoGoal _
  obtain ⟨blueprint, laid⟩ := Job.exists_blueprintWithin noGoals (by decide) resolved
  have generated :
      Copying.job.generate (Copying.catalogOf Copying.packages) =
        .ok (GeneratedFunction.ofBlueprint blueprint) := by
    simp only [Job.generate, Job.blueprint, laid]
  exact ⟨params, redirects, imports, packages, _, generated, same.trans generated⟩

end Wiring
