import Wiring.Proofs.FreshNames
import Wiring.Proofs.MarkedOrder
import Wiring.Proofs.References

namespace Wiring

/-!
# Names of imports

An import table starts from the imports of an enclosing file; then names are
reserved and packages are used, in any order. A name that a package has once got
stays with it, and a package that is new gets a name that is free at this moment:
no package has it and nothing has reserved it. So two packages never share a name,
unless the enclosing file gives them one.
-/

namespace Import

/-- The imports of a file without those whose path has an import before. -/
def firstOfEachPath : List Import → List Import
  | [] => []
  | entry :: rest =>
      entry :: (firstOfEachPath rest).filter (fun other => other.path != entry.path)

/-- The first import of a path is the one that a search for the path finds. -/
theorem mem_firstOfEachPath_iff
    {entries : List Import}
    {entry : Import} :
    entry ∈ firstOfEachPath entries ↔
      entries.find? (fun other => other.path == entry.path) = some entry := by
  induction entries with
  | nil =>
      simp [firstOfEachPath]
  | cons first rest inductionHypothesis =>
      rw [firstOfEachPath, List.mem_cons, List.mem_filter, inductionHypothesis, List.find?_cons]
      by_cases same : first.path = entry.path
      · simp [same, eq_comm]
      · have other : entry ≠ first := fun equal => same (by rw [equal])
        simp [beq_false_of_ne same, other, Ne.symm same]

/-- Precedence among imports is by group and then by path. -/
theorem comparesMarked_precedes :
    ComparesMarked isStandard path precedes := by
  intro left right
  cases isLeft : left.isStandard <;> cases isRight : right.isStandard <;>
    simp [precedes, isLeft, isRight]

end Import

namespace ImportTable

/-- What can be done to a table that has its first imports. -/
inductive Operation where
  /-- Give a name to no further package. -/
  | reserve (name : String)
  /-- Use a package. -/
  | use (path : String)
  deriving Repr, DecidableEq

/-- The table after an operation. -/
def apply (imports : ImportTable) : Operation → ImportTable
  | .reserve name => imports.reserve name
  | .use path => imports.use path

/-- The table after some operations, the first one first. -/
def after
    (imports : ImportTable)
    (operations : List Operation) :
    ImportTable :=
  operations.foldl apply imports

/-- A package is used. -/
def Uses
    (imports : ImportTable)
    (path : String) : Prop :=
  ∃ entry, imports.known.get? path = some entry ∧ entry.used = true

/-- No two packages have one name. -/
def NamesApart (imports : ImportTable) : Prop :=
  ∀ path other name,
    imports.nameOf? path = some name →
    imports.nameOf? other = some name →
    path = other

section FirstImports

/-- No package of the table is used. -/
def Unused (imports : ImportTable) : Prop :=
  ∀ path entry, imports.known.get? path = some entry → entry.used = false

/-- No package of an unused table is used. -/
theorem Unused.not_uses
    {imports : ImportTable}
    (unused : imports.Unused)
    (path : String) :
    ¬ imports.Uses path := by
  rintro ⟨entry, found, used⟩
  rw [unused path entry found] at used
  cases used

/-- Keeping an import of the enclosing file uses no package. -/
theorem Unused.keep
    {imports : ImportTable}
    (unused : imports.Unused)
    (entry : Import) :
    (imports.keep entry).Unused := by
  unfold ImportTable.keep
  split
  · exact unused
  · intro path kept found
    rw [Keyed.get?_insert] at found
    split at found
    · cases found
      rfl
    · exact unused path kept found

/-- The imports of an enclosing file are not used yet. -/
theorem ofImports_unused
    (entries : List Import) :
    (ofImports entries).Unused :=
  List.foldlRecOn entries keep (by simp [Unused, empty])
    (fun _ unused entry _ => unused.keep entry)

/-- Keeping an import names its package, unless the package has a name. -/
theorem nameOf?_keep
    (imports : ImportTable)
    (entry : Import)
    (path : String) :
    (imports.keep entry).nameOf? path =
      (imports.nameOf? path).or (if entry.path = path then some entry.name else none) := by
  unfold keep
  cases known : imports.known.get? entry.path with
  | some old =>
      by_cases same : entry.path = path
      · simp [nameOf?, ← same, known]
      · simp [same]
  | none =>
      simp only [nameOf?, Keyed.get?_insert]
      by_cases same : entry.path = path
      · simp [← same, known]
      · simp [same]

/-- A table that starts from imports has the name of the first import of each path. -/
theorem nameOf?_ofImports
    (entries : List Import)
    (path : String) :
    (ofImports entries).nameOf? path =
      (entries.find? (fun entry => entry.path == path)).map Import.name := by
  suffices extended :
      ∀ imports : ImportTable,
        (entries.foldl keep imports).nameOf? path =
          (imports.nameOf? path).or
            ((entries.find? (fun entry => entry.path == path)).map Import.name) by
    rw [ofImports, extended]
    rfl
  intro imports
  induction entries generalizing imports with
  | nil =>
      simp
  | cons entry rest inductionHypothesis =>
      rw [List.foldl_cons, inductionHypothesis, nameOf?_keep, Option.or_assoc, List.find?_cons]
      by_cases same : entry.path = path
      · simp [same]
      · simp [same, beq_false_of_ne same]

/-- The packages of the first imports have different names if these imports have. -/
theorem ofImports_namesApart
    {entries : List Import}
    (distinct : ((Import.firstOfEachPath entries).map Import.name).Nodup) :
    (ofImports entries).NamesApart := by
  intro path other name named otherNamed
  rw [nameOf?_ofImports, Option.map_eq_some_iff] at named otherNamed
  obtain ⟨entry, found, isName⟩ := named
  obtain ⟨otherEntry, otherFound, isNameToo⟩ := otherNamed
  have samePath : entry.path = path := by simpa using List.find?_some found
  have sameOther : otherEntry.path = other := by simpa using List.find?_some otherFound
  subst samePath sameOther
  have sameEntry : entry = otherEntry :=
    List.inj_on_of_nodup_map distinct
      (Import.mem_firstOfEachPath_iff.mpr found)
      (Import.mem_firstOfEachPath_iff.mpr otherFound)
      (isName.trans isNameToo.symm)
  rw [sameEntry]

/-- The first imports name exactly the packages that they import. -/
theorem isSome_nameOf?_ofImports
    (entries : List Import)
    (path : String) :
    ((ofImports entries).nameOf? path).isSome = true ↔ path ∈ entries.map Import.path := by
  rw [nameOf?_ofImports, Option.isSome_map, List.find?_isSome, List.mem_map]
  simp

end FirstImports

section Steps

variable {imports : ImportTable}

/-- The name that a new package gets is not taken. -/
theorem freshName_not_mem_takenNames
    (imports : ImportTable)
    (path : String) :
    imports.freshName path ∉ imports.takenNames :=
  Identifier.fresh_not_mem _ _ _

/-- A package that has a name after another is used had it before, or is new and has a free one. -/
theorem nameOf?_use_cases
    {path other name : String}
    (named : (imports.use path).nameOf? other = some name) :
    imports.nameOf? other = some name ∨
      (other = path ∧ imports.nameOf? path = none ∧ name = imports.freshName path) := by
  rw [nameOf?, get?_known_use] at named
  by_cases same : path = other
  · subst same
    rw [if_pos rfl, Option.map_some, Option.some.injEq] at named
    cases known : imports.nameOf? path with
    | some old =>
        exact .inl (by simpa [known] using named)
    | none =>
        exact .inr ⟨rfl, rfl, by simpa [known] using named.symm⟩
  · rw [if_neg same] at named
    exact .inl named

/-- A package that has no name gets a free one when it is used. -/
theorem nameOf?_use_of_new
    {path : String}
    (new : imports.nameOf? path = none) :
    (imports.use path).nameOf? path = some (imports.freshName path) := by
  rw [nameOf?, get?_known_use, if_pos rfl, new, Option.map_some, Option.getD_none]

/-- A package keeps its name through an operation. -/
theorem nameOf?_apply
    {path name : String}
    (named : imports.nameOf? path = some name)
    (operation : Operation) :
    (imports.apply operation).nameOf? path = some name := by
  cases operation with
  | reserve reserved => exact named
  | use used => exact nameOf?_use named used

/-- An operation keeps the names of packages apart. -/
theorem NamesApart.apply
    (apart : imports.NamesApart)
    (operation : Operation) :
    (imports.apply operation).NamesApart := by
  cases operation with
  | reserve reserved =>
      exact apart
  | use used =>
      have fresh : ∀ path, imports.nameOf? path ≠ some (imports.freshName used) := by
        intro path named
        apply imports.freshName_not_mem_takenNames used
        simp only [takenNames, List.mem_append]
        exact .inl (.inr (mem_names_iff.mpr ⟨path, named⟩))
      intro path other name named otherNamed
      rcases nameOf?_use_cases named with known | ⟨isUsed, _, isFresh⟩
      · rcases nameOf?_use_cases otherNamed with knownToo | ⟨isUsedToo, _, isFreshToo⟩
        · exact apart path other name known knownToo
        · exact absurd (isFreshToo ▸ known) (fresh path)
      · rcases nameOf?_use_cases otherNamed with knownToo | ⟨isUsedToo, _, isFreshToo⟩
        · exact absurd (isFresh ▸ knownToo) (fresh other)
        · exact isUsed.trans isUsedToo.symm

/-- Exactly its use makes a package known. -/
theorem isSome_nameOf?_apply
    (operation : Operation)
    (path : String) :
    ((imports.apply operation).nameOf? path).isSome = true ↔
      (imports.nameOf? path).isSome = true ∨ operation = .use path := by
  cases operation with
  | reserve reserved =>
      simp [apply, reserve, nameOf?]
  | use used =>
      rw [apply, nameOf?, get?_known_use]
      by_cases same : used = path
      · simp [same]
      · simp [same, nameOf?]

/-- Exactly its use makes a package used. -/
theorem uses_apply
    (operation : Operation)
    (path : String) :
    (imports.apply operation).Uses path ↔ imports.Uses path ∨ operation = .use path := by
  cases operation with
  | reserve reserved =>
      simp [apply, reserve, Uses]
  | use used =>
      rw [apply, Uses, get?_known_use]
      by_cases same : used = path
      · simp [same]
      · simp [same, Uses]

/-- Exactly its reservation reserves a name. -/
theorem mem_reserved_apply
    (operation : Operation)
    (name : String) :
    name ∈ (imports.apply operation).reserved ↔
      name ∈ imports.reserved ∨ operation = .reserve name := by
  cases operation with
  | reserve reserved =>
      simp [apply, reserve, or_comm, eq_comm]
  | use used =>
      simp only [apply, use]
      split <;> simp

end Steps

section Runs

variable {imports : ImportTable}

/-- The operations of a run may be split at any place. -/
theorem after_append
    (earlier later : List Operation) :
    imports.after (earlier ++ later) = (imports.after earlier).after later :=
  List.foldl_append

/-- What exactly one operation brings about holds after a run that has the operation. -/
theorem after_iff
    (holds : ImportTable → Prop)
    {making : Operation}
    (step :
      ∀ (imports : ImportTable) (operation : Operation),
        holds (imports.apply operation) ↔ holds imports ∨ operation = making)
    (operations : List Operation) :
    holds (imports.after operations) ↔ holds imports ∨ making ∈ operations := by
  induction operations generalizing imports with
  | nil =>
      simp [after]
  | cons operation rest inductionHypothesis =>
      have first : imports.after (operation :: rest) = (imports.apply operation).after rest := rfl
      rw [first, inductionHypothesis, step, List.mem_cons, or_assoc, eq_comm]

/-- A package keeps its name through a run. -/
theorem nameOf?_after
    {path name : String}
    (named : imports.nameOf? path = some name)
    (operations : List Operation) :
    (imports.after operations).nameOf? path = some name :=
  List.foldlRecOn (motive := fun later : ImportTable => later.nameOf? path = some name)
    operations apply named (fun _ kept operation _ => nameOf?_apply kept operation)

/-- A run keeps the names of packages apart. -/
theorem NamesApart.after
    (apart : imports.NamesApart)
    (operations : List Operation) :
    (imports.after operations).NamesApart :=
  List.foldlRecOn operations ImportTable.apply apart
    (fun _ kept operation _ => kept.apply operation)

end Runs

section Listed

variable {imports : ImportTable}

/-- Listed are the used packages, under their names. -/
theorem mem_listed_iff
    {entry : Import} :
    entry ∈ imports.listed ↔
      imports.Uses entry.path ∧ imports.nameOf? entry.path = some entry.name := by
  constructor
  · intro isListed
    rw [listed, (List.mergeSort_perm _ _).mem_iff, List.mem_map] at isListed
    obtain ⟨⟨path, known⟩, isKnown, rfl⟩ := isListed
    obtain ⟨inEntries, used⟩ := List.mem_filter.mp isKnown
    have found : imports.known.get? path = some known :=
      Entries.get?_of_mem imports.known.nodup_keys inEntries
    exact ⟨⟨known, found, used⟩, by rw [nameOf?, found]; rfl⟩
  · rintro ⟨⟨⟨name, used⟩, found, isUsed⟩, named⟩
    rw [nameOf?, found, Option.map_some, Option.some.injEq] at named
    subst isUsed named
    exact mem_listed found

/-- No path is listed twice. -/
theorem nodup_map_path_listed
    (imports : ImportTable) :
    (imports.listed.map Import.path).Nodup := by
  rw [listed, ((List.mergeSort_perm _ _).map Import.path).nodup_iff, List.map_map]
  exact imports.known.nodup_keys.sublist (List.filter_sublist.map Prod.fst)

/-- The standard library is listed first, and each group in the order of paths. -/
theorem listed_pairwise
    (imports : ImportTable) :
    imports.listed.Pairwise (MarkedBefore Import.isStandard Import.path) := by
  apply Import.comparesMarked_precedes.pairwise_mergeSort
  rw [List.map_map]
  exact imports.known.nodup_keys.sublist (List.filter_sublist.map Prod.fst)

end Listed

/-- The table that starts from the imports of an enclosing file, after some operations. -/
def run
    (entries : List Import)
    (operations : List Operation) :
    ImportTable :=
  (ofImports entries).after operations

/--
The names that packages have after some operations on the imports of a file.

A name belongs to one package only, and stays with it from the operation on that
gave it. A package of the file has the name of its first import, and any other one
got, when it was first used, a name that was not reserved before. Listed are the
used packages, each once.
-/
structure KeepsNames
    (entries : List Import)
    (operations : List Operation) : Prop where
  apart : (run entries operations).NamesApart
  isName_iff :
    ∀ name,
      (run entries operations).isName name = true ↔
        ∃ path, (run entries operations).nameOf? path = some name
  known_iff :
    ∀ path,
      ((run entries operations).nameOf? path).isSome = true ↔
        path ∈ entries.map Import.path ∨ .use path ∈ operations
  stable :
    ∀ earlier later path name,
      operations = earlier ++ later →
      (run entries earlier).nameOf? path = some name →
      (run entries operations).nameOf? path = some name
  seeded :
    ∀ entry ∈ Import.firstOfEachPath entries,
      (run entries operations).nameOf? entry.path = some entry.name
  fresh :
    ∀ earlier path later,
      operations = earlier ++ .use path :: later →
      path ∉ entries.map Import.path →
      .use path ∉ earlier →
      ∃ name,
        (run entries operations).nameOf? path = some name ∧
          Identifier.isKeyword name = false ∧
          Identifier.isPredeclared name = false ∧
          name ≠ "err" ∧
          name ≠ "_" ∧
          .reserve name ∉ earlier
  listed_iff :
    ∀ entry,
      entry ∈ (run entries operations).listed ↔
        .use entry.path ∈ operations ∧
          (run entries operations).nameOf? entry.path = some entry.name
  once : ((run entries operations).listed.map Import.path).Nodup
  ordered :
    (run entries operations).listed.Pairwise (MarkedBefore Import.isStandard Import.path)

section Files

variable (entries : List Import)

/-- Known are the packages of the file and those that were used. -/
theorem isSome_nameOf?_run
    (operations : List Operation)
    (path : String) :
    ((run entries operations).nameOf? path).isSome = true ↔
      path ∈ entries.map Import.path ∨ .use path ∈ operations := by
  rw [run,
    after_iff (fun imports => (imports.nameOf? path).isSome = true)
      (fun _ operation => isSome_nameOf?_apply operation path),
    isSome_nameOf?_ofImports]

/-- Used are the packages that were used by an operation. -/
theorem uses_run
    (operations : List Operation)
    (path : String) :
    (run entries operations).Uses path ↔ .use path ∈ operations := by
  rw [run,
    after_iff (fun imports => imports.Uses path)
      (fun _ operation => uses_apply operation path)]
  exact or_iff_right ((ofImports_unused entries).not_uses path)

/-- A name that an operation has reserved is reserved. -/
theorem mem_reserved_run
    {operations : List Operation}
    {name : String}
    (reserves : .reserve name ∈ operations) :
    name ∈ (run entries operations).reserved :=
  (after_iff (fun imports => name ∈ imports.reserved)
    (fun _ operation => mem_reserved_apply operation name) operations).mpr (.inr reserves)

/-- A package that the file does not import has the name that was fresh at its first use. -/
theorem nameOf?_run_of_first_use
    {earlier : List Operation}
    {path : String}
    (foreign : path ∉ entries.map Import.path)
    (unused : .use path ∉ earlier)
    (later : List Operation) :
    (run entries (earlier ++ .use path :: later)).nameOf? path =
      some ((run entries earlier).freshName path) := by
  have new : (run entries earlier).nameOf? path = none := by
    rw [← Option.not_isSome_iff_eq_none, isSome_nameOf?_run]
    exact fun known => known.elim foreign unused
  rw [run, after_append]
  exact nameOf?_after (nameOf?_use_of_new new) later

/-- A package that is used for the first time, and not imported by the file, gets a free name. -/
theorem exists_fresh_run
    {earlier : List Operation}
    {path : String}
    (foreign : path ∉ entries.map Import.path)
    (unused : .use path ∉ earlier)
    (later : List Operation) :
    ∃ name,
      (run entries (earlier ++ .use path :: later)).nameOf? path = some name ∧
        name ∉ (run entries earlier).takenNames :=
  ⟨(run entries earlier).freshName path, nameOf?_run_of_first_use entries foreign unused later,
    freshName_not_mem_takenNames _ path⟩

/-- A name that a package has, without an import of the file, was fresh at an earlier moment. -/
theorem exists_freshName_of_nameOf?_run
    {operations : List Operation}
    {path name : String}
    (foreign : path ∉ entries.map Import.path)
    (named : (run entries operations).nameOf? path = some name) :
    ∃ earlier, name = (run entries earlier).freshName path := by
  have known : ((run entries operations).nameOf? path).isSome = true := by
    rw [named]
    rfl
  have used := ((isSome_nameOf?_run entries operations path).mp known).resolve_left foreign
  obtain ⟨earlier, later, rfl, unused⟩ := List.eq_append_cons_of_mem used
  rw [nameOf?_run_of_first_use entries foreign unused later] at named
  exact ⟨earlier, (Option.some.inj named).symm⟩

end Files

/--
Packages keep their names whatever is reserved and used.

If the enclosing file gives different packages different names, then after any
operations no two packages have one name, every package still has the name that it
got first, and new names avoid what was reserved before them.
-/
theorem run_keepsNames
    (entries : List Import)
    (distinct : ((Import.firstOfEachPath entries).map Import.name).Nodup)
    (operations : List Operation) :
    KeepsNames entries operations where
  apart := (ofImports_namesApart distinct).after operations
  isName_iff := by
    intro name
    rw [isName, List.contains_iff_mem, mem_names_iff]
  known_iff := isSome_nameOf?_run entries operations
  stable := by
    rintro earlier later path name rfl named
    rw [run, after_append]
    exact nameOf?_after named later
  seeded := by
    intro entry isFirst
    apply nameOf?_after
    rw [nameOf?_ofImports, Import.mem_firstOfEachPath_iff.mp isFirst, Option.map_some]
  fresh := by
    rintro earlier path later rfl foreign unused
    obtain ⟨name, named, free⟩ := exists_fresh_run entries foreign unused later
    simp only [takenNames, List.mem_append, not_or] at free
    obtain ⟨⟨unreserved, _⟩, available⟩ := free
    rw [← List.contains_iff_mem, ← Identifier.isReserved,
      Identifier.isReserved_iff] at unreserved
    simp only [not_or, Bool.not_eq_true] at unreserved
    obtain ⟨notErr, notBlank, notKeyword, notPredeclared⟩ := unreserved
    exact ⟨name, named, notKeyword, notPredeclared, notErr, notBlank,
      fun reserves => available (mem_reserved_run entries reserves)⟩
  listed_iff := by
    intro entry
    rw [mem_listed_iff, uses_run]
  once := nodup_map_path_listed _
  ordered := listed_pairwise _

namespace Logging

/-- A file that knows `q` as `log`, and imports `q` again under another name. -/
def entries : List Import :=
  [{ path := "q", name := "log" }, { path := "q", name := "journal" }]

/-- Two packages that would be called `log` are used, and `log2` is reserved in between. -/
def operations : List Operation :=
  [.use "log", .reserve "log2", .use "example.com/log", .use "q", .use "log"]

end Logging

/-- The file keeps `log` for its own package, and of the two new packages one only may be `log2`. -/
theorem run_keepsNames_logging :
    ((Import.firstOfEachPath Logging.entries).map Import.name).Nodup ∧
      KeepsNames Logging.entries Logging.operations ∧
      { path := "q", name := "log" } ∈ (run Logging.entries Logging.operations).listed ∧
      { path := "log", name := "log2" } ∈ (run Logging.entries Logging.operations).listed ∧
      { path := "example.com/log", name := "log3" } ∈
        (run Logging.entries Logging.operations).listed := by
  have distinct : ((Import.firstOfEachPath Logging.entries).map Import.name).Nodup := by decide
  have keeps := run_keepsNames Logging.entries distinct Logging.operations
  exact ⟨distinct, keeps,
    (keeps.listed_iff _).mpr ⟨by decide, by decide +kernel⟩,
    (keeps.listed_iff _).mpr ⟨by decide, by decide +kernel⟩,
    (keeps.listed_iff _).mpr ⟨by decide, by decide +kernel⟩⟩

end ImportTable

end Wiring
