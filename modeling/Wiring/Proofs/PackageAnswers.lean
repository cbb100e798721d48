import Wiring.Lookup.PackageSearch
import Wiring.Proofs.IdentityText
import Wiring.Blueprint.Scope

namespace Wiring

/-!
# What a search of packages answers

A search answers with a symbol of the package that the wanted type belongs to: a
function whose last result that is no error has the wanted name and import path,
the record type of the wanted name, or the alias of that name. What is provided
is therefore of the wanted type, apart from its pointer mark and its shape, and
what is needed for it is written in the package.
-/

namespace PackageSearch

/-- The result that is provided is not an error. -/
theorem output_isError_of_splitOutput?
    {results leading trailing : List NamedType}
    {output : NamedType}
    (found : splitOutput? results = some (leading, output, trailing)) :
    output.isError = false := by
  induction results generalizing leading with
  | nil =>
      simp [splitOutput?] at found
  | cons result rest inductionHypothesis =>
      simp only [splitOutput?] at found
      split at found
      · rename_i later foundLater
        cases found
        exact inductionHypothesis foundLater
      · split at found
        · cases found
        · rename_i noError
          cases found
          exact Bool.eq_false_iff.mpr noError

/-- The forms of a successful answer about a wanted type. -/
inductive Answers
    (search : PackageSearch)
    (wanted : NamedType) : Recipe → Prop where
  | call
      {package : Package}
      {function : Package.Func}
      {leading trailing : List NamedType}
      {output : NamedType}
      (located : search.packages.get? wanted.importPath = some package)
      (declared : function ∈ package.functions)
      (provides : splitOutput? function.results = some (leading, output, trailing))
      (samePath : output.importPath = wanted.importPath)
      (sameName : output.name = wanted.name) :
      Answers search wanted
        (.call {
          importPath := package.importPath
          name := function.name
          params := requiredParams function
          leading
          output
          trailing })
  | literal
      {package : Package}
      {struct : Package.Struct}
      (located : search.packages.get? wanted.importPath = some package)
      (declared : struct ∈ package.structs)
      (sameName : struct.name = wanted.name) :
      Answers search wanted
        (.literal (Record.ofFields wanted (search.filledFields package struct)))
  | forward
      {package : Package}
      {declared : Package.Alias}
      (located : search.packages.get? wanted.importPath = some package)
      (listed : declared ∈ package.aliases)
      (sameName : declared.name = wanted.name) :
      Answers search wanted
        (.forward {
          importPath := package.importPath
          name := declared.name
          target :=
            if wanted.pointer then declared.target.toPointer else declared.target })

section Found

variable {search : PackageSearch} {package : Package} {wanted : NamedType} {recipe : Recipe}

/-- A function that answers has passed every check, and answers with a call. -/
theorem tryFunction_ok_cases
    {function : Package.Func}
    (found : search.tryFunction package wanted function = some (.ok recipe)) :
    ∃ leading output trailing,
      function.receiver = none ∧
        splitOutput? function.results = some (leading, output, trailing) ∧
        output.name = wanted.name ∧
        output.importPath = wanted.importPath ∧
        (output.importPath = "" → output.kind = .builtin) ∧
        search.sees package function.name = true ∧
        (∀ type ∈ requiredParams function, type.isBuiltin = false) ∧
        recipe =
          .call {
            importPath := package.importPath
            name := function.name
            params := requiredParams function
            leading
            output
            trailing } := by
  simp only [tryFunction] at found
  split at found
  · rename_i leading output trailing noReceiver provides
    by_cases sameName : output.name = wanted.name
    · by_cases samePath : output.importPath = wanted.importPath
      · simp only [sameName, samePath, ne_eq, not_true_eq_false, if_false] at found
        repeat' split at found
        all_goals cases found
        rename_i clear seen noBuiltin
        rw [Bool.not_eq_true, List.any_eq_false] at noBuiltin
        refine ⟨leading, output, trailing, noReceiver, provides, sameName, samePath,
          fun isEmpty => ?_, Bool.not_eq_false _ ▸ seen,
          fun type required => Bool.eq_false_iff.mpr (noBuiltin type required), rfl⟩
        exact not_not.mp fun notBuiltin => clear ⟨samePath ▸ isEmpty, notBuiltin⟩
      · simp only [sameName, samePath, ne_eq, not_true_eq_false, not_false_eq_true,
          if_false, if_true] at found
        split at found <;> cases found
    · simp [sameName] at found
  · cases found

/-- A record type that answers has the wanted name and is seen, and answers with a literal. -/
theorem tryStruct_ok_cases
    {struct : Package.Struct}
    (found : search.tryStruct package wanted struct = some (.ok recipe)) :
    struct.name = wanted.name ∧
      search.sees package struct.name = true ∧
      recipe =
        .literal (Record.ofFields wanted (search.filledFields package struct)) := by
  simp only [tryStruct] at found
  split at found
  · rename_i fits
    cases found
    exact ⟨fits.1, fits.2, rfl⟩
  · cases found

/-- An alias that answers has the wanted name and is seen, and answers with its target. -/
theorem tryAlias_ok_cases
    {declared : Package.Alias}
    (found : search.tryAlias package wanted declared = some (.ok recipe)) :
    declared.name = wanted.name ∧
      search.sees package declared.name = true ∧
      recipe =
        .forward {
          importPath := package.importPath
          name := declared.name
          target :=
            if wanted.pointer then declared.target.toPointer else declared.target } := by
  simp only [tryAlias] at found
  split at found
  · rename_i fits
    cases found
    exact ⟨fits.1, fits.2, rfl⟩
  · cases found

/-- A successful search has come upon a symbol that answers. -/
theorem exists_symbol_of_lookup
    (found : search.lookup wanted = .ok recipe) :
    ∃ package,
      search.packages.get? wanted.importPath = some package ∧
        ((∃ function ∈ package.functions,
            search.tryFunction package wanted function = some (.ok recipe)) ∨
          (∃ struct ∈ package.structs,
            search.tryStruct package wanted struct = some (.ok recipe)) ∨
          ∃ declared ∈ package.aliases,
            search.tryAlias package wanted declared = some (.ok recipe)) := by
  simp only [lookup, PackageIndex.packageAt] at found
  split at found
  · cases found
  · split at found
    · cases found
    · rename_i package isPackage
      have located : search.packages.get? wanted.importPath = some package := by
        split at isPackage <;> cases isPackage
        assumption
      refine ⟨package, located, ?_⟩
      split at found
      · rename_i answer answered
        subst found
        simp only [firstAnswer?] at answered
        split at answered
        · rename_i fromFunction
          cases answered
          exact .inl (List.exists_of_findSome?_eq_some fromFunction)
        · split at answered
          · rename_i fromStruct
            cases answered
            exact .inr (.inl (List.exists_of_findSome?_eq_some fromStruct))
          · exact .inr (.inr (List.exists_of_findSome?_eq_some answered))
      · cases found

/-- A successful search answers in one of these forms. -/
theorem answers_of_lookup
    (found : search.lookup wanted = .ok recipe) :
    search.Answers wanted recipe := by
  obtain ⟨package, located, symbol⟩ := exists_symbol_of_lookup found
  rcases symbol with
    ⟨function, declared, tried⟩ | ⟨struct, declared, tried⟩ | ⟨declared, listed, tried⟩
  · obtain ⟨leading, output, trailing, _, provides, sameName, samePath, _, _, _, rfl⟩ :=
      tryFunction_ok_cases tried
    exact .call located declared provides samePath sameName
  · obtain ⟨sameName, _, rfl⟩ := tryStruct_ok_cases tried
    exact .literal located declared sameName
  · obtain ⟨sameName, _, rfl⟩ := tryAlias_ok_cases tried
    exact .forward located listed sameName

end Found

end PackageSearch

namespace NamedType

/-- Types without quotes and of one identity are the same up to pointer mark and shape. -/
theorem reference_eq_of_identity_eq
    {type other : NamedType}
    (unquoted : type.Unquoted)
    (otherUnquoted : other.Unquoted)
    (same : type.identity = other.identity) :
    type.reference = other.reference := by
  obtain ⟨samePath, sameName⟩ := (identity_eq_iff unquoted otherUnquoted).mp same
  simp [reference, samePath, sameName]

/-- Whether quotes blur an identity is a matter of the import path and the name. -/
theorem Unquoted.of_reference_eq
    {type other : NamedType}
    (unquoted : type.Unquoted)
    (same : other.reference = type.reference) :
    other.Unquoted := by
  simp only [reference, Reference.mk.injEq] at same
  exact ⟨same.1 ▸ unquoted.path, same.2 ▸ unquoted.name⟩

end NamedType

/-- The identity of the types that are mentioned in this way. -/
def Reference.identity (reference : Reference) : String :=
  NamedType.identity
    { importPath := reference.importPath
      name := reference.name
      pointer := false
      kind := .unknown }

namespace NamedType

@[simp] theorem identity_reference
    (type : NamedType) :
    type.reference.identity = type.identity :=
  rfl

/-- A type has no quotes, if its identity is one of those that are to be clear. -/
def ClearFor
    (clear : String → Prop)
    (type : NamedType) : Prop :=
  clear type.identity → type.Unquoted

variable {clear : String → Prop}

/-- A type without quotes is clear for any identities. -/
theorem Unquoted.clearFor
    {type : NamedType}
    (unquoted : type.Unquoted) :
    type.ClearFor clear :=
  fun _ => unquoted

/-- Whether a type is clear is a matter of the import path and the name. -/
theorem ClearFor.of_reference_eq
    {type other : NamedType}
    (isClear : type.ClearFor clear)
    (same : other.reference = type.reference) :
    other.ClearFor clear := by
  have sameIdentity : other.identity = type.identity := by
    rw [← identity_reference, same, identity_reference]
  exact fun asked => (isClear (sameIdentity ▸ asked)).of_reference_eq same

/-- Types of one clear identity are the same up to pointer mark and shape. -/
theorem ClearFor.reference_eq
    {type other : NamedType}
    (isClear : type.ClearFor clear)
    (otherClear : other.ClearFor clear)
    (same : type.identity = other.identity)
    (asked : clear other.identity) :
    type.reference = other.reference :=
  reference_eq_of_identity_eq (isClear (same ▸ asked)) (otherClear asked) same

end NamedType

namespace Need

/-- The types that a need speaks of. -/
def types : Need → List NamedType
  | .named type => [type]
  | .record listed => listed.type :: listed.fields.map Field.type
  | .error => [NamedType.error]

/-- No type that the need speaks of has a quote. -/
def Unquoted (need : Need) : Prop :=
  ∀ type ∈ need.types, type.Unquoted

@[simp] theorem unquoted_named
    {type : NamedType} :
    (Need.named type).Unquoted ↔ type.Unquoted := by
  simp [Unquoted, types]

/-- Every type that the need speaks of is clear. -/
def ClearFor
    (clear : String → Prop)
    (need : Need) : Prop :=
  ∀ type ∈ need.types, type.ClearFor clear

variable {clear : String → Prop}

/-- A need without quotes is clear for any identities. -/
theorem Unquoted.clearFor
    {need : Need}
    (unquoted : need.Unquoted) :
    need.ClearFor clear :=
  fun type listed => (unquoted type listed).clearFor

@[simp] theorem clearFor_named
    {type : NamedType} :
    (Need.named type).ClearFor clear ↔ type.ClearFor clear := by
  simp [ClearFor, types]

/-- The wanted type is one of those that a need speaks of. -/
theorem ClearFor.wanted
    {need : Need}
    (isClear : need.ClearFor clear) :
    need.wanted.ClearFor clear := by
  apply isClear
  cases need <;> simp [Need.wanted, types]

end Need

namespace Package

/-- The types that a package needs for parameters, fields and aliases. -/
def neededTypes (package : Package) : List NamedType :=
  package.functions.flatMap (fun function => function.params.map Param.type)
    ++ package.structs.flatMap (fun struct => struct.fields.map Field.type)
    ++ package.aliases.map Alias.target

variable {package : Package}

theorem mem_neededTypes_of_param
    {function : Func}
    (declared : function ∈ package.functions)
    {param : Param}
    (listed : param ∈ function.params) :
    param.type ∈ package.neededTypes := by
  simp only [neededTypes, List.mem_append, List.mem_flatMap, List.mem_map]
  exact .inl (.inl ⟨function, declared, param, listed, rfl⟩)

theorem mem_neededTypes_of_field
    {struct : Struct}
    (declared : struct ∈ package.structs)
    {field : Field}
    (listed : field ∈ struct.fields) :
    field.type ∈ package.neededTypes := by
  simp only [neededTypes, List.mem_append, List.mem_flatMap, List.mem_map]
  exact .inl (.inr ⟨struct, declared, field, listed, rfl⟩)

theorem mem_neededTypes_of_alias
    {declared : Alias}
    (listed : declared ∈ package.aliases) :
    declared.target ∈ package.neededTypes := by
  simp only [neededTypes, List.mem_append, List.mem_map]
  exact .inr ⟨declared, listed, rfl⟩

end Package

/-- No type that a package needs has a quote. -/
def PackageIndex.Unquoted (packages : PackageIndex) : Prop :=
  ∀ path package,
    packages.get? path = some package →
    ∀ type ∈ package.neededTypes, type.Unquoted

namespace Recipe

/-- The type of what a recipe makes, unless it uses what another makes. -/
def made? : Recipe → Option NamedType
  | .call function => some function.output
  | .literal record => some record.type
  | .noError => some NamedType.error
  | _ => none

/-- A recipe makes a clear type of the identity, from clear needs. -/
structure Provides
    (clear : String → Prop)
    (identity : String)
    (recipe : Recipe) : Prop where
  made : ∀ type, recipe.made? = some type → type.identity = identity ∧ type.ClearFor clear
  needs : ∀ need ∈ recipe.needs, need.ClearFor clear

end Recipe

/-- Over packages without quotes, an answer makes what is wanted from needs without quotes. -/
theorem PackageSearch.Answers.provides
    {search : PackageSearch}
    (unquoted : search.packages.Unquoted)
    {clear : String → Prop}
    {wanted : NamedType}
    (isClear : wanted.ClearFor clear)
    {recipe : Recipe}
    (answers : search.Answers wanted recipe) :
    recipe.Provides clear wanted.identity := by
  cases answers with
  | @call package function leading trailing output located declared provides samePath sameName =>
      have sameReference : output.reference = wanted.reference := by
        simp [NamedType.reference, samePath, sameName]
      refine ⟨?_, ?_⟩
      · rintro type isMade
        cases isMade
        exact ⟨by simp [NamedType.identity, samePath, sameName],
          isClear.of_reference_eq sameReference⟩
      · intro need member
        obtain ⟨type, required, rfl⟩ := List.mem_map.mp member
        obtain ⟨param, isParam, rfl⟩ := List.mem_map.mp required
        have paramUnquoted :=
          unquoted _ package located _
            (Package.mem_neededTypes_of_param declared (List.mem_filter.mp isParam).1)
        exact Need.clearFor_named.mpr paramUnquoted.clearFor
  | @literal package struct located declared sameName =>
      refine ⟨?_, ?_⟩
      · rintro type isMade
        cases isMade
        exact ⟨rfl, isClear.of_reference_eq rfl⟩
      · intro need member
        obtain ⟨field, isFilled, rfl⟩ := List.mem_map.mp member
        obtain ⟨source, isField, rfl⟩ := List.mem_map.mp isFilled
        have fieldUnquoted :=
          unquoted _ package located _
            (Package.mem_neededTypes_of_field declared (List.mem_filter.mp isField).1)
        exact Need.clearFor_named.mpr fieldUnquoted.clearFor
  | @forward package declared located listed sameName =>
      refine ⟨by simp [Recipe.made?], ?_⟩
      intro need member
      have targetUnquoted :=
        unquoted _ package located _ (Package.mem_neededTypes_of_alias listed)
      obtain rfl := List.mem_singleton.mp member
      apply Need.clearFor_named.mpr
      split
      · exact targetUnquoted.clearFor.of_reference_eq rfl
      · exact targetUnquoted.clearFor

end Wiring
