import Mathlib.Data.List.Basic
import Wiring.Proofs.PackageAnswers

namespace Wiring

/-!
# The order of a search

A search of a package is decided by one symbol. The first function decides that
either returns the wanted type, or would if its result had an import path; without
such a function the first visible record type of the wanted name decides, then the
first visible alias of that name. `PackageSearch.Decides` lists the answers that
follow, and a search gives exactly these.
-/

section First

variable {α β : Type} {property : α → Prop} {answer : α → Option β} {items : List α}

/-- A member of a list has a property that no member before it has. -/
structure IsFirst
    (property : α → Prop)
    (items : List α)
    (item : α) : Prop where
  holds : property item
  stands :
    ∃ before after,
      items = before ++ item :: after ∧ ∀ earlier ∈ before, ¬ property earlier

/-- What is found first is found at the first member with the property that gives answers. -/
theorem findSome?_eq_some_iff_isFirst
    (silent : ∀ item, answer item = none ↔ ¬ property item)
    {found : β} :
    items.findSome? answer = some found ↔
      ∃ item, IsFirst property items item ∧ answer item = some found := by
  rw [List.findSome?_eq_some_iff]
  constructor
  · rintro ⟨before, item, after, split, answered, none⟩
    have holds : property item := by
      by_contra fails
      rw [(silent item).mpr fails] at answered
      cases answered
    exact ⟨item,
      ⟨holds, before, after, split,
        fun earlier member => (silent earlier).mp (none earlier member)⟩,
      answered⟩
  · rintro ⟨item, ⟨_, before, after, split, none⟩, answered⟩
    exact ⟨before, item, after, split, answered,
      fun earlier member => (silent earlier).mpr (none earlier member)⟩

/-- Nothing is found exactly if no member has the property that gives answers. -/
theorem findSome?_eq_none_iff_forall_not
    (silent : ∀ item, answer item = none ↔ ¬ property item) :
    items.findSome? answer = none ↔ ∀ item ∈ items, ¬ property item := by
  simp only [List.findSome?_eq_none_iff, silent]

end First

/-- A function provides the last of its results that is no error: only errors follow it. -/
structure Package.Func.Provides
    (function : Package.Func)
    (leading : List NamedType)
    (output : NamedType)
    (trailing : List NamedType) : Prop where
  results : function.results = leading ++ output :: trailing
  notError : output.isError = false
  onlyErrors : ∀ result ∈ trailing, result.isError = true

namespace PackageSearch

section Outputs

variable {results leading trailing : List NamedType} {output : NamedType}

/-- A list of errors has no result to split at. -/
theorem splitOutput?_of_onlyErrors
    (onlyErrors : ∀ result ∈ results, result.isError = true) :
    splitOutput? results = none := by
  induction results with
  | nil =>
      rfl
  | cons result rest inductionHypothesis =>
      obtain ⟨isError, restErrors⟩ := List.forall_mem_cons.mp onlyErrors
      simp only [splitOutput?, inductionHypothesis restErrors, isError, if_true]

/-- A list that is not split holds errors only. -/
theorem onlyErrors_of_splitOutput?
    (unsplit : splitOutput? results = none) :
    ∀ result ∈ results, result.isError = true := by
  induction results with
  | nil =>
      simp
  | cons result rest inductionHypothesis =>
      simp only [splitOutput?] at unsplit
      split at unsplit
      · cases unsplit
      · rename_i restUnsplit
        split at unsplit
        · rename_i isError
          exact List.forall_mem_cons.mpr ⟨isError, inductionHypothesis restUnsplit⟩
        · cases unsplit

/-- A result list is split at the result that only errors follow. -/
theorem splitOutput?_append
    (leading : List NamedType)
    (notError : output.isError = false)
    (onlyErrors : ∀ result ∈ trailing, result.isError = true) :
    splitOutput? (leading ++ output :: trailing) = some (leading, output, trailing) := by
  induction leading with
  | nil =>
      simp only [List.nil_append, splitOutput?, splitOutput?_of_onlyErrors onlyErrors, notError,
        Bool.false_eq_true, if_false]
  | cons result rest inductionHypothesis =>
      simp only [List.cons_append, splitOutput?, inductionHypothesis]

/-- Splitting a result list loses nothing, and leaves only errors behind the split. -/
theorem provides_of_splitOutput?
    (found : splitOutput? results = some (leading, output, trailing)) :
    results = leading ++ output :: trailing ∧ ∀ result ∈ trailing, result.isError = true := by
  induction results generalizing leading with
  | nil =>
      cases found
  | cons result rest inductionHypothesis =>
      simp only [splitOutput?] at found
      split at found
      · rename_i later
        cases found
        obtain ⟨whole, onlyErrors⟩ := inductionHypothesis later
        exact ⟨by rw [whole, List.cons_append], onlyErrors⟩
      · rename_i unsplit
        split at found
        · cases found
        · cases found
          exact ⟨rfl, onlyErrors_of_splitOutput? unsplit⟩

/-- A function is split where it provides a result. -/
theorem splitOutput?_eq_some_iff_provides
    {function : Package.Func} :
    splitOutput? function.results = some (leading, output, trailing) ↔
      function.Provides leading output trailing := by
  constructor
  · intro found
    obtain ⟨whole, onlyErrors⟩ := provides_of_splitOutput? found
    exact ⟨whole, output_isError_of_splitOutput? found, onlyErrors⟩
  · rintro ⟨whole, notError, onlyErrors⟩
    rw [whole, splitOutput?_append leading notError onlyErrors]

end Outputs

/-- A name of a package is visible: anywhere, in the package itself, or because it is exported. -/
def Visible
    (search : PackageSearch)
    (package : Package)
    (name : String) : Prop :=
  ∀ viewpoint,
    search.viewpoint = some viewpoint →
    viewpoint = package.importPath ∨ Identifier.isExported name = true

/-- A search sees the visible names. -/
theorem sees_iff_visible
    {search : PackageSearch}
    {package : Package}
    {name : String} :
    search.sees package name = true ↔ search.Visible package name := by
  unfold sees Visible
  cases search.viewpoint with
  | none =>
      simp
  | some viewpoint =>
      simp

instance
    (search : PackageSearch)
    (package : Package)
    (name : String) :
    Decidable (search.Visible package name) :=
  decidable_of_iff _ sees_iff_visible

/-- A free function fits a wanted type: it returns it, is visible and needs nothing builtin. -/
structure Fits
    (search : PackageSearch)
    (package : Package)
    (wanted : NamedType)
    (function : Package.Func)
    (leading : List NamedType)
    (output : NamedType)
    (trailing : List NamedType) : Prop where
  free : function.receiver = none
  provides : function.Provides leading output trailing
  sameName : output.name = wanted.name
  samePath : output.importPath = wanted.importPath
  visible : search.Visible package function.name
  clear : ∀ param ∈ function.params, param.variadic = false → param.type.isBuiltin = false

/-- A free function returns the wanted name as a type of no package, but not as a builtin one. -/
structure IsBroken
    (wanted : NamedType)
    (function : Package.Func)
    (output : NamedType) : Prop where
  free : function.receiver = none
  provides : ∃ leading trailing, function.Provides leading output trailing
  sameName : output.name = wanted.name
  noPath : output.importPath = ""
  notBuiltin : output.kind ≠ .builtin

/-- A function has something to say about a wanted type: it fits or is broken. -/
def Speaks
    (search : PackageSearch)
    (package : Package)
    (wanted : NamedType)
    (function : Package.Func) : Prop :=
  (∃ leading output trailing, search.Fits package wanted function leading output trailing) ∨
    ∃ output, IsBroken wanted function output

/-- A record type or an alias has the wanted name and is visible. -/
def Named
    (search : PackageSearch)
    (package : Package)
    (wanted : NamedType)
    (name : String) : Prop :=
  name = wanted.name ∧ search.Visible package name

/-- The answers of a search of a package about a wanted type, by the symbol that decides. -/
inductive Decides
    (search : PackageSearch)
    (package : Package)
    (wanted : NamedType) : Except LookupError Recipe → Prop where
  | broken
      {function : Package.Func}
      {output : NamedType}
      (first : IsFirst (search.Speaks package wanted) package.functions function)
      (isBroken : IsBroken wanted function output) :
      Decides search package wanted
        (.error (.malformed wanted.identity (unclearImportPath output function)))
  | call
      {function : Package.Func}
      {leading trailing : List NamedType}
      {output : NamedType}
      (first : IsFirst (search.Speaks package wanted) package.functions function)
      (fits : search.Fits package wanted function leading output trailing) :
      Decides search package wanted
        (.ok (.call {
          importPath := package.importPath
          name := function.name
          params :=
            (function.params.filter (fun param => !param.variadic)).map Package.Param.type
          leading
          output
          trailing }))
  | literal
      {struct : Package.Struct}
      (noFunction : ∀ function ∈ package.functions, ¬ search.Speaks package wanted function)
      (first :
        IsFirst (fun struct : Package.Struct => search.Named package wanted struct.name)
          package.structs struct) :
      Decides search package wanted
        (.ok (.literal {
          type := wanted.withKind .struct
          fields :=
            (struct.fields.filter fun field =>
                decide (field.type.isBuiltin = false ∧ search.Visible package field.key)).map
              fun field => { name := field.name.getD field.type.name, type := field.type } }))
  | forward
      {declared : Package.Alias}
      (noFunction : ∀ function ∈ package.functions, ¬ search.Speaks package wanted function)
      (noStruct : ∀ struct ∈ package.structs, ¬ search.Named package wanted struct.name)
      (first :
        IsFirst (fun declared : Package.Alias => search.Named package wanted declared.name)
          package.aliases declared) :
      Decides search package wanted
        (.ok (.forward {
          importPath := package.importPath
          name := declared.name
          target :=
            { declared.target with pointer := declared.target.pointer || wanted.pointer } }))
  | notFound
      (noFunction : ∀ function ∈ package.functions, ¬ search.Speaks package wanted function)
      (noStruct : ∀ struct ∈ package.structs, ¬ search.Named package wanted struct.name)
      (noAlias : ∀ declared ∈ package.aliases, ¬ search.Named package wanted declared.name) :
      Decides search package wanted
        (.error (.notFound wanted.identity
          (if wanted.name ∈ package.interfaces then some interfaceHint else none)))

section Candidates

variable {search : PackageSearch} {package : Package} {wanted : NamedType}

/-- A fitting function answers with a call of itself. -/
theorem Fits.tryFunction_eq
    (inPackage : wanted.isBuiltin = false)
    {function : Package.Func}
    {leading trailing : List NamedType}
    {output : NamedType}
    (fits : search.Fits package wanted function leading output trailing) :
    search.tryFunction package wanted function =
      some (.ok (.call {
        importPath := package.importPath
        name := function.name
        params := requiredParams function
        leading
        output
        trailing })) := by
  have hasPath : wanted.importPath ≠ "" := by
    intro noPath
    rw [NamedType.isBuiltin, noPath] at inPackage
    cases inPackage
  have clear : (requiredParams function).any NamedType.isBuiltin = false := by
    simp only [requiredParams, List.any_map, List.any_filter, List.any_eq_false]
    intro param member
    cases variadic : param.variadic with
    | true =>
        simp
    | false =>
        simpa using fits.clear param member variadic
  simp only [tryFunction, fits.free, splitOutput?_eq_some_iff_provides.mpr fits.provides,
    fits.sameName, fits.samePath, ne_eq, not_true_eq_false, hasPath, false_and, if_false,
    sees_iff_visible.mpr fits.visible, clear, Bool.true_eq_false, Bool.false_eq_true]

/-- A broken function answers that its result has no import path. -/
theorem IsBroken.tryFunction_eq
    {function : Package.Func}
    {output : NamedType}
    (broken : IsBroken wanted function output) :
    search.tryFunction package wanted function =
      some (.error (.malformed wanted.identity (unclearImportPath output function))) := by
  obtain ⟨leading, trailing, provides⟩ := broken.provides
  simp only [tryFunction, broken.free, splitOutput?_eq_some_iff_provides.mpr provides,
    broken.sameName, ne_eq, not_true_eq_false, if_false,
    if_pos (⟨broken.noPath, broken.notBuiltin⟩ : output.importPath = "" ∧ output.kind ≠ .builtin)]

/-- A function says nothing exactly if it neither fits nor is broken. -/
theorem tryFunction_eq_none_iff
    (search : PackageSearch)
    (package : Package)
    (inPackage : wanted.isBuiltin = false)
    (function : Package.Func) :
    search.tryFunction package wanted function = none ↔
      ¬ search.Speaks package wanted function := by
  constructor
  · rintro silent (⟨leading, output, trailing, fits⟩ | ⟨output, broken⟩)
    · rw [fits.tryFunction_eq inPackage] at silent
      cases silent
    · rw [broken.tryFunction_eq] at silent
      cases silent
  · intro mute
    by_contra speaks
    obtain ⟨answer, answered⟩ := Option.ne_none_iff_exists'.mp speaks
    apply mute
    cases answer with
    | ok recipe =>
        obtain ⟨leading, output, trailing, free, provides, sameName, samePath, _, seen,
          noBuiltin, _⟩ := tryFunction_ok_cases answered
        refine .inl ⟨leading, output, trailing, free,
          splitOutput?_eq_some_iff_provides.mp provides, sameName, samePath,
          sees_iff_visible.mp seen, fun param member required => ?_⟩
        exact noBuiltin _ (List.mem_map_of_mem (List.mem_filter.mpr ⟨member, by simp [required]⟩))
    | error failure =>
        simp only [tryFunction] at answered
        split at answered
        · rename_i leading output trailing free provides
          repeat' split at answered
          all_goals try cases answered
          rename_i sameName noPath
          have split := splitOutput?_eq_some_iff_provides.mp provides
          exact .inr
            ⟨output, free, ⟨leading, trailing, split⟩, not_not.mp sameName, noPath.1, noPath.2⟩
        · cases answered

/-- The fields that a literal fills are the visible ones that are not builtin, in order. -/
theorem filledFields_eq
    (struct : Package.Struct) :
    search.filledFields package struct =
      (struct.fields.filter fun field =>
          decide (field.type.isBuiltin = false ∧ search.Visible package field.key)).map
        fun field => { name := field.name.getD field.type.name, type := field.type } := by
  unfold filledFields
  congr 2
  funext field
  rw [Bool.eq_iff_iff, decide_eq_true_iff, ← sees_iff_visible, Bool.and_eq_true,
    Bool.not_eq_true']

/-- A visible record type of the wanted name answers with a literal. -/
theorem tryStruct_of_named
    {struct : Package.Struct}
    (named : search.Named package wanted struct.name) :
    search.tryStruct package wanted struct =
      some (.ok (.literal (Record.ofFields wanted (search.filledFields package struct)))) :=
  if_pos ⟨named.1, sees_iff_visible.mpr named.2⟩

/-- A record type says nothing exactly if it has another name or is not visible. -/
theorem tryStruct_eq_none_iff
    (struct : Package.Struct) :
    search.tryStruct package wanted struct = none ↔
      ¬ search.Named package wanted struct.name := by
  simp [tryStruct, Named, sees_iff_visible]

/-- A visible alias of the wanted name answers with its target, or with the pointer to it. -/
theorem tryAlias_of_named
    {declared : Package.Alias}
    (named : search.Named package wanted declared.name) :
    search.tryAlias package wanted declared =
      some (.ok (.forward {
        importPath := package.importPath
        name := declared.name
        target :=
          { declared.target with pointer := declared.target.pointer || wanted.pointer } })) := by
  rw [tryAlias, if_pos ⟨named.1, sees_iff_visible.mpr named.2⟩]
  cases wanted.pointer <;> simp [NamedType.toPointer]

/-- An alias says nothing exactly if it has another name or is not visible. -/
theorem tryAlias_eq_none_iff
    (declared : Package.Alias) :
    search.tryAlias package wanted declared = none ↔
      ¬ search.Named package wanted declared.name := by
  simp [tryAlias, Named, sees_iff_visible]

end Candidates

section Order

variable {search : PackageSearch} {package : Package} {wanted : NamedType}

/-- The hint about a type is the one for interfaces, if the package declares such an interface. -/
theorem hint_eq
    (package : Package)
    (name : String) :
    (if package.hasInterface name then some interfaceHint else none) =
      if name ∈ package.interfaces then some interfaceHint else none := by
  simp only [Package.hasInterface, List.contains_iff_mem]

/-- What a search of a package answers is decided by one of its symbols, or by none. -/
theorem decides_lookup
    (inPackage : wanted.isBuiltin = false)
    (located : search.packages.packageAt wanted.importPath = .ok package) :
    search.Decides package wanted (search.lookup wanted) := by
  have functions := search.tryFunction_eq_none_iff package inPackage
  simp only [lookup, inPackage, Bool.false_eq_true, if_false, located, firstAnswer?]
  cases fromFunction : package.functions.findSome? (search.tryFunction package wanted) with
  | some answer =>
      obtain ⟨function, first, answered⟩ :=
        (findSome?_eq_some_iff_isFirst functions).mp fromFunction
      rcases first.holds with ⟨leading, output, trailing, fits⟩ | ⟨output, broken⟩
      · rw [fits.tryFunction_eq inPackage] at answered
        cases answered
        exact .call first fits
      · rw [broken.tryFunction_eq] at answered
        cases answered
        exact .broken first broken
  | none =>
      have noFunction := (findSome?_eq_none_iff_forall_not functions).mp fromFunction
      cases fromStruct : package.structs.findSome? (search.tryStruct package wanted) with
      | some answer =>
          obtain ⟨struct, first, answered⟩ :=
            (findSome?_eq_some_iff_isFirst tryStruct_eq_none_iff).mp fromStruct
          rw [tryStruct_of_named first.holds, filledFields_eq] at answered
          cases answered
          exact .literal noFunction first
      | none =>
          have noStruct := (findSome?_eq_none_iff_forall_not tryStruct_eq_none_iff).mp fromStruct
          cases fromAlias : package.aliases.findSome? (search.tryAlias package wanted) with
          | some answer =>
              obtain ⟨declared, first, answered⟩ :=
                (findSome?_eq_some_iff_isFirst tryAlias_eq_none_iff).mp fromAlias
              rw [tryAlias_of_named first.holds] at answered
              cases answered
              exact .forward noFunction noStruct first
          | none =>
              simp only [hint_eq]
              exact .notFound noFunction noStruct
                ((findSome?_eq_none_iff_forall_not tryAlias_eq_none_iff).mp fromAlias)

/-- What a symbol decides, or the lack of one, is what a search of the package answers. -/
theorem Decides.lookup_eq
    (inPackage : wanted.isBuiltin = false)
    (located : search.packages.packageAt wanted.importPath = .ok package)
    {answer : Except LookupError Recipe}
    (decides : search.Decides package wanted answer) :
    search.lookup wanted = answer := by
  have functions := search.tryFunction_eq_none_iff package inPackage
  have silent
      (noFunction : ∀ function ∈ package.functions, ¬ search.Speaks package wanted function) :=
    (findSome?_eq_none_iff_forall_not functions).mpr noFunction
  simp only [lookup, inPackage, Bool.false_eq_true, if_false, located, firstAnswer?]
  cases decides with
  | broken first isBroken =>
      rw [(findSome?_eq_some_iff_isFirst functions).mpr ⟨_, first, isBroken.tryFunction_eq⟩]
  | call first fits =>
      rw [(findSome?_eq_some_iff_isFirst functions).mpr
        ⟨_, first, fits.tryFunction_eq inPackage⟩]
      rfl
  | literal noFunction first =>
      rw [silent noFunction, (findSome?_eq_some_iff_isFirst tryStruct_eq_none_iff).mpr
        ⟨_, first, tryStruct_of_named first.holds⟩, filledFields_eq]
      rfl
  | forward noFunction noStruct first =>
      rw [silent noFunction, (findSome?_eq_none_iff_forall_not tryStruct_eq_none_iff).mpr noStruct,
        (findSome?_eq_some_iff_isFirst tryAlias_eq_none_iff).mpr
          ⟨_, first, tryAlias_of_named first.holds⟩]
  | notFound noFunction noStruct noAlias =>
      rw [silent noFunction, (findSome?_eq_none_iff_forall_not tryStruct_eq_none_iff).mpr noStruct,
        (findSome?_eq_none_iff_forall_not tryAlias_eq_none_iff).mpr noAlias]
      simp only [hint_eq]

end Order

/--
A search answers about a type of a package exactly what its first deciding symbol says.

Functions come before record types and record types before aliases, and a function
that would fit but for its result's import path decides as well. A search never
answers that a single candidate does not fit.
-/
theorem lookup_eq_iff_decides
    {search : PackageSearch}
    {package : Package}
    {wanted : NamedType}
    (inPackage : wanted.isBuiltin = false)
    (located : search.packages.packageAt wanted.importPath = .ok package) :
    (∀ answer, search.lookup wanted = answer ↔ search.Decides package wanted answer) ∧
      search.lookup wanted ≠ .error .noMatch := by
  refine ⟨fun answer => ⟨?_, fun decides => decides.lookup_eq inPackage located⟩, ?_⟩
  · rintro rfl
    exact decides_lookup inPackage located
  · intro noMatch
    have decides := decides_lookup inPackage located
    rw [noMatch] at decides
    nomatch decides

end PackageSearch

namespace Registry

/-- A type of the package `p`. -/
def named (name : String) : NamedType :=
  NamedType.ofText "p" name

/-- A free function of the package. -/
def function
    (name : String)
    (params : List Package.Param)
    (results : List NamedType) :
    Package.Func where
  name
  receiver := none
  params
  results

/-- A parameter without a name. -/
def param
    (type : NamedType)
    (variadic : Bool) :
    Package.Param where
  name := none
  type
  variadic

/-- The call that opens a store. -/
def opened : Constructor where
  importPath := "p"
  name := "Open"
  params := [named "Config"]
  leading := [named "Log"]
  output := (named "Store").toPointer
  trailing := [NamedType.error]

/--
Before the function that opens a store stand a method, a hidden function, one that
needs a number and one that returns another type, and behind it a broken one.
-/
def package : Package where
  importPath := "p"
  name := "p"
  functions :=
    [{ function "Clone" [] [NamedType.ofText "" "Store"] with
        receiver := some (named "Store") },
      function "open" [] [named "Store"],
      function "OpenSized" [param (NamedType.builtin "int") false] [named "Store"],
      function "OpenBoth" [] [named "Store", named "Log"],
      function "Open" [param (named "Config") false, param (NamedType.builtin "string") true]
        opened.results,
      function "make" [] [NamedType.ofText "" "Store"]]
  structs := [{ name := "Store", fields := [] }]
  aliases := []
  interfaces := []

/-- The search of that package from another one. -/
def search : PackageSearch where
  packages := PackageIndex.ofList [package]
  viewpoint := some "q"

end Registry

/-- The functions before the one that opens the store are passed over, and it decides. -/
theorem PackageSearch.lookup_eq_iff_decides_registry :
    (Registry.named "Store").isBuiltin = false ∧
      Registry.search.packages.packageAt (Registry.named "Store").importPath =
        .ok Registry.package ∧
      Registry.search.lookup (Registry.named "Store") = .ok (.call Registry.opened) ∧
      Registry.search.Decides Registry.package (Registry.named "Store")
        (.ok (.call Registry.opened)) := by
  have inPackage : (Registry.named "Store").isBuiltin = false := by
    decide
  have located :
      Registry.search.packages.packageAt (Registry.named "Store").importPath =
        .ok Registry.package := rfl
  have answered :
      Registry.search.lookup (Registry.named "Store") = .ok (.call Registry.opened) := by
    decide +kernel
  exact ⟨inPackage, located, answered,
    ((PackageSearch.lookup_eq_iff_decides inPackage located).1 _).mp answered⟩

end Wiring
