import Wiring.Proofs.EarlyReturns
import Wiring.Proofs.SmallLetters

namespace Wiring

/-!
# The package clause

A package name that a job gives is checked before anything is resolved; one that
is assumed of the import path is not. Every given name is therefore an
identifier, and an assumed one is whenever its path allows: what remains of the
path's naming part must not be a keyword once lowered, must not start with a
number that is neither a letter nor a decimal digit, and must hold no `İ`.
-/

namespace ImportPath

/-- What remains of a path's naming part, before it is lowered. -/
def nameStem (path : String) : List Char :=
  Identifier.sanitizeChars
    (dropTrailingTag (dropLeadingTag (dropVersion (namingSegment (segments path.toList)))))

/-- What a path must be like for the package name assumed of it to be an identifier. -/
structure NamesPackage (path : String) : Prop where
  undotted : 'İ' ∉ nameStem path
  startsSpelled :
    ∀ first ∈ (nameStem path).head?, Identifier.isStartChar first = true ∨ first.isDigit = true
  notKeyword : Identifier.isKeyword (assumedPackageName path) = false

/-- Only characters that an identifier may hold remain of a path. -/
theorem isBodyChar_of_mem_nameStem
    {path : String}
    {c : Char}
    (member : c ∈ nameStem path) :
    Identifier.isBodyChar c = true :=
  (List.mem_filter.mp member).2

end ImportPath

namespace Identifier

/-- A text is a start character followed by body characters; keywords are such texts as well. -/
structure WellSpelled (text : List Char) : Prop where
  starts : ∃ first ∈ text.head?, isStartChar first = true
  body : ∀ c ∈ text, isBodyChar c = true

/-- A character that can start an identifier can stand inside one. -/
theorem isBodyChar_of_start
    {c : Char}
    (starts : isStartChar c = true) :
    isBodyChar c = true := by
  simp only [isStartChar, Bool.or_eq_true] at starts
  simp only [isBodyChar, Unicode.isAlphanumeric, Bool.or_eq_true]
  exact starts.imp_left .inl

/-- A well-spelled text has a start character and body characters behind it. -/
theorem wellSpelled_cons_iff
    {first : Char}
    {rest : List Char} :
    WellSpelled (first :: rest) ↔
      isStartChar first = true ∧ ∀ c ∈ rest, isBodyChar c = true := by
  constructor
  · rintro ⟨⟨_, ⟨⟩, starts⟩, body⟩
    exact ⟨starts, (List.forall_mem_cons.mp body).2⟩
  · rintro ⟨starts, body⟩
    exact ⟨⟨first, rfl, starts⟩, List.forall_mem_cons.mpr ⟨isBodyChar_of_start starts, body⟩⟩

/-- An identifier is a well-spelled text that is no keyword. -/
theorem isValid_iff
    (text : String) :
    isValid text = true ↔ WellSpelled text.toList ∧ isKeyword text = false := by
  unfold isValid
  cases spelled : text.toList with
  | nil =>
      exact iff_of_false Bool.false_ne_true (fun valid => by simpa using valid.1.starts)
  | cons first rest =>
      simp only [wellSpelled_cons_iff, Bool.and_eq_true, List.all_eq_true, Bool.not_eq_true',
        and_assoc]

end Identifier

/-- A text is lowered to a well-spelled one exactly if it has a good start and no `İ`. -/
theorem Text.wellSpelled_lowercase_iff
    {text : List Char}
    (spelled : ∀ c ∈ text, Identifier.isBodyChar c = true) :
    Identifier.WellSpelled (lowercase text) ↔
      (∃ first ∈ text.head?, Identifier.isStartChar first = true) ∧ 'İ' ∉ text := by
  have sameStart :
      (∃ first ∈ (lowercase text).head?, Identifier.isStartChar first = true) ↔
        ∃ first ∈ text.head?, Identifier.isStartChar first = true := by
    cases text with
    | nil =>
        rfl
    | cons first rest =>
        obtain ⟨form, lowersTo, split⟩ := lowercaseAfter_cons [] rest first
        obtain ⟨lowered, others, rfl, same, -⟩ := lowersTo.exists_head
        rw [lowercase, split]
        simp [same]
  have sameBody := forall_mem_lowercaseAfter_iff spelled []
  exact
    ⟨fun ⟨starts, body⟩ => ⟨sameStart.mp starts, sameBody.mp body⟩,
      fun ⟨starts, undotted⟩ => ⟨sameStart.mpr starts, sameBody.mpr undotted⟩⟩

namespace ImportPath

/-- Whether a name needs `pkg` in front: it is empty or starts with a decimal digit. -/
def needsPrefix : List Char → Bool
  | [] => true
  | first :: _ => first.isDigit

/-- Lowering a text keeps whether it needs a prefix. -/
theorem needsPrefix_lowercase
    (text : List Char) :
    needsPrefix (Text.lowercase text) = needsPrefix text := by
  cases text with
  | nil =>
      rfl
  | cons first rest =>
      obtain ⟨form, lowersTo, split⟩ := Text.lowercaseAfter_cons [] rest first
      obtain ⟨lowered, others, rfl, -, sameDigit⟩ := lowersTo.exists_head
      rw [Text.lowercase, split]
      exact sameDigit

/-- What remains of a path is lowered, with `pkg` in front if that is needed. -/
theorem toList_assumedPackageName
    (path : String) :
    (assumedPackageName path).toList =
      (if needsPrefix (nameStem path) then ['p', 'k', 'g'] else []) ++
        Text.lowercase (nameStem path) := by
  have isName :
      assumedPackageName path =
        if (String.ofList (Text.lowercase (nameStem path))).isEmpty ||
            Identifier.startsWithDigit (String.ofList (Text.lowercase (nameStem path))) then
          "pkg" ++ String.ofList (Text.lowercase (nameStem path))
        else
          String.ofList (Text.lowercase (nameStem path)) :=
    rfl
  rw [isName, ← needsPrefix_lowercase]
  generalize Text.lowercase (nameStem path) = lowered
  cases lowered with
  | nil =>
      rfl
  | cons first rest =>
      have notEmpty : (String.ofList (first :: rest)).isEmpty = false :=
        String.isEmpty_eq_false_iff.mpr fun empty =>
          List.cons_ne_nil first rest (String.ofList_eq_empty_iff.mp empty)
      have startsWithDigit :
          Identifier.startsWithDigit (String.ofList (first :: rest)) = first.isDigit := by
        rw [Identifier.startsWithDigit, String.toList_ofList]
      rw [notEmpty, startsWithDigit, Bool.false_or, needsPrefix]
      cases first.isDigit with
      | true =>
          rw [if_pos rfl, if_pos rfl, String.toList_append, String.toList_ofList,
            String.toList_ofList]
      | false =>
          rw [if_neg Bool.false_ne_true, if_neg Bool.false_ne_true, String.toList_ofList,
            List.nil_append]

/-- What a path must be like for the package name assumed of it to be well spelled. -/
structure SpellsPackage (path : String) : Prop where
  undotted : 'İ' ∉ nameStem path
  startsSpelled :
    ∀ first ∈ (nameStem path).head?, Identifier.isStartChar first = true ∨ first.isDigit = true

/-- A package name assumed of a path is well spelled exactly if what remains of the path is. -/
theorem wellSpelled_assumedPackageName_iff
    (path : String) :
    Identifier.WellSpelled (assumedPackageName path).toList ↔ SpellsPackage path := by
  have spelled (c : Char) (member : c ∈ nameStem path) : Identifier.isBodyChar c = true :=
    isBodyChar_of_mem_nameStem member
  rw [toList_assumedPackageName]
  cases prefixed : needsPrefix (nameStem path) with
  | true =>
      have starts :
          ∀ first ∈ (nameStem path).head?,
            Identifier.isStartChar first = true ∨ first.isDigit = true := by
        intro first isHead
        obtain ⟨rest, stem⟩ := List.head?_eq_some_iff.mp isHead
        rw [stem] at prefixed
        exact .inr prefixed
      have letters : ∀ c ∈ ['k', 'g'], Identifier.isBodyChar c = true :=
        List.all_eq_true.mp (by decide +kernel)
      have body := Text.forall_mem_lowercaseAfter_iff spelled []
      rw [if_pos rfl, List.cons_append, Identifier.wellSpelled_cons_iff]
      constructor
      · rintro ⟨-, rest⟩
        exact ⟨body.mp (List.forall_mem_append.mp rest).2, starts⟩
      · rintro ⟨undotted, -⟩
        exact ⟨by decide +kernel, List.forall_mem_append.mpr ⟨letters, body.mpr undotted⟩⟩
  | false =>
      obtain ⟨first, rest, stem⟩ : ∃ first rest, nameStem path = first :: rest := by
        refine List.exists_cons_of_ne_nil fun empty => ?_
        rw [empty] at prefixed
        cases prefixed
      rw [stem] at prefixed
      have notDigit : first.isDigit ≠ true := Bool.eq_false_iff.mp prefixed
      rw [if_neg Bool.false_ne_true, List.nil_append, Text.wellSpelled_lowercase_iff spelled]
      constructor
      · rintro ⟨⟨head, isHead, starts⟩, undotted⟩
        refine ⟨undotted, fun other isOther => .inl ?_⟩
        rwa [Option.mem_unique isOther isHead]
      · rintro ⟨undotted, startsSpelled⟩
        have isHead : first ∈ (nameStem path).head? := by
          rw [stem]
          rfl
        exact ⟨⟨first, isHead, (startsSpelled first isHead).resolve_right notDigit⟩, undotted⟩

/-- A package name assumed of a path is an identifier exactly if the path allows. -/
theorem isValid_assumedPackageName_iff
    (path : String) :
    Identifier.isValid (assumedPackageName path) = true ↔ NamesPackage path := by
  rw [Identifier.isValid_iff, wellSpelled_assumedPackageName_iff]
  exact
    ⟨fun ⟨spells, notKeyword⟩ => ⟨spells.undotted, spells.startsSpelled, notKeyword⟩,
      fun names => ⟨⟨names.undotted, names.startsSpelled⟩, names.notKeyword⟩⟩

end ImportPath

namespace Job

/-- A package name that a valid job gives is an identifier. -/
theorem isValid_of_package
    {job : Job}
    (valid : job.validate = .ok ())
    {package : String}
    (given : job.package = some package) :
    Identifier.isValid package = true := by
  by_contra invalid
  have rejected :
      job.package.filter (fun package => !Identifier.isValid package) = some package := by
    rw [given, Option.filter_some, if_pos]
    simpa using invalid
  have noProblem := problem?_of_validate valid
  simp only [problem?, rejected] at noProblem
  repeat' split at noProblem
  all_goals cases noProblem

/-- The function of a job is the one that the job asks for. -/
theorem goal_of_blueprintWithin
    {lookup : Lookup}
    {job : Job}
    {limit : Nat}
    {blueprint : Blueprint}
    (accepted : job.blueprintWithin limit lookup = .ok blueprint) :
    blueprint.goal = job.goal := by
  obtain ⟨root, resolved, laid⟩ := blueprintWithin_ok accepted
  obtain ⟨-, -, isLayOut⟩ := Resolution.coherent_of_resolveWithin resolved (job.prepare_cases root)
  obtain ⟨zeros, results, draft, types, _, _, _, rfl⟩ :=
    Blueprint.layOut_eq_ok_iff.mp ((isLayOut _).symm.trans laid)
  rfl

end Job

namespace GeneratedFunction

/-- A file names its package in the line below its header. -/
theorem exists_file_eq
    (generated : GeneratedFunction) :
    ∃ rest,
      generated.file = header ++ "\n\n" ++ "package " ++ generated.package ++ "\n\n" ++ rest := by
  refine ⟨(if Import.block generated.imports = "" then
    "" else Import.block generated.imports ++ "\n") ++ generated.definition, ?_⟩
  simp only [file, String.append_assoc]

end GeneratedFunction

/--
The package clause of a valid job is an identifier exactly if the job gives the
package or the package name assumed of its import path can be one, and it is this
clause that stands in every file generated for the job.
-/
theorem Job.isValid_packageName_iff
    {job : Job}
    (valid : job.validate = .ok ()) :
    (Identifier.isValid job.packageName = true ↔
        job.package.isSome = true ∨ ImportPath.NamesPackage job.importPath) ∧
      ∀ limit lookup blueprint,
        job.blueprintWithin limit lookup = .ok blueprint →
          ∃ rest,
            (GeneratedFunction.ofBlueprint blueprint).file =
              GeneratedFunction.header ++ "\n\n" ++ "package " ++ job.packageName ++ "\n\n" ++
                rest := by
  constructor
  · cases given : job.package with
    | none =>
        rw [packageName, given, Option.getD_none, ImportPath.isValid_assumedPackageName_iff]
        exact (or_iff_right Bool.false_ne_true).symm
    | some package =>
        rw [packageName, given, Option.getD_some]
        exact iff_of_true (isValid_of_package valid given) (.inl rfl)
  · intro limit lookup blueprint accepted
    obtain ⟨rest, isFile⟩ := (GeneratedFunction.ofBlueprint blueprint).exists_file_eq
    refine ⟨rest, isFile.trans ?_⟩
    rw [GeneratedFunction.ofBlueprint, goal_of_blueprintWithin accepted, goal]

/-- The store's package has a name that its path can give. -/
theorem Job.isValid_packageName_storage :
    Storage.job.validate = .ok () ∧
      Identifier.isValid Storage.job.packageName = true ∧
      ∃ blueprint rest,
        Storage.job.blueprintWithin 3 Storage.search.lookup = .ok blueprint ∧
          (GeneratedFunction.ofBlueprint blueprint).file =
            GeneratedFunction.header ++ "\n\n" ++ "package " ++ "p" ++ "\n\n" ++ rest := by
  have valid : Storage.job.validate = .ok () := by
    decide +kernel
  have startsSpelled :
      ∀ first ∈ (ImportPath.nameStem "p").head?,
        Identifier.isStartChar first = true ∨ first.isDigit = true := by
    rw [show ImportPath.nameStem "p" = ['p'] by decide +kernel]
    rintro _ ⟨⟩
    exact .inl (by decide +kernel)
  have namesPackage : ImportPath.NamesPackage "p" :=
    { undotted := by decide +kernel
      startsSpelled
      notKeyword := by decide +kernel }
  obtain ⟨spelled, written⟩ := Job.isValid_packageName_iff valid
  obtain ⟨blueprint, accepted⟩ :
      ∃ blueprint, Storage.job.blueprintWithin 3 Storage.search.lookup = .ok blueprint :=
    ⟨_, rfl⟩
  obtain ⟨rest, isFile⟩ := written 3 Storage.search.lookup blueprint accepted
  exact ⟨valid, spelled.mpr (.inr namesPackage), blueprint, rest, accepted, isFile⟩

/-- A job is misnamed if it is valid, but its package clause is not an identifier. -/
def Job.Misnamed (job : Job) : Prop :=
  job.validate = .ok () ∧ Identifier.isValid job.packageName = false

instance (job : Job) : Decidable job.Misnamed :=
  inferInstanceAs (Decidable (_ ∧ _))

/-- A keyword, a superscript digit and an `İ` get from the import path into the package clause. -/
theorem Job.packageName_not_isValid :
    Job.Misnamed { Storage.job with importPath := "example.com/type" } ∧
      Job.Misnamed { Storage.job with importPath := "example.com/²d" } ∧
      Job.Misnamed { Storage.job with importPath := "example.com/İo" } := by
  decide +kernel

end Wiring
