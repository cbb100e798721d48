import Wiring.Proofs.Emission
import Wiring.Proofs.ImportNames
import Wiring.Proofs.PackageClause

namespace Wiring

/-!
# Names in generated code

Every name of an import, a parameter or a variable is a camel-case or a lowered
text, perhaps with a number behind it, and never a keyword. Whether it is an
identifier is therefore a matter of the text that it is made of: the text must
start as an identifier may start, and no `İ` may be lowered, because the small form
of `İ` carries a mark that no identifier holds.
-/

namespace Unicode

/-- A mapping that neither lists `İ` nor moves a character to it maps only `İ` to `İ`. -/
theorem eq_dotted_of_mem_mapChar
    {expansions : List (Nat × List Nat)}
    {runs : List CaseRun}
    (unlisted :
      (expansions.all fun expansion =>
        expansion.2.all fun code => Char.ofNat code != 'İ') = true)
    (unreached :
      (runs.all fun run => !run.covers (0x130 - run.offset).toNat) = true)
    {c : Char}
    (member : 'İ' ∈ mapChar expansions runs c) :
    c = 'İ' := by
  unfold mapChar at member
  split at member
  · rename_i codes listed
    obtain ⟨code, inCodes, isDotted⟩ := List.mem_map.mp member
    obtain ⟨before, after, rfl, -⟩ := List.lookup_eq_some_iff.mp listed
    have ofExpansion := List.all_eq_true.mp unlisted (c.toNat, codes) (by simp)
    have differs := List.all_eq_true.mp ofExpansion code inCodes
    simp [isDotted] at differs
  · have isDotted : 'İ' = Char.ofNat (mapCode runs c.toNat) := List.mem_singleton.mp member
    rcases mapCode_cases runs c.toNat with unmoved | ⟨run, inRuns, covered, moved⟩
    · rw [unmoved, Char.ofNat_toNat] at isDotted
      exact isDotted.symm
    · have target : run.target c.toNat = 0x130 := by
        have sameCode : (Char.ofNat (run.target c.toNat)).toNat = 0x130 := by
          rw [← moved, ← isDotted]
          rfl
        rw [Char.toNat_ofNat] at sameCode
        split at sameCode
        · exact sameCode
        · cases sameCode
      have source : (0x130 - run.offset).toNat = c.toNat := by
        simp only [CaseRun.target, Int.ofNat_eq_natCast] at target
        omega
      have uncovered := List.all_eq_true.mp unreached run inRuns
      rw [source, covered] at uncovered
      cases uncovered

/-- No character is lowered to `İ`. -/
theorem dotted_not_mem_toLowercase (c : Char) : 'İ' ∉ toLowercase c := by
  intro member
  obtain rfl := eq_dotted_of_mem_mapChar (by decide +kernel) (by decide +kernel) member
  exact absurd member (by decide +kernel)

/-- Only `İ` has the capital form `İ`. -/
theorem eq_dotted_of_mem_toUppercase
    {c : Char}
    (member : 'İ' ∈ toUppercase c) :
    c = 'İ' :=
  eq_dotted_of_mem_mapChar (by decide +kernel) (by decide +kernel) member

end Unicode

/-- A lowered text has no `İ`. -/
theorem Text.dotted_not_mem_lowercaseAfter
    (before text : List Char) :
    'İ' ∉ lowercaseAfter before text := by
  induction text generalizing before with
  | nil =>
      exact List.not_mem_nil
  | cons c after inductionHypothesis =>
      rw [lowercaseAfter, List.mem_append, not_or]
      refine ⟨?_, inductionHypothesis _⟩
      split
      · split <;> decide
      · exact Unicode.dotted_not_mem_toLowercase c

namespace Identifier

/-- A decimal digit may stand inside an identifier. -/
theorem isBodyChar_of_isDigit
    {c : Char}
    (digit : c.isDigit = true) :
    isBodyChar c = true := by
  have digits : Unicode.numericRanges.spans 0x30 0x39 = true := by
    decide +kernel
  simp only [Char.isDigit, Bool.and_eq_true, decide_eq_true_eq] at digit
  have numeric : Unicode.isNumeric c = true :=
    Unicode.Ranges.holds_of_spans digits digit.1 digit.2
  rw [isBodyChar, Unicode.isAlphanumeric, numeric, Bool.or_true, Bool.true_or]

/-- The leading capitals of a text that its camel-case form lowers. -/
def initialism (text : List Char) : List Char :=
  text.take
    (loweredCapitals
      (text.takeWhile Unicode.isUppercase).length
      (text.dropWhile Unicode.isUppercase))

/-- What a text must be like for its camel-case form to be well spelled. -/
structure Camels (text : List Char) : Prop where
  starts : ∃ first ∈ (sanitizeChars text).head?, isStartChar first = true
  undotted : 'İ' ∉ initialism (sanitizeChars text)

/-- A text that starts as an identifier may start, and has no `İ`, has a well-spelled form. -/
theorem Camels.of_starts
    {text : List Char}
    (starts : ∃ first ∈ text.head?, isStartChar first = true)
    (undotted : 'İ' ∉ text) :
    Camels text := by
  obtain ⟨first, isHead, startsWell⟩ := starts
  obtain ⟨rest, rfl⟩ := List.head?_eq_some_iff.mp isHead
  refine ⟨⟨first, ?_, startsWell⟩, fun member => ?_⟩
  · rw [sanitizeChars, List.filter_cons_of_pos (isBodyChar_of_start startsWell)]
    rfl
  · exact undotted (List.mem_filter.mp (List.mem_of_mem_take member)).1

/-- Lowering character by character leaves identifiers exactly if no `İ` is lowered. -/
theorem forall_mem_flatMap_toLowercase_iff
    {text : List Char}
    (spelled : ∀ c ∈ text, isBodyChar c = true) :
    (∀ c ∈ text.flatMap Unicode.toLowercase, isBodyChar c = true) ↔ 'İ' ∉ text := by
  have each (c : Char) (member : c ∈ text) :
      (∀ lowered ∈ Unicode.toLowercase c, isBodyChar lowered = true) ↔ c ≠ 'İ' :=
    (Unicode.lowersTo_toLowercase c).forall_isBodyChar_iff (spelled c member)
  rw [List.forall_mem_flatMap]
  exact
    ⟨fun body dotted => (each 'İ' dotted).mp (body 'İ' dotted) rfl,
      fun undotted c member => (each c member).mpr fun isDotted => undotted (isDotted ▸ member)⟩

/-- A camel-case form starts as an identifier may start exactly if its text does. -/
theorem starts_lowerCamelChars_iff
    (text : List Char) :
    (∃ first ∈ (lowerCamelChars text).head?, isStartChar first = true) ↔
      ∃ first ∈ text.head?, isStartChar first = true := by
  unfold lowerCamelChars
  dsimp only
  generalize
    loweredCapitals (text.takeWhile Unicode.isUppercase).length
      (text.dropWhile Unicode.isUppercase) = lowered
  cases text with
  | nil =>
      simp
  | cons first rest =>
      cases lowered with
      | zero =>
          rfl
      | succ lowered =>
          obtain ⟨small, others, form, same, -⟩ :=
            (Unicode.lowersTo_toLowercase first).exists_head
          simp [form, same]

/-- A camel-case form is well spelled exactly if its text starts well and no `İ` is lowered. -/
theorem wellSpelled_lowerCamelChars_iff
    {text : List Char}
    (spelled : ∀ c ∈ text, isBodyChar c = true) :
    WellSpelled (lowerCamelChars text) ↔
      (∃ first ∈ text.head?, isStartChar first = true) ∧ 'İ' ∉ initialism text := by
  have starts := starts_lowerCamelChars_iff text
  unfold lowerCamelChars at starts ⊢
  unfold initialism
  dsimp only at starts ⊢
  generalize
    loweredCapitals (text.takeWhile Unicode.isUppercase).length
      (text.dropWhile Unicode.isUppercase) = lowered at starts ⊢
  have body :
      (∀ c ∈ (text.take lowered).flatMap Unicode.toLowercase ++ text.drop lowered,
          isBodyChar c = true) ↔
        'İ' ∉ text.take lowered := by
    rw [List.forall_mem_append,
      forall_mem_flatMap_toLowercase_iff fun c member => spelled c (List.mem_of_mem_take member)]
    exact and_iff_left fun c member => spelled c (List.mem_of_mem_drop member)
  exact
    ⟨fun spelled => ⟨starts.mp spelled.starts, body.mp spelled.body⟩,
      fun ⟨startsWell, undotted⟩ => ⟨starts.mpr startsWell, body.mpr undotted⟩⟩

/-- A camel-case form is well spelled exactly if its text camels. -/
theorem wellSpelled_lowerCamel_iff
    (text : String) :
    WellSpelled (lowerCamel text).toList ↔ Camels text.toList := by
  have spelled (c : Char) (member : c ∈ sanitizeChars text.toList) : isBodyChar c = true :=
    (List.mem_filter.mp member).2
  rw [lowerCamel, String.toList_ofList, wellSpelled_lowerCamelChars_iff spelled]
  exact
    ⟨fun ⟨starts, undotted⟩ => ⟨starts, undotted⟩,
      fun camels => ⟨camels.starts, camels.undotted⟩⟩

/-- A number is written in decimal digits. -/
theorem isDigit_of_mem_toString
    {number : Nat}
    {c : Char}
    (member : c ∈ (toString number).toList) :
    c.isDigit = true := by
  rw [Nat.toString_eq_repr, Nat.toList_repr] at member
  exact Nat.isDigit_of_mem_toDigits (by decide) (by decide) member

/-- A number behind a text changes nothing about its spelling. -/
theorem wellSpelled_numbered_iff
    (base : String)
    (number : Nat) :
    WellSpelled (numbered base number).toList ↔ WellSpelled base.toList := by
  have digits (c : Char) (member : c ∈ (toString number).toList) : c.isDigit = true :=
    isDigit_of_mem_toString member
  rw [numbered, String.toList_append]
  generalize (toString number).toList = suffix at digits
  cases base.toList with
  | nil =>
      refine iff_of_false ?_ (fun spelled => by simpa using spelled.starts)
      rintro ⟨⟨first, isHead, starts⟩, -⟩
      rw [List.nil_append] at isHead
      have digit := digits first (List.mem_of_mem_head? isHead)
      rw [not_isDigit_of_start starts] at digit
      cases digit
  | cons first rest =>
      rw [List.cons_append, wellSpelled_cons_iff, wellSpelled_cons_iff, List.forall_mem_append]
      refine and_congr_right fun _ => and_iff_left fun c member => ?_
      exact isBodyChar_of_isDigit (digits c member)

/-- Giving a text a capital brings in no `İ`. -/
theorem dotted_not_mem_upperFirst
    {text : String}
    (undotted : 'İ' ∉ text.toList) :
    'İ' ∉ (upperFirst text).toList := by
  unfold upperFirst
  split
  · decide
  · rename_i first rest spelled
    rw [spelled, List.mem_cons, not_or] at undotted
    rw [String.toList_ofList, List.mem_append, not_or]
    exact ⟨fun member => undotted.1 (Unicode.eq_dotted_of_mem_toUppercase member).symm, undotted.2⟩

/-- A text that is not reserved is an identifier if it is well spelled. -/
theorem isValid_iff_of_not_reserved
    {name : String}
    (unreserved : name ∉ reserved) :
    isValid name = true ↔ WellSpelled name.toList := by
  rw [← List.contains_iff_mem, ← isReserved, isReserved_iff] at unreserved
  simp only [not_or, Bool.not_eq_true] at unreserved
  rw [isValid_iff]
  exact and_iff_left unreserved.2.2.1

end Identifier

namespace ImportTable

/-- A new package gets the name assumed of its path, perhaps with a number behind it. -/
theorem freshName_cases
    (imports : ImportTable)
    (path : String) :
    imports.freshName path = ImportPath.assumedPackageName path ∨
      ∃ number,
        imports.freshName path =
          Identifier.numbered (ImportPath.assumedPackageName path) number := by
  rcases Identifier.fresh_cases imports.takenNames (ImportPath.assumedPackageName path) [] with
    ⟨-, isBase⟩ | ⟨-, alternative, found, -⟩ | ⟨-, -, steps, isNumbered, -⟩
  · exact .inl isBase
  · cases found
  · exact .inr ⟨_, isNumbered⟩

/-- The name that a new package gets is an identifier exactly if its path spells one. -/
theorem isValid_freshName_iff
    (imports : ImportTable)
    (path : String) :
    Identifier.isValid (imports.freshName path) = true ↔ ImportPath.SpellsPackage path := by
  have free := imports.freshName_not_mem_takenNames path
  simp only [takenNames, List.mem_append, not_or] at free
  rw [Identifier.isValid_iff_of_not_reserved free.1.1,
    ← ImportPath.wellSpelled_assumedPackageName_iff]
  rcases imports.freshName_cases path with isBase | ⟨number, isNumbered⟩
  · rw [isBase]
  · rw [isNumbered, Identifier.wellSpelled_numbered_iff]

/-- The name that a new package gets has no `İ`. -/
theorem dotted_not_mem_freshName
    (imports : ImportTable)
    (path : String) :
    'İ' ∉ (imports.freshName path).toList := by
  have undotted : 'İ' ∉ (ImportPath.assumedPackageName path).toList := by
    rw [ImportPath.toList_assumedPackageName, List.mem_append, not_or]
    refine ⟨?_, Text.dotted_not_mem_lowercaseAfter [] _⟩
    split <;> decide
  rcases imports.freshName_cases path with isBase | ⟨number, isNumbered⟩
  · rwa [isBase]
  · rw [isNumbered, Identifier.numbered, String.toList_append, List.mem_append, not_or]
    refine ⟨undotted, fun inNumber => ?_⟩
    exact absurd (Identifier.isDigit_of_mem_toString inNumber) (by decide)

end ImportTable

namespace Scope

/-- A type with a well-spelled name lends its values the camel-case form of the name. -/
theorem baseName_of_wellSpelled
    {type : NamedType}
    (spelled : Identifier.WellSpelled type.name.toList) :
    baseName type = Identifier.lowerCamel type.name := by
  have starts :
      ∃ first ∈ (Identifier.lowerCamel type.name).toList.head?,
        Identifier.isStartChar first = true := by
    rw [Identifier.lowerCamel, String.toList_ofList, Identifier.starts_lowerCamelChars_iff,
      Identifier.sanitizeChars, List.filter_eq_self.mpr spelled.body]
    exact spelled.starts
  obtain ⟨first, isHead, startsWell⟩ := starts
  obtain ⟨rest, camel⟩ := List.head?_eq_some_iff.mp isHead
  have notEmpty : (Identifier.lowerCamel type.name).isEmpty = false := by
    refine String.isEmpty_eq_false_iff.mpr fun empty => ?_
    rw [empty] at camel
    cases camel
  have noDigit : Identifier.startsWithDigit (Identifier.lowerCamel type.name) = false := by
    rw [Identifier.startsWithDigit, camel]
    exact Identifier.not_isDigit_of_start startsWell
  simp only [baseName, notEmpty, noDigit, Bool.or_false, Bool.false_eq_true, if_false]

/--
How a value of a type with an identifier for a name is named, and after which text.

The name is made of the type's name if that is free, of the package's and the type's
name if this is free, and of the type's name and a number otherwise.
-/
inductive NamedAfter
    (scope : Scope)
    (draft : Draft)
    (type : NamedType) : String → String → Prop where
  | plain
      (free : Identifier.lowerCamel type.name ∉ scope.takenNames draft) :
      NamedAfter scope draft type type.name (Identifier.lowerCamel type.name)
  | qualified
      {qualifier : String}
      (taken : Identifier.lowerCamel type.name ∈ scope.takenNames draft)
      (fromPackage : type.importPath ≠ "")
      (foreign : type.importPath ≠ scope.goal.importPath)
      (imported : scope.imports.nameOf? type.importPath = some qualifier)
      (free :
        Identifier.lowerCamel (qualifier ++ Identifier.upperFirst type.name) ∉
          scope.takenNames draft) :
      NamedAfter scope draft type
        (qualifier ++ Identifier.upperFirst type.name)
        (Identifier.lowerCamel (qualifier ++ Identifier.upperFirst type.name))
  | numbered
      (taken : Identifier.lowerCamel type.name ∈ scope.takenNames draft)
      (qualifiedTaken : ∀ name ∈ scope.qualifiedNames type, name ∈ scope.takenNames draft)
      (number : Nat) :
      NamedAfter scope draft type
        type.name
        (Identifier.numbered (Identifier.lowerCamel type.name) number)

/-- A qualified name is made for the types of other packages that are imported. -/
theorem mem_qualifiedNames
    {scope : Scope}
    {type : NamedType}
    {name : String}
    (member : name ∈ scope.qualifiedNames type) :
    ∃ qualifier,
      type.importPath ≠ "" ∧
        type.importPath ≠ scope.goal.importPath ∧
        scope.imports.nameOf? type.importPath = some qualifier ∧
        name = Identifier.lowerCamel (qualifier ++ Identifier.upperFirst type.name) := by
  unfold qualifiedNames at member
  split at member
  · cases member
  · rename_i outside
    rw [not_or] at outside
    split at member
    · cases member
    · rename_i qualifier imported
      exact ⟨qualifier, outside.1, outside.2, imported, List.mem_singleton.mp member⟩

section Locals

variable {scope : Scope} {draft : Draft} {type : NamedType} {text name : String}

/-- A value is named after some text. -/
theorem exists_namedAfter
    (scope : Scope)
    (draft : Draft)
    (spelled : Identifier.WellSpelled type.name.toList) :
    ∃ text, scope.NamedAfter draft type text (scope.freshName draft type) := by
  unfold freshName
  rw [baseName_of_wellSpelled spelled]
  rcases Identifier.fresh_cases (scope.takenNames draft) (Identifier.lowerCamel type.name)
      (scope.qualifiedNames type) with
    ⟨free, isBase⟩ | ⟨taken, alternative, found, free, isQualified⟩ |
    ⟨taken, allTaken, steps, isNumbered, -⟩
  · rw [isBase]
    exact ⟨_, .plain free⟩
  · obtain ⟨qualifier, fromPackage, foreign, imported, rfl⟩ :=
      mem_qualifiedNames (List.mem_of_find?_eq_some found)
    rw [isQualified]
    exact ⟨_, .qualified taken fromPackage foreign imported free⟩
  · rw [isNumbered]
    exact ⟨_, .numbered taken allTaken _⟩

/-- A name is well spelled exactly if the text that it is made of camels. -/
theorem NamedAfter.wellSpelled_iff
    (namedAfter : scope.NamedAfter draft type text name) :
    Identifier.WellSpelled name.toList ↔ Identifier.Camels text.toList := by
  cases namedAfter with
  | plain | qualified =>
      exact Identifier.wellSpelled_lowerCamel_iff _
  | numbered _ _ number =>
      exact (Identifier.wellSpelled_numbered_iff _ number).trans
        (Identifier.wellSpelled_lowerCamel_iff _)

/-- Without `İ` and imports of an enclosing file, values are named after texts that camel. -/
theorem NamedAfter.camels
    (namedAfter : scope.NamedAfter draft type text name)
    (spelled : Identifier.WellSpelled type.name.toList)
    (undotted : 'İ' ∉ type.name.toList)
    {operations : List ImportTable.Operation}
    (unseeded : scope.imports = ImportTable.run [] operations)
    (spells :
      type.importPath ≠ "" →
      type.importPath ≠ scope.goal.importPath →
      ImportPath.SpellsPackage type.importPath) :
    Identifier.Camels text.toList := by
  cases namedAfter with
  | plain | numbered =>
      exact .of_starts spelled.starts undotted
  | @qualified qualifier _ fromPackage foreign imported _ =>
      rw [unseeded] at imported
      obtain ⟨earlier, isFresh⟩ :=
        ImportTable.exists_freshName_of_nameOf?_run [] List.not_mem_nil imported
      have valid : Identifier.isValid qualifier = true := by
        rw [isFresh, ImportTable.isValid_freshName_iff]
        exact spells fromPackage foreign
      obtain ⟨first, isHead, startsWell⟩ := ((Identifier.isValid_iff qualifier).mp valid).1.starts
      have undottedQualifier : 'İ' ∉ qualifier.toList := by
        rw [isFresh]
        exact ImportTable.dotted_not_mem_freshName _ _
      rw [String.toList_append]
      refine .of_starts ⟨first, ?_, startsWell⟩ ?_
      · rw [List.head?_append, isHead]
        rfl
      · rw [List.mem_append, not_or]
        exact ⟨undottedQualifier, Identifier.dotted_not_mem_upperFirst undotted⟩

/-- A new name is an identifier exactly if it is well spelled. -/
theorem isValid_freshName_iff_wellSpelled
    (scope : Scope)
    (draft : Draft)
    (type : NamedType) :
    Identifier.isValid (scope.freshName draft type) = true ↔
      Identifier.WellSpelled (scope.freshName draft type).toList :=
  Identifier.isValid_iff_of_not_reserved
    (not_mem_of_fresh (scope.freshName_not_mem draft type)).1

end Locals

end Scope

/--
Which of the names in generated code are identifiers.

An import that the enclosing file does not name has an identifier for its name
exactly if its path spells one. A value of a type that is named by an identifier has
an identifier for its name exactly if the text camels that it is named after, and
this text does so if the type's name has no `İ`, no import comes from the enclosing
file and the path of the type's package spells a name.
-/
theorem emittedNames_isValid_iff
    (entries : List Import)
    (operations : List ImportTable.Operation) :
    (∀ path name,
        path ∉ entries.map Import.path →
        (ImportTable.run entries operations).nameOf? path = some name →
          (Identifier.isValid name = true ↔ ImportPath.SpellsPackage path)) ∧
      ∀ (scope : Scope) (draft : Draft) (type : NamedType),
        Identifier.isValid type.name = true →
          ∃ text,
            scope.NamedAfter draft type text (scope.freshName draft type) ∧
              (Identifier.isValid (scope.freshName draft type) = true ↔
                Identifier.Camels text.toList) ∧
              (scope.imports = ImportTable.run [] operations →
                'İ' ∉ type.name.toList →
                (type.importPath ≠ "" →
                  type.importPath ≠ scope.goal.importPath →
                  ImportPath.SpellsPackage type.importPath) →
                  Identifier.isValid (scope.freshName draft type) = true) := by
  constructor
  · intro path name unseeded named
    obtain ⟨earlier, isFresh⟩ :=
      ImportTable.exists_freshName_of_nameOf?_run entries unseeded named
    rw [isFresh]
    exact ImportTable.isValid_freshName_iff _ path
  · intro scope draft type valid
    have spelled : Identifier.WellSpelled type.name.toList :=
      ((Identifier.isValid_iff type.name).mp valid).1
    obtain ⟨text, namedAfter⟩ := scope.exists_namedAfter draft spelled
    have validIff :
        Identifier.isValid (scope.freshName draft type) = true ↔
          Identifier.Camels text.toList :=
      (scope.isValid_freshName_iff_wellSpelled draft type).trans namedAfter.wellSpelled_iff
    refine ⟨text, namedAfter, validIff, fun unseeded undotted spells => ?_⟩
    exact validIff.mpr (namedAfter.camels spelled undotted unseeded spells)

namespace Fetching

/-- The scope of the store's function, which imports a package and mentions its own `client`. -/
def scope : Scope where
  goal := Storage.job.goal
  imports := ImportTable.run [] [.use "net/http"]
  locals := ["client"]

/-- A type of the imported package. -/
def client : NamedType :=
  NamedType.ofText "net/http" "Client"

/-- The path of the imported package spells a name. -/
theorem spellsPackage_client : ImportPath.SpellsPackage client.importPath where
  undotted := by decide +kernel
  startsSpelled := by
    rw [show ImportPath.nameStem client.importPath = "http".toList by decide +kernel]
    rintro _ ⟨⟩
    exact .inl (by decide +kernel)

end Fetching

/-- The imported package and a value of its type have identifiers for names. -/
theorem emittedNames_isValid_iff_fetching :
    Fetching.scope.imports.nameOf? "net/http" = some "http" ∧
      Identifier.isValid "http" = true ∧
      Fetching.scope.freshName Draft.empty Fetching.client = "httpClient" ∧
      Identifier.isValid (Fetching.scope.freshName Draft.empty Fetching.client) = true := by
  have imported : Fetching.scope.imports.nameOf? "net/http" = some "http" := by
    decide +kernel
  obtain ⟨importsValid, valuesValid⟩ := emittedNames_isValid_iff [] [.use "net/http"]
  obtain ⟨text, -, -, valid⟩ :=
    valuesValid Fetching.scope Draft.empty Fetching.client (by decide +kernel)
  refine ⟨imported, ?_, by decide +kernel, ?_⟩
  · exact
      (importsValid "net/http" "http" List.not_mem_nil imported).mpr
        Fetching.spellsPackage_client
  · exact valid rfl (by decide +kernel) fun _ _ => Fetching.spellsPackage_client

/--
A superscript digit and an `İ` get from an import path into the name of the import,
and an `İ` gets from the name of a type into the name of its value.
-/
theorem emittedNames_not_isValid :
    ((ImportTable.run [] [.use "example.com/²d"]).nameOf? "example.com/²d").map
        Identifier.isValid = some false ∧
      ((ImportTable.run [] [.use "example.com/İo"]).nameOf? "example.com/İo").map
        Identifier.isValid = some false ∧
      Identifier.isValid "İd" = true ∧
      Identifier.isValid
        (Fetching.scope.freshName Draft.empty (NamedType.ofText "p" "İd")) = false := by
  decide +kernel

end Wiring
