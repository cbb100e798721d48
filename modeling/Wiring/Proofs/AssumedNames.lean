import Wiring.Proofs.LeadingRun
import Wiring.Proofs.PackageClause

namespace Wiring.ImportPath

/-!
# Names assumed of import paths

The package name that is assumed of a path is made of one part of the path, the last
one that is not empty, unless it names a major version. Slashes do not matter beyond
keeping parts apart, and neither does a version that stands in a part of its own or
behind the last part. Whatever the path, the name is not empty and starts with no
digit.
-/

/-- A number, written in decimal digits. -/
structure IsNumber (text : List Char) : Prop where
  nonempty : text ≠ []
  digits : ∀ c ∈ text, c.isDigit = true

/-- The parts of a path between slashes that are not empty. -/
def parts (path : List Char) : List (List Char) :=
  (segments path).filter (fun part => !part.isEmpty)

/-- A path with more slashes at its ends or next to slashes that it has. -/
inductive Padded (path : List Char) : List Char → Prop where
  | same : Padded path path
  | front
      {padded : List Char}
      (earlier : Padded path padded) :
      Padded path ('/' :: padded)
  | back
      {padded : List Char}
      (earlier : Padded path padded) :
      Padded path (padded ++ ['/'])
  | between
      {before after : List Char}
      (earlier : Padded path (before ++ '/' :: after)) :
      Padded path (before ++ '/' :: '/' :: after)

section Parts

variable {path text last suffix : List Char}

/-- Every text has a first segment. -/
theorem segments_ne_nil
    (text : List Char) :
    segments text ≠ [] := by
  cases text with
  | nil =>
      exact List.cons_ne_nil _ _
  | cons c rest =>
      rw [segments]
      split
      · exact List.cons_ne_nil _ _
      · split <;> exact List.cons_ne_nil _ _

/-- A slash parts the segments before it from those behind it. -/
theorem segments_append_slash
    (before after : List Char) :
    segments (before ++ '/' :: after) = segments before ++ segments after := by
  induction before with
  | nil =>
      rfl
  | cons c rest inductionHypothesis =>
      rw [List.cons_append, segments, segments, inductionHypothesis]
      split
      · rfl
      · cases isSplit : segments rest with
        | nil =>
            exact absurd isSplit (segments_ne_nil rest)
        | cons first others =>
            rfl

/-- A text without slashes is its only segment. -/
theorem segments_of_slashless
    (slashless : '/' ∉ text) :
    segments text = [text] := by
  induction text with
  | nil =>
      rfl
  | cons c rest inductionHypothesis =>
      rw [List.mem_cons, not_or] at slashless
      rw [segments, if_neg (Ne.symm slashless.1), inductionHypothesis slashless.2]

/-- A slash parts the parts before it from those behind it. -/
theorem parts_append_slash
    (before after : List Char) :
    parts (before ++ '/' :: after) = parts before ++ parts after := by
  rw [parts, segments_append_slash, List.filter_append, ← parts, ← parts]

/-- A text without slashes is its only part, unless it is empty. -/
theorem parts_of_slashless
    (slashless : '/' ∉ text)
    (nonempty : text ≠ []) :
    parts text = [text] := by
  rw [parts, segments_of_slashless slashless]
  exact List.filter_cons_of_pos (by simpa using nonempty)

/-- More slashes do not change the parts of a path. -/
theorem Padded.parts_eq
    (padded : Padded path text) :
    parts text = parts path := by
  induction padded with
  | same =>
      rfl
  | @front padded _ inductionHypothesis =>
      exact (parts_append_slash [] padded).trans inductionHypothesis
  | @back padded _ inductionHypothesis =>
      rw [parts_append_slash, inductionHypothesis]
      exact List.append_nil _
  | @between before after _ inductionHypothesis =>
      rw [← inductionHypothesis, parts_append_slash, parts_append_slash]
      exact congrArg (parts before ++ ·) (parts_append_slash [] after)

/-- A text has no slash, or it can be taken apart at its last one. -/
theorem slashless_or_exists_last
    (text : List Char) :
    '/' ∉ text ∨ ∃ before last, text = before ++ '/' :: last ∧ '/' ∉ last := by
  induction text with
  | nil =>
      exact .inl List.not_mem_nil
  | cons c rest inductionHypothesis =>
      rcases inductionHypothesis with slashless | ⟨before, last, rfl, slashless⟩
      · by_cases slash : c = '/'
        · exact .inr ⟨[], rest, by rw [slash, List.nil_append], slashless⟩
        · exact .inl (List.not_mem_cons_of_ne_of_not_mem (Ne.symm slash) slashless)
      · exact .inr ⟨c :: before, last, rfl, slashless⟩

/-- A suffix without slashes goes to the last part of a path that does not end in a slash. -/
theorem getLast?_parts_append
    (noSlash : path.getLast? ≠ some '/')
    (isLast : (parts path).getLast? = some last)
    (slashless : '/' ∉ suffix) :
    (parts (path ++ suffix)).getLast? = some (last ++ suffix) := by
  rcases slashless_or_exists_last path with slashlessPath | ⟨before, final, rfl, slashlessFinal⟩
  · have nonempty : path ≠ [] := by
      rintro rfl
      cases isLast
    rw [parts_of_slashless slashlessPath nonempty] at isLast
    obtain rfl : path = last := by simpa using isLast
    have slashlessBoth : '/' ∉ path ++ suffix :=
      List.not_mem_append slashlessPath slashless
    rw [parts_of_slashless slashlessBoth (List.append_ne_nil_of_left_ne_nil nonempty suffix)]
    rfl
  · have nonempty : final ≠ [] := by
      rintro rfl
      simp at noSlash
    rw [parts_append_slash, parts_of_slashless slashlessFinal nonempty] at isLast
    obtain rfl : final = last := by simpa using isLast
    have slashlessBoth : '/' ∉ final ++ suffix :=
      List.not_mem_append slashlessFinal slashless
    rw [List.append_assoc, List.cons_append, parts_append_slash,
      parts_of_slashless slashlessBoth (List.append_ne_nil_of_left_ne_nil nonempty suffix)]
    exact List.getLast?_concat

end Parts

section Versions

variable {part stem digits : List Char}

/-- A number has no slash and no dot. -/
theorem IsNumber.not_mem
    (number : IsNumber digits)
    {c : Char}
    (other : c.isDigit = false) :
    c ∉ digits := by
  intro member
  rw [number.digits c member] at other
  cases other

/-- A part names a major version exactly if it is a `v` and a number. -/
theorem isMajorVersion_iff :
    isMajorVersion part = true ↔ ∃ digits, IsNumber digits ∧ part = 'v' :: digits := by
  unfold isMajorVersion
  split
  · rename_i digits
    simp only [Bool.and_eq_true, Bool.not_eq_true', List.isEmpty_eq_false_iff, List.all_eq_true]
    constructor
    · rintro ⟨nonempty, each⟩
      exact ⟨digits, ⟨nonempty, each⟩, rfl⟩
    · rintro ⟨_, number, ⟨⟩⟩
      exact ⟨number.nonempty, number.digits⟩
  · rename_i other
    refine iff_of_false Bool.false_ne_true ?_
    rintro ⟨digits, -, rfl⟩
    exact other digits rfl

/-- A part that holds a dot behind its first character names no major version. -/
theorem not_isMajorVersion_of_dot
    (nonempty : stem ≠ [])
    (rest : List Char) :
    isMajorVersion (stem ++ '.' :: rest) = false := by
  refine Bool.eq_false_iff.mpr fun isVersion => ?_
  obtain ⟨digits, number, same⟩ := isMajorVersion_iff.mp isVersion
  obtain ⟨first, others, rfl⟩ := List.exists_cons_of_ne_nil nonempty
  rw [List.cons_append, List.cons.injEq] at same
  refine number.not_mem (c := '.') rfl ?_
  rw [← same.2]
  exact List.mem_append_right others List.mem_cons_self

/-- A version suffix is dropped. -/
theorem dropVersion_append
    (stem : List Char)
    (number : IsNumber digits) :
    dropVersion (stem ++ '.' :: 'v' :: digits) = stem := by
  -- A suffix is read from the end of the part, where its digits come first.
  have reversed :
      (stem ++ '.' :: 'v' :: digits).reverse =
        digits.reverse ++ 'v' :: '.' :: stem.reverse := by
    simp
  have leading : LeadingRun Char.isDigit digits.reverse ('v' :: '.' :: stem.reverse) :=
    { accepted := fun c member => number.digits c (List.mem_reverse.mp member)
      stops := by
        rintro _ ⟨⟩
        rfl }
  obtain ⟨final, others, isFinal⟩ :=
    List.exists_cons_of_ne_nil (List.reverse_ne_nil_iff.mpr number.nonempty)
  rw [dropVersion, reversed, leading.takeWhile_eq, leading.dropWhile_eq, isFinal]
  exact List.reverse_reverse stem

/-- A part without a version suffix is kept. -/
theorem dropVersion_eq_self
    (unversioned : ∀ stem digits, IsNumber digits → part ≠ stem ++ '.' :: 'v' :: digits) :
    dropVersion part = part := by
  unfold dropVersion
  split
  · rename_i final others stem isRun isRest
    obtain ⟨run, rest, whole, leading⟩ :=
      LeadingRun.exists_eq_append Char.isDigit part.reverse
    rw [whole, leading.takeWhile_eq] at isRun
    rw [whole, leading.dropWhile_eq] at isRest
    subst isRun isRest
    have number : IsNumber (final :: others).reverse :=
      { nonempty := List.reverse_ne_nil_iff.mpr (List.cons_ne_nil final others)
        digits := fun c member => leading.accepted c (List.mem_reverse.mp member) }
    refine absurd ?_ (unversioned stem.reverse _ number)
    rw [← List.reverse_reverse part, whole]
    simp
  · rfl

end Versions

section Naming

variable {text last : List Char} {path other : String}

/-- The naming part is the last part, unless it names a major version. -/
theorem namingSegment_of_getLast?
    (isLast : (parts text).getLast? = some last)
    (unversioned : isMajorVersion last = false) :
    namingSegment (segments text) = last := by
  obtain ⟨before, isParts⟩ := List.getLast?_eq_some_iff.mp isLast
  rw [namingSegment, List.filter_reverse, ← parts, isParts, List.reverse_concat]
  cases before.reverse with
  | nil =>
      rfl
  | cons previous others =>
      exact if_neg (Bool.eq_false_iff.mp unversioned)

/-- A major version gives way to the part before it. -/
theorem namingSegment_of_version
    {before : List (List Char)}
    {version : List Char}
    (isParts : parts text = before ++ [last, version])
    (versioned : isMajorVersion version = true) :
    namingSegment (segments text) = last := by
  rw [namingSegment, List.filter_reverse, ← parts, isParts, List.reverse_append]
  exact if_pos versioned

/-- Paths with one naming part, up to its version, have one package name. -/
theorem assumedPackageName_eq_of_dropVersion
    (same :
      dropVersion (namingSegment (segments path.toList)) =
        dropVersion (namingSegment (segments other.toList))) :
    assumedPackageName path = assumedPackageName other := by
  simp only [assumedPackageName, same]

/-- Paths with the same parts have one package name. -/
theorem assumedPackageName_eq_of_parts
    (same : parts path.toList = parts other.toList) :
    assumedPackageName path = assumedPackageName other := by
  apply assumedPackageName_eq_of_dropVersion
  rw [namingSegment, List.filter_reverse, ← parts, same, parts, ← List.filter_reverse,
    ← namingSegment]

/-- More slashes do not change the package name. -/
theorem assumedPackageName_of_padded
    (padded : Padded path.toList other.toList) :
    assumedPackageName other = assumedPackageName path :=
  assumedPackageName_eq_of_parts padded.parts_eq

variable {digits : String}

/-- A major version in a part of its own does not change the package name. -/
theorem assumedPackageName_of_majorVersion
    (isLast : (parts path.toList).getLast? = some last)
    (unversioned : isMajorVersion last = false)
    (number : IsNumber digits.toList) :
    assumedPackageName (path ++ "/v" ++ digits) = assumedPackageName path := by
  obtain ⟨before, isParts⟩ := List.getLast?_eq_some_iff.mp isLast
  have versioned : isMajorVersion ('v' :: digits.toList) = true :=
    isMajorVersion_iff.mpr ⟨digits.toList, number, rfl⟩
  have slashless : '/' ∉ 'v' :: digits.toList :=
    List.not_mem_cons_of_ne_of_not_mem (by decide) (number.not_mem rfl)
  have allParts :
      parts (path ++ "/v" ++ digits).toList = before ++ [last, 'v' :: digits.toList] := by
    have written :
        (path ++ "/v" ++ digits).toList = path.toList ++ '/' :: 'v' :: digits.toList := by
      simp
    rw [written, parts_append_slash, isParts,
      parts_of_slashless slashless (List.cons_ne_nil 'v' digits.toList), List.append_assoc]
    rfl
  apply assumedPackageName_eq_of_dropVersion
  rw [namingSegment_of_version allParts versioned, namingSegment_of_getLast? isLast unversioned]

/-- A version behind the last part does not change the package name, unless it is the second. -/
theorem assumedPackageName_of_suffix
    (isLast : (parts path.toList).getLast? = some last)
    (unversioned : isMajorVersion last = false)
    (number : IsNumber digits.toList)
    (noSlash : path.toList.getLast? ≠ some '/')
    (unsuffixed : ∀ stem digits, IsNumber digits → last ≠ stem ++ '.' :: 'v' :: digits) :
    assumedPackageName (path ++ ".v" ++ digits) = assumedPackageName path := by
  have nonempty : last ≠ [] := by
    have isPart := List.mem_of_getLast? isLast
    simpa using (List.mem_filter.mp isPart).2
  have slashless : '/' ∉ '.' :: 'v' :: digits.toList :=
    List.not_mem_cons_of_ne_of_not_mem (by decide)
      (List.not_mem_cons_of_ne_of_not_mem (by decide) (number.not_mem rfl))
  have written :
      (path ++ ".v" ++ digits).toList = path.toList ++ '.' :: 'v' :: digits.toList := by
    simp
  have isLastToo :
      (parts (path ++ ".v" ++ digits).toList).getLast? =
        some (last ++ '.' :: 'v' :: digits.toList) := by
    rw [written]
    exact getLast?_parts_append noSlash isLast slashless
  apply assumedPackageName_eq_of_dropVersion
  rw [namingSegment_of_getLast? isLastToo (not_isMajorVersion_of_dot nonempty _),
    namingSegment_of_getLast? isLast unversioned, dropVersion_append last number,
    dropVersion_eq_self unsuffixed]

/-- An assumed package name needs no further prefix. -/
theorem needsPrefix_assumedPackageName
    (path : String) :
    needsPrefix (assumedPackageName path).toList = false := by
  rw [toList_assumedPackageName]
  cases prefixed : needsPrefix (nameStem path) with
  | true =>
      rfl
  | false =>
      exact (needsPrefix_lowercase (nameStem path)).trans prefixed

end Naming

/--
What the package name assumed of a path does not depend on, given the last part of the
path that is not empty.
-/
structure IgnoresVersions
    (path : String)
    (last : List Char) : Prop where
  slashes :
    ∀ padded : String,
      Padded path.toList padded.toList →
        assumedPackageName padded = assumedPackageName path
  majorVersion :
    ∀ digits padded : String,
      IsNumber digits.toList →
      Padded (path ++ "/v" ++ digits).toList padded.toList →
        assumedPackageName padded = assumedPackageName path
  suffix :
    path.toList.getLast? ≠ some '/' →
    (∀ stem digits, IsNumber digits → last ≠ stem ++ '.' :: 'v' :: digits) →
      ∀ digits : String,
        IsNumber digits.toList →
          assumedPackageName (path ++ ".v" ++ digits) = assumedPackageName path

/--
The package name assumed of a path that ends in no major version stays the same when
slashes are put in, when a major version is added and, unless the path ends in a slash
or a version suffix, when a version suffix is added. No assumed name is empty, and none
starts with a digit.
-/
theorem assumedPackageName_ignoresVersions :
    (∀ (path : String) (last : List Char),
        (parts path.toList).getLast? = some last →
        (∀ digits, IsNumber digits → last ≠ 'v' :: digits) →
          IgnoresVersions path last) ∧
      ∀ path : String,
        assumedPackageName path ≠ "" ∧
          Identifier.startsWithDigit (assumedPackageName path) = false := by
  constructor
  · intro path last isLast unnumbered
    have unversioned : isMajorVersion last = false := by
      refine Bool.eq_false_iff.mpr fun isVersion => ?_
      obtain ⟨digits, number, same⟩ := isMajorVersion_iff.mp isVersion
      exact unnumbered digits number same
    exact
      { slashes := fun padded isPadded => assumedPackageName_of_padded isPadded
        majorVersion := fun digits padded number isPadded =>
          (assumedPackageName_of_padded isPadded).trans
            (assumedPackageName_of_majorVersion isLast unversioned number)
        suffix := fun noSlash unsuffixed digits number =>
          assumedPackageName_of_suffix isLast unversioned number noSlash unsuffixed }
  · intro path
    have unprefixed := needsPrefix_assumedPackageName path
    rw [Identifier.startsWithDigit]
    constructor
    · intro empty
      rw [empty] at unprefixed
      cases unprefixed
    · cases spelled : (assumedPackageName path).toList with
      | nil =>
          rfl
      | cons first rest =>
          rw [spelled] at unprefixed
          exact unprefixed

/-- The second version of a module, between more slashes, and the third are named like the first. -/
theorem assumedPackageName_ignoresVersions_redis :
    (parts "example.com/go-redis".toList).getLast? = some "go-redis".toList ∧
      assumedPackageName "/example.com//go-redis/v2/" = "redis" ∧
      assumedPackageName ("example.com/go-redis" ++ ".v" ++ "3") = "redis" ∧
      Identifier.startsWithDigit (assumedPackageName "example.com/go-redis") = false := by
  have isLast :
      (parts "example.com/go-redis".toList).getLast? = some "go-redis".toList := by
    decide +kernel
  have unnumbered : ∀ digits, IsNumber digits → "go-redis".toList ≠ 'v' :: digits := by
    intro digits _ same
    have sameHead : some 'g' = some 'v' := congrArg List.head? same
    exact absurd sameHead (by decide)
  have unsuffixed :
      ∀ stem digits, IsNumber digits → "go-redis".toList ≠ stem ++ '.' :: 'v' :: digits := by
    intro stem digits _ same
    have dotted : '.' ∈ "go-redis".toList := by
      rw [same]
      exact List.mem_append_right stem List.mem_cons_self
    exact absurd dotted (by decide)
  have two : IsNumber "2".toList := ⟨by decide, List.all_eq_true.mp (by decide)⟩
  have three : IsNumber "3".toList := ⟨by decide, List.all_eq_true.mp (by decide)⟩
  have padded :
      Padded ("example.com/go-redis" ++ "/v" ++ "2").toList
        "/example.com//go-redis/v2/".toList := by
    have plain :
        ("example.com/go-redis" ++ "/v" ++ "2").toList =
          "example.com".toList ++ '/' :: "go-redis/v2".toList := by
      decide +kernel
    have spaced :
        "/example.com//go-redis/v2/".toList =
          '/' :: ("example.com".toList ++ '/' :: '/' :: "go-redis/v2".toList ++ ['/']) := by
      decide +kernel
    rw [plain, spaced]
    exact .front (.back (.between .same))
  have first : assumedPackageName "example.com/go-redis" = "redis" := by
    decide +kernel
  obtain ⟨ignoring, unprefixed⟩ := assumedPackageName_ignoresVersions
  have ignores := ignoring "example.com/go-redis" "go-redis".toList isLast unnumbered
  exact
    ⟨isLast, (ignores.majorVersion "2" _ two padded).trans first,
      (ignores.suffix (by decide) unsuffixed "3" three).trans first,
      (unprefixed "example.com/go-redis").2⟩

end Wiring.ImportPath
