import Wiring.Proofs.EmittedNames
import Wiring.Proofs.LeadingRun

namespace Wiring

/-!
# Lowering the leading capitals

How many of the leading capitals a camel-case form lowers depends on the character
behind them, and there is such a character whenever it matters. For ASCII texts the
form is as long as the text, differs from it in leading capitals only, and starts
with none, so that a camel-case form is its own camel-case form.
-/

namespace Unicode

/-- What holds of each ASCII code point holds of every ASCII character. -/
theorem forall_ascii
    {holds : Char → Prop}
    (each : ∀ code < 128, holds (Char.ofNat code))
    (c : Char)
    (ascii : c.toNat < 128) :
    holds c := by
  rw [← Char.ofNat_toNat c]
  exact each c.toNat ascii

/-- The capitals among the ASCII characters are the ASCII capitals. -/
theorem isUppercase_of_ascii :
    ∀ c : Char, c.toNat < 128 → isUppercase c = c.isUpper :=
  forall_ascii (by decide +kernel)

/-- The small letters among the ASCII characters are the ASCII small letters. -/
theorem isLowercase_of_ascii :
    ∀ c : Char, c.toNat < 128 → isLowercase c = c.isLower :=
  forall_ascii (by decide +kernel)

/-- An ASCII character is lowered to one ASCII character. -/
theorem toLowercase_of_ascii :
    ∀ c : Char, c.toNat < 128 → toLowercase c = [c.toLower] :=
  forall_ascii (by decide +kernel)

/-- Lowering an ASCII character leaves an ASCII character that is no capital. -/
theorem toLower_of_ascii :
    ∀ c : Char, c.toNat < 128 → c.toLower.toNat < 128 ∧ c.toLower.isUpper = false :=
  forall_ascii (by decide +kernel)

end Unicode

namespace Identifier

/-- Lowering an ASCII character of identifiers leaves a character of identifiers. -/
theorem isBodyChar_toLower_of_ascii :
    ∀ c : Char, c.toNat < 128 → isBodyChar c = true → isBodyChar c.toLower = true :=
  Unicode.forall_ascii (by decide +kernel)

/--
How many of the leading capitals of a text are lowered, reading the character behind
them at its position.

The character is read only behind two or more capitals that are not the whole text.
There is no answer if the text ends before its position.
-/
def loweredCapitals? (text : List Char) : Option Nat :=
  let capitals := (text.takeWhile Unicode.isUppercase).length
  if capitals = 0 ∨ capitals = text.length ∨ capitals = 1 then
    some capitals
  else
    match text[capitals]? with
    | none =>
        none
    | some next =>
        some (if Unicode.isLowercase next then capitals - 1 else capitals)

section Initialisms

variable {run rest : List Char} {last next : Char}

/-- The character behind the leading capitals is there whenever it is read. -/
theorem loweredCapitals?_eq
    (text : List Char) :
    loweredCapitals? text =
      some
        (loweredCapitals
          (text.takeWhile Unicode.isUppercase).length
          (text.dropWhile Unicode.isUppercase)) := by
  obtain ⟨run, rest, rfl, leading⟩ := LeadingRun.exists_eq_append Unicode.isUppercase text
  rw [loweredCapitals?, leading.takeWhile_eq, leading.dropWhile_eq]
  cases rest with
  | nil =>
      simp [loweredCapitals]
  | cons next others =>
      have reads : (run ++ next :: others)[run.length]? = some next := by simp
      simp only [loweredCapitals, reads]
      by_cases several : 1 < run.length
      · have undecided :
            ¬ (run.length = 0 ∨ run.length = (run ++ next :: others).length ∨ run.length = 1) := by
          rw [List.length_append, List.length_cons]
          omega
        rw [if_neg undecided]
        simp [several]
      · have decided :
            run.length = 0 ∨ run.length = (run ++ next :: others).length ∨ run.length = 1 := by
          omega
        rw [if_pos decided, if_neg fun both => several both.1]

/-- Of the leading capitals no more are lowered than there are. -/
theorem loweredCapitals_le
    (capitals : Nat)
    (rest : List Char) :
    loweredCapitals capitals rest ≤ capitals := by
  unfold loweredCapitals
  split
  · exact Nat.le_refl capitals
  · split <;> omega

/-- Of the leading capitals the first is lowered. -/
theorem loweredCapitals_pos
    {capitals : Nat}
    (some : 0 < capitals)
    (rest : List Char) :
    0 < loweredCapitals capitals rest := by
  unfold loweredCapitals
  split
  · exact some
  · split <;> omega

/-- A small letter behind several capitals keeps the last one. -/
theorem loweredCapitals_of_small
    {capitals : Nat}
    (several : 2 ≤ capitals)
    (small : Unicode.isLowercase next = true) :
    loweredCapitals capitals (next :: rest) = capitals - 1 :=
  if_pos ⟨several, small⟩

/-- Without a small letter behind several capitals all of them are lowered. -/
theorem loweredCapitals_of_not_small
    {capitals : Nat}
    (notSmall : 2 ≤ capitals → ∀ next ∈ rest.head?, Unicode.isLowercase next = false) :
    loweredCapitals capitals rest = capitals := by
  cases rest with
  | nil =>
      rfl
  | cons next others =>
      refine if_neg fun ⟨several, small⟩ => ?_
      rw [notSmall several next rfl] at small
      cases small

/-- The camel-case form of a text, given its leading capitals and what follows them. -/
theorem lowerCamelChars_append
    (leading : LeadingRun Unicode.isUppercase run rest) :
    lowerCamelChars (run ++ rest) =
      (run.take (loweredCapitals run.length rest)).flatMap Unicode.toLowercase ++
        run.drop (loweredCapitals run.length rest) ++ rest := by
  have bound := loweredCapitals_le run.length rest
  simp only [lowerCamelChars, leading.takeWhile_eq, leading.dropWhile_eq]
  rw [List.take_append_of_le_length bound, List.drop_append_of_le_length bound, List.append_assoc]

/-- A text without leading capitals is its own camel-case form. -/
theorem lowerCamelChars_eq_self
    {text : List Char}
    (startsSmall : ∀ first ∈ text.head?, Unicode.isUppercase first = false) :
    lowerCamelChars text = text := by
  have leading : LeadingRun Unicode.isUppercase [] text :=
    { accepted := List.forall_mem_nil _
      stops := startsSmall }
  simpa using lowerCamelChars_append leading

end Initialisms

/-- A text of ASCII characters. -/
def IsAscii (text : List Char) : Prop :=
  ∀ c ∈ text, c.toNat < 128

instance (text : List Char) : Decidable (IsAscii text) :=
  decidable_of_iff (text.all (fun c => c.toNat < 128) = true) (by simp [IsAscii])

/-- A small letter is no capital. -/
theorem isUpper_of_isLower
    {c : Char}
    (small : c.isLower = true) :
    c.isUpper = false := by
  simp only [Char.isLower, Char.isUpper] at *
  grind

section Ascii

variable {run rest text : List Char} {last next : Char}

/-- Lowering ASCII characters one by one is lowering each to one character. -/
theorem IsAscii.flatMap_toLowercase
    (ascii : IsAscii text) :
    text.flatMap Unicode.toLowercase = text.map Char.toLower := by
  rw [List.map_eq_flatMap]
  exact List.flatMap_congr fun c member => Unicode.toLowercase_of_ascii c (ascii c member)

/-- The camel-case form of an ASCII text, given its leading capitals and what follows them. -/
theorem lowerCamelChars_append_of_ascii
    (ascii : IsAscii (run ++ rest))
    (leading : LeadingRun Char.isUpper run rest) :
    lowerCamelChars (run ++ rest) =
      (run.take (loweredCapitals run.length rest)).map Char.toLower ++
        run.drop (loweredCapitals run.length rest) ++ rest := by
  have asciiCapitals : IsAscii (run.take (loweredCapitals run.length rest)) :=
    fun c member => ascii c (List.mem_append_left rest (List.mem_of_mem_take member))
  have agree : ∀ c ∈ run ++ rest, Unicode.isUppercase c = c.isUpper :=
    fun c member => Unicode.isUppercase_of_ascii c (ascii c member)
  rw [lowerCamelChars_append (leading.congr agree), asciiCapitals.flatMap_toLowercase]

/-- The camel-case form of an ASCII text keeps all but some leading capitals. -/
theorem exists_lowered
    (ascii : IsAscii text) :
    ∃ lowered ≤ (text.takeWhile Char.isUpper).length,
      lowerCamelChars text = (text.take lowered).map Char.toLower ++ text.drop lowered := by
  obtain ⟨run, rest, rfl, leading⟩ := LeadingRun.exists_eq_append Char.isUpper text
  rw [leading.takeWhile_eq]
  have bound := loweredCapitals_le run.length rest
  refine ⟨_, bound, ?_⟩
  rw [lowerCamelChars_append_of_ascii ascii leading, List.take_append_of_le_length bound,
    List.drop_append_of_le_length bound, List.append_assoc]

/-- The camel-case form of an ASCII text starts with no capital. -/
theorem isUpper_head_lowerCamelChars
    (ascii : IsAscii text) :
    ∀ first ∈ (lowerCamelChars text).head?, first.isUpper = false := by
  obtain ⟨run, rest, rfl, leading⟩ := LeadingRun.exists_eq_append Char.isUpper text
  rw [lowerCamelChars_append_of_ascii ascii leading]
  cases run with
  | nil =>
      simpa using leading.stops
  | cons first others =>
      obtain ⟨lowered, isLowered⟩ :=
        Nat.exists_eq_succ_of_ne_zero
          (loweredCapitals_pos (Nat.succ_pos others.length) rest).ne'
      rw [List.length_cons, isLowered, List.take_succ_cons, List.map_cons, List.cons_append,
        List.cons_append, List.head?_cons]
      rintro _ ⟨⟩
      exact (Unicode.toLower_of_ascii first (ascii first List.mem_cons_self)).2

/-- The last of several leading capitals is kept before a small letter. -/
theorem lowerCamelChars_of_small
    (ascii : IsAscii (run ++ last :: next :: rest))
    (nonempty : run ≠ [])
    (capitals : ∀ c ∈ run, c.isUpper = true)
    (capital : last.isUpper = true)
    (small : next.isLower = true) :
    lowerCamelChars (run ++ last :: next :: rest) =
      run.map Char.toLower ++ last :: next :: rest := by
  have isNext : next.toNat < 128 := ascii next (by simp)
  -- The capital that is kept is the last one of the leading run.
  have leading : LeadingRun Char.isUpper (run ++ [last]) (next :: rest) :=
    { accepted := List.forall_mem_append.mpr ⟨capitals, List.forall_mem_singleton.mpr capital⟩
      stops := by
        rintro _ ⟨⟩
        exact isUpper_of_isLower small }
  have lowered :
      loweredCapitals (run ++ [last]).length (next :: rest) = run.length := by
    have several : 2 ≤ (run ++ [last]).length := by
      have := List.length_pos_of_ne_nil nonempty
      rw [List.length_append, List.length_singleton]
      omega
    rw [loweredCapitals_of_small several ((Unicode.isLowercase_of_ascii next isNext).trans small),
      List.length_append, List.length_singleton, Nat.add_sub_cancel]
  rw [List.append_cons run last] at ascii ⊢
  rw [lowerCamelChars_append_of_ascii ascii leading, lowered, List.take_left' rfl,
    List.drop_left' rfl, List.append_assoc, List.singleton_append]

/-- All leading capitals are lowered unless they are several before a small letter. -/
theorem lowerCamelChars_of_not_small
    (ascii : IsAscii (run ++ rest))
    (leading : LeadingRun Char.isUpper run rest)
    (notSmall : 2 ≤ run.length → ∀ next ∈ rest.head?, next.isLower = false) :
    lowerCamelChars (run ++ rest) = run.map Char.toLower ++ rest := by
  have lowered : loweredCapitals run.length rest = run.length := by
    refine loweredCapitals_of_not_small fun several next isHead => ?_
    have isNext : next.toNat < 128 :=
      ascii next (List.mem_append_right run (List.mem_of_mem_head? isHead))
    exact (Unicode.isLowercase_of_ascii next isNext).trans (notSmall several next isHead)
  rw [lowerCamelChars_append_of_ascii ascii leading, lowered, List.take_length,
    List.drop_length, List.append_nil]

end Ascii

/--
A text is another one with leading capitals lowered.

The leading capitals are lowered as a unit, except that the last of several is kept
where a small letter follows it.
-/
structure LowersLeading (text form : List Char) : Prop where
  sameLength : form.length = text.length
  lowersCapitals :
    ∃ lowered ≤ (text.takeWhile Char.isUpper).length,
      form = (text.take lowered).map Char.toLower ++ text.drop lowered
  startsSmall : ∀ first ∈ form.head?, first.isUpper = false
  keepsLast :
    ∀ run last next rest,
      text = run ++ last :: next :: rest →
      run ≠ [] →
      (∀ c ∈ run, c.isUpper = true) →
      last.isUpper = true →
      next.isLower = true →
        form = run.map Char.toLower ++ last :: next :: rest
  lowersAll :
    ∀ run rest,
      text = run ++ rest →
      LeadingRun Char.isUpper run rest →
      (2 ≤ run.length → ∀ next ∈ rest.head?, next.isLower = false) →
        form = run.map Char.toLower ++ rest

/-- The camel-case form of an ASCII text is the text with leading capitals lowered. -/
theorem lowersLeading_lowerCamelChars
    {text : List Char}
    (ascii : IsAscii text) :
    LowersLeading text (lowerCamelChars text) where
  sameLength := by
    obtain ⟨lowered, -, form⟩ := exists_lowered ascii
    rw [form, List.length_append, List.length_map, ← List.length_append, List.take_append_drop]
  lowersCapitals := exists_lowered ascii
  startsSmall := isUpper_head_lowerCamelChars ascii
  keepsLast := by
    rintro run last next rest rfl
    exact lowerCamelChars_of_small ascii
  lowersAll := by
    rintro run rest rfl
    exact lowerCamelChars_of_not_small ascii

/-- What lowering keeps of the characters of an ASCII text holds in its camel-case form. -/
theorem forall_mem_lowerCamelChars
    {text : List Char}
    (ascii : IsAscii text)
    {holds : Char → Prop}
    (lowers : ∀ c, c.toNat < 128 → holds c → holds c.toLower)
    (each : ∀ c ∈ text, holds c) :
    ∀ c ∈ lowerCamelChars text, holds c := by
  obtain ⟨lowered, -, form⟩ := exists_lowered ascii
  rw [form, List.forall_mem_append, List.forall_mem_map]
  refine ⟨fun c member => ?_, fun c member => each c (List.mem_of_mem_drop member)⟩
  have inText := List.mem_of_mem_take member
  exact lowers c (ascii c inText) (each c inText)

/-- A camel-case form of an ASCII text is its own camel-case form. -/
theorem lowerCamel_lowerCamel
    {text : String}
    (ascii : IsAscii text.toList) :
    lowerCamel (lowerCamel text) = lowerCamel text := by
  have asciiStem : IsAscii (sanitizeChars text.toList) :=
    fun c member => ascii c (List.mem_filter.mp member).1
  have asciiForm : IsAscii (lowerCamelChars (sanitizeChars text.toList)) :=
    forall_mem_lowerCamelChars asciiStem
      (fun c isAscii _ => (Unicode.toLower_of_ascii c isAscii).1) asciiStem
  have body :
      ∀ c ∈ lowerCamelChars (sanitizeChars text.toList), isBodyChar c = true :=
    forall_mem_lowerCamelChars asciiStem isBodyChar_toLower_of_ascii
      (fun c member => (List.mem_filter.mp member).2)
  have startsSmall :
      ∀ first ∈ (lowerCamelChars (sanitizeChars text.toList)).head?,
        Unicode.isUppercase first = false := by
    intro first isHead
    rw [Unicode.isUppercase_of_ascii first (asciiForm first (List.mem_of_mem_head? isHead))]
    exact isUpper_head_lowerCamelChars asciiStem first isHead
  rw [lowerCamel, lowerCamel, String.toList_ofList, sanitizeChars, List.filter_eq_self.mpr body,
    lowerCamelChars_eq_self startsSmall]

end Identifier

/--
The character behind the leading capitals is there whenever it decides how many of them
are lowered. For ASCII texts the camel-case form lowers the leading capitals as a unit,
with the last of several kept before a small letter, and it is its own form.
-/
theorem lowerCamel_safe_and_stable :
    (∀ text : String,
        ∃ lowered,
          Identifier.loweredCapitals? (Identifier.sanitize text).toList = some lowered ∧
            (Identifier.lowerCamel text).toList =
              ((Identifier.sanitize text).toList.take lowered).flatMap Unicode.toLowercase ++
                (Identifier.sanitize text).toList.drop lowered) ∧
      ∀ text : String,
        Identifier.IsAscii text.toList →
          Identifier.LowersLeading
              (Identifier.sanitize text).toList
              (Identifier.lowerCamel text).toList ∧
            Identifier.lowerCamel (Identifier.lowerCamel text) = Identifier.lowerCamel text := by
  constructor
  · intro text
    refine ⟨_, Identifier.loweredCapitals?_eq _, ?_⟩
    rw [Identifier.sanitize, String.toList_ofList, Identifier.lowerCamel, String.toList_ofList]
    rfl
  · intro text ascii
    refine ⟨?_, Identifier.lowerCamel_lowerCamel ascii⟩
    rw [Identifier.sanitize, String.toList_ofList, Identifier.lowerCamel, String.toList_ofList]
    exact Identifier.lowersLeading_lowerCamelChars fun c member =>
      ascii c (List.mem_filter.mp member).1

/-- A pointer to a client of an initialism keeps the capital of the client. -/
theorem lowerCamel_safe_and_stable_client :
    Identifier.IsAscii "*HTTPClient".toList ∧
      (Identifier.lowerCamel "*HTTPClient").toList =
        ['H', 'T', 'T', 'P'].map Char.toLower ++ "Client".toList ∧
      Identifier.lowerCamel (Identifier.lowerCamel "*HTTPClient") =
        Identifier.lowerCamel "*HTTPClient" := by
  have ascii : Identifier.IsAscii "*HTTPClient".toList := by
    decide +kernel
  obtain ⟨lowers, stable⟩ := lowerCamel_safe_and_stable.2 "*HTTPClient" ascii
  have stem :
      (Identifier.sanitize "*HTTPClient").toList =
        ['H', 'T', 'T', 'P'] ++ 'C' :: 'l' :: "ient".toList := by
    decide +kernel
  refine ⟨ascii, ?_, stable⟩
  exact lowers.keepsLast ['H', 'T', 'T', 'P'] 'C' 'l' "ient".toList stem
    (by decide) (List.all_eq_true.mp (by decide)) (by decide) (by decide)

end Wiring
