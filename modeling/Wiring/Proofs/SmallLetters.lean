import Wiring.Identifier.Spelling
import Wiring.Text.Lowercase

namespace Wiring.Unicode

/-!
# Small forms of letters

Lowering a character changes nothing but letters, and a lowered letter is a
letter again. The one exception is the capital I with a dot above, whose small
form carries the dot as a mark. The tables decide this run by run: the letters
that a run covers, and the letters that it maps them to, lie within one range.
-/

namespace Ranges

/-- Whether one of several ascending ranges holds every code point from `first` to `last`. -/
def spans : Ranges → Nat → Nat → Bool
  | [], _, _ => false
  | (low, high) :: rest, first, last =>
      low.ble first && (last.ble high || spans rest first last)

/-- What a span encloses is held. -/
theorem holds_of_spans
    {ranges : Ranges}
    {first last code : Nat}
    (spanned : ranges.spans first last = true)
    (afterFirst : first ≤ code)
    (beforeLast : code ≤ last) :
    ranges.holds code = true := by
  induction ranges with
  | nil =>
      simp [spans] at spanned
  | cons range rest inductionHypothesis =>
      simp only [spans, Bool.and_eq_true, Bool.or_eq_true, Nat.ble_eq] at spanned
      obtain ⟨reached, within | later⟩ := spanned
      · simp only [holds, Bool.if_false_left, Bool.and_eq_true, Bool.or_eq_true,
          Bool.not_eq_true', decide_eq_false_iff_not, decide_eq_true_eq]
        exact ⟨by omega, .inl (by omega)⟩
      · simp only [holds, Bool.if_false_left, Bool.and_eq_true, Bool.or_eq_true,
          Bool.not_eq_true', decide_eq_false_iff_not, decide_eq_true_eq]
        exact ⟨by omega, .inr (inductionHypothesis later)⟩

end Ranges

namespace CaseRun

/-- The code points that a run covers. -/
def codes (run : CaseRun) : List Nat :=
  List.range' run.first ((run.last - run.first) / run.step + 1) run.step

/-- A run keeps the order of code points. -/
theorem target_mono
    (run : CaseRun)
    {code other : Nat}
    (ordered : code ≤ other) :
    run.target code ≤ run.target other := by
  simp only [target, Int.ofNat_eq_natCast]
  omega

/-- Every code point that a run covers is listed. -/
theorem mem_codes
    {run : CaseRun}
    {code : Nat}
    (covered : run.covers code = true) :
    code ∈ run.codes := by
  simp only [covers, Bool.and_eq_true, decide_eq_true_eq, beq_iff_eq] at covered
  obtain ⟨⟨afterFirst, beforeLast⟩, onStep⟩ := covered
  refine List.mem_range'.mpr ⟨(code - run.first) / run.step, ?_, ?_⟩
  · have : (code - run.first) / run.step ≤ (run.last - run.first) / run.step :=
      Nat.div_le_div_right (by omega)
    omega
  · rw [Nat.mul_div_cancel' (Nat.dvd_of_mod_eq_zero onStep)]
    omega

/--
Whether a run maps letters to letters.

Most runs lie within one range of letters and end within another; of the others
each code point is looked up.
-/
def keepsLetters (run : CaseRun) : Bool :=
  alphabeticRanges.spans run.first run.last &&
      alphabeticRanges.spans (run.target run.first) (run.target run.last) ||
    run.codes.all fun code =>
      alphabeticRanges.holds code && alphabeticRanges.holds (run.target code)

/-- A run that maps letters to letters does so at every code point that it covers. -/
theorem holds_of_keepsLetters
    {run : CaseRun}
    {code : Nat}
    (keeps : run.keepsLetters = true)
    (covered : run.covers code = true) :
    alphabeticRanges.holds code = true ∧ alphabeticRanges.holds (run.target code) = true := by
  simp only [keepsLetters, Bool.or_eq_true, Bool.and_eq_true, List.all_eq_true] at keeps
  rcases keeps with ⟨sourceSpanned, targetSpanned⟩ | each
  · simp only [covers, Bool.and_eq_true, decide_eq_true_eq] at covered
    obtain ⟨⟨afterFirst, beforeLast⟩, -⟩ := covered
    exact ⟨Ranges.holds_of_spans sourceSpanned afterFirst beforeLast,
      Ranges.holds_of_spans targetSpanned (run.target_mono afterFirst)
        (run.target_mono beforeLast)⟩
  · exact each code (mem_codes covered)

end CaseRun

/-- A code point that runs move is one that some run covers. -/
theorem mapCode_cases
    (runs : List CaseRun)
    (code : Nat) :
    mapCode runs code = code ∨
      ∃ run ∈ runs, run.covers code = true ∧ mapCode runs code = run.target code := by
  induction runs with
  | nil =>
      exact .inl rfl
  | cons run rest inductionHypothesis =>
      unfold mapCode
      split
      · exact .inl rfl
      · split
        · rename_i covered
          exact .inr ⟨run, List.mem_cons_self, covered, rfl⟩
        · refine inductionHypothesis.imp_right ?_
          rintro ⟨later, member, covered⟩
          exact ⟨later, List.mem_cons_of_mem _ member, covered⟩

/-- Every run of the mapping to small letters maps letters to letters. -/
theorem lowercaseRuns_keepLetters : lowercaseRuns.all CaseRun.keepsLetters = true := by
  decide +kernel

/-- The code points of letters are code points of characters. -/
theorem isValidChar_of_letter
    {code : Nat}
    (letter : alphabeticRanges.holds code = true) :
    code.isValidChar := by
  have bounded :
      (alphabeticRanges.all fun range =>
        range.2.blt 0xD800 || (Nat.blt 0xDFFF range.1 && range.2.blt 0x110000)) = true := by
    decide +kernel
  obtain ⟨range, member, low, high⟩ := Ranges.exists_of_holds letter
  have := List.all_eq_true.mp bounded range member
  simp only [Bool.or_eq_true, Bool.and_eq_true, Nat.blt_eq] at this
  rcases this with below | ⟨above, inside⟩
  · exact .inl (by omega)
  · exact .inr ⟨by omega, by omega⟩

/-- The character of a letter's code point has that code point. -/
theorem toNat_ofNat_of_letter
    {code : Nat}
    (letter : alphabeticRanges.holds code = true) :
    (Char.ofNat code).toNat = code := by
  unfold Char.ofNat
  rw [dif_pos (isValidChar_of_letter letter)]
  rfl

/-- What a character can be lowered to: only `İ` brings in more than letters. -/
inductive LowersTo : Char → List Char → Prop where
  | same
      {c : Char}
      (undotted : c ≠ 'İ') :
      LowersTo c [c]
  | letter
      {c lowered : Char}
      (undotted : c ≠ 'İ')
      (capital : isAlphabetic c = true)
      (small : isAlphabetic lowered = true) :
      LowersTo c [lowered]
  | dotted : LowersTo 'İ' ['i', '\u0307']

/-- A character is its own small form, or a letter whose small form is a letter, or `İ`. -/
theorem lowersTo_toLowercase (c : Char) : LowersTo c (toLowercase c) := by
  by_cases dotted : c = 'İ'
  · subst dotted
    exact .dotted
  have single : toLowercase c = [Char.ofNat (mapCode lowercaseRuns c.toNat)] := by
    have unlisted : (c.toNat == 0x130) = false :=
      beq_eq_false_iff_ne.mpr fun sameCode => dotted (Char.toNat_inj.mp sameCode)
    simp only [toLowercase, mapChar, lowercaseExpansions, List.lookup_cons, List.lookup_nil,
      unlisted]
  rw [single]
  rcases mapCode_cases lowercaseRuns c.toNat with unmoved | ⟨run, member, covered, moved⟩
  · rw [unmoved, Char.ofNat_toNat]
    exact .same dotted
  · have keeps := List.all_eq_true.mp lowercaseRuns_keepLetters run member
    obtain ⟨letter, loweredLetter⟩ := run.holds_of_keepsLetters keeps covered
    rw [moved]
    refine .letter dotted letter ?_
    rw [isAlphabetic, toNat_ofNat_of_letter loweredLetter]
    exact loweredLetter

end Wiring.Unicode

namespace Wiring.Identifier

/-- A letter may stand inside an identifier. -/
theorem isBodyChar_of_letter
    {c : Char}
    (letter : Unicode.isAlphabetic c = true) :
    isBodyChar c = true := by
  rw [isBodyChar, Unicode.isAlphanumeric, letter, Bool.true_or, Bool.true_or]

/-- A letter may start an identifier. -/
theorem isStartChar_of_letter
    {c : Char}
    (letter : Unicode.isAlphabetic c = true) :
    isStartChar c = true := by
  rw [isStartChar, letter, Bool.true_or]

/-- A decimal digit may not start an identifier. -/
theorem not_isDigit_of_start
    {c : Char}
    (starts : isStartChar c = true) :
    c.isDigit = false := by
  refine Bool.eq_false_iff.mpr fun digit => ?_
  simp only [Char.isDigit, Bool.and_eq_true, decide_eq_true_eq] at digit
  obtain ⟨-, atMostNine⟩ := digit
  have low : c.toNat < 0x41 := Nat.lt_of_le_of_lt atMostNine (by decide)
  have noLetter : Unicode.isAlphabetic c = false := if_pos low
  rw [isStartChar, noLetter, Bool.false_or, beq_iff_eq] at starts
  subst starts
  exact absurd low (by decide)

end Wiring.Identifier

namespace Wiring.Unicode.LowersTo

/-- Lowering a character keeps whether it can start an identifier, and whether it is a digit. -/
theorem exists_head
    {c : Char}
    {form : List Char}
    (lowersTo : LowersTo c form) :
    ∃ first rest,
      form = first :: rest ∧
        Identifier.isStartChar first = Identifier.isStartChar c ∧
        first.isDigit = c.isDigit := by
  cases lowersTo with
  | same =>
      exact ⟨c, [], rfl, rfl, rfl⟩
  | @letter _ lowered _ capital small =>
      have startsCapital := Identifier.isStartChar_of_letter capital
      have startsSmall := Identifier.isStartChar_of_letter small
      exact ⟨lowered, [], rfl, startsSmall.trans startsCapital.symm,
        (Identifier.not_isDigit_of_start startsSmall).trans
          (Identifier.not_isDigit_of_start startsCapital).symm⟩
  | dotted =>
      exact ⟨'i', ['\u0307'], rfl, by decide +kernel, by decide⟩

/-- Lowering a character of identifiers leaves identifiers exactly if the character is `İ`. -/
theorem forall_isBodyChar_iff
    {c : Char}
    {form : List Char}
    (lowersTo : LowersTo c form)
    (spelled : Identifier.isBodyChar c = true) :
    (∀ lowered ∈ form, Identifier.isBodyChar lowered = true) ↔ c ≠ 'İ' := by
  cases lowersTo with
  | same undotted =>
      exact iff_of_true (List.forall_mem_singleton.mpr spelled) undotted
  | letter undotted _ small =>
      exact iff_of_true (List.forall_mem_singleton.mpr (Identifier.isBodyChar_of_letter small))
        undotted
  | dotted =>
      refine iff_of_false (fun body => ?_) (not_not_intro rfl)
      exact absurd (body '\u0307' (by decide)) (by decide +kernel)

end Wiring.Unicode.LowersTo

namespace Wiring.Text

/-- A text is lowered character by character. -/
theorem lowercaseAfter_cons
    (before after : List Char)
    (c : Char) :
    ∃ form,
      Unicode.LowersTo c form ∧
        lowercaseAfter before (c :: after) = form ++ lowercaseAfter (c :: before) after := by
  refine ⟨_, ?_, rfl⟩
  by_cases sigma : c = 'Σ'
  · subst sigma
    rw [if_pos rfl]
    split
    · exact .letter (by decide) (by decide +kernel) (by decide +kernel)
    · exact .letter (by decide) (by decide +kernel) (by decide +kernel)
  · rw [if_neg sigma]
    exact Unicode.lowersTo_toLowercase c

/-- Lowering brings in what no identifier may hold exactly where an `İ` stands. -/
theorem forall_mem_lowercaseAfter_iff
    {text : List Char}
    (spelled : ∀ c ∈ text, Identifier.isBodyChar c = true)
    (before : List Char) :
    (∀ c ∈ lowercaseAfter before text, Identifier.isBodyChar c = true) ↔ 'İ' ∉ text := by
  induction text generalizing before with
  | nil =>
      simp only [lowercaseAfter, List.not_mem_nil, false_imp_iff, implies_true, not_false_eq_true]
  | cons c after inductionHypothesis =>
      obtain ⟨form, lowersTo, split⟩ := lowercaseAfter_cons before after c
      obtain ⟨spelledHead, spelledAfter⟩ := List.forall_mem_cons.mp spelled
      rw [split, List.forall_mem_append, inductionHypothesis spelledAfter,
        lowersTo.forall_isBodyChar_iff spelledHead, List.mem_cons, not_or]
      exact and_congr_left fun _ => ne_comm

end Wiring.Text
