namespace Wiring.Unicode

/-!
# Code-point ranges

A character class is a list of inclusive ranges of code points, in ascending
order. Membership is decided by walking the list, and the walk ends at the first
range that starts beyond the code point.
-/

/-- Inclusive ranges of code points, in ascending order. -/
abbrev Ranges := List (Nat × Nat)

/-- Whether ascending ranges hold a code point. -/
def Ranges.holds : Ranges → Nat → Bool
  | [], _ => false
  | (low, high) :: rest, code =>
      if code < low then
        false
      else
        code ≤ high || Ranges.holds rest code

/-- A code point that some range holds lies between the ends of that range. -/
theorem Ranges.exists_of_holds
    {ranges : Ranges}
    {code : Nat}
    (held : ranges.holds code = true) :
    ∃ range ∈ ranges, range.1 ≤ code ∧ code ≤ range.2 := by
  induction ranges with
  | nil =>
      simp [Ranges.holds] at held
  | cons range rest inductionHypothesis =>
      unfold Ranges.holds at held
      split at held
      · simp at held
      · rename_i notBelow
        simp only [Bool.or_eq_true, decide_eq_true_eq] at held
        rcases held with inRange | inRest
        · exact ⟨range, by simp, by omega, inRange⟩
        · obtain ⟨later, member, bounds⟩ := inductionHypothesis inRest
          exact ⟨later, List.mem_cons_of_mem _ member, bounds⟩

end Wiring.Unicode
