import Mathlib
import Wiring.Identifier.Fresh

namespace Wiring.Identifier

/-!
# Fresh names are free

The numbered spellings of one base differ from each other, so among one more of
them than there are taken names some spelling is free, and the search for the
first free number ends at it.
-/

/-- Different numbers give different spellings. -/
theorem numbered_injective
    (base : String) :
    Function.Injective (numbered base) := by
  intro number other same
  exact Nat.repr_injective ((String.append_right_inj base).mp same)

/--
The search returns the spelling some steps on; those before it are taken, and it
is free itself unless the budget is used up.
-/
theorem firstFreeNumbered_eq
    (taken : List String)
    (base : String)
    (budget number : Nat) :
    ∃ steps ≤ budget,
      firstFreeNumbered taken base budget number = numbered base (number + steps) ∧
        (∀ earlier < steps, numbered base (number + earlier) ∈ taken) ∧
        (steps < budget → numbered base (number + steps) ∉ taken) := by
  induction budget generalizing number with
  | zero =>
      exact ⟨0, Nat.le_refl 0, rfl, by simp, by simp⟩
  | succ budget inductionHypothesis =>
      simp only [firstFreeNumbered, List.contains_iff_mem]
      by_cases isTaken : numbered base number ∈ taken
      · rw [if_pos isTaken]
        obtain ⟨steps, inBudget, result, before, free⟩ :=
          inductionHypothesis (number + 1)
        refine ⟨steps + 1, by omega, ?_, ?_, ?_⟩
        · rw [result, Nat.add_assoc, Nat.add_comm 1 steps]
        · intro earlier bound
          cases earlier with
          | zero =>
              exact isTaken
          | succ earlier =>
              have holds := before earlier (by omega)
              rwa [Nat.add_assoc, Nat.add_comm 1 earlier] at holds
        · intro bound
          have holds := free (by omega)
          rwa [Nat.add_assoc, Nat.add_comm 1 steps] at holds
      · rw [if_neg isTaken]
        exact ⟨0, Nat.zero_le _, rfl, by simp, fun _ => isTaken⟩

/-- With a budget as large as the number of taken names the search finds a free one. -/
theorem firstFreeNumbered_not_mem
    (taken : List String)
    (base : String)
    (number : Nat) :
    firstFreeNumbered taken base taken.length number ∉ taken := by
  obtain ⟨steps, inBudget, result, before, free⟩ :=
    firstFreeNumbered_eq taken base taken.length number
  rw [result]
  by_cases within : steps < taken.length
  · exact free within
  · intro isTaken
    have exhausted : steps = taken.length := by omega
    subst exhausted
    let spellings :=
      (List.range (taken.length + 1)).map
        (fun offset => numbered base (number + offset))
    have distinct : spellings.Nodup :=
      List.Nodup.map
        (fun offset other same => by
          have sameNumber := numbered_injective base same
          omega)
        List.nodup_range
    have allTaken : spellings ⊆ taken := by
      intro spelling member
      obtain ⟨offset, inRange, rfl⟩ := List.mem_map.mp member
      rw [List.mem_range] at inRange
      rcases Nat.lt_succ_iff_lt_or_eq.mp inRange with isBefore | isLast
      · exact before offset isBefore
      · rw [isLast]
        exact isTaken
    have bound := distinct.length_le_of_subset allTaken
    simp only [spellings, List.length_map, List.length_range] at bound
    omega

/--
A fresh name is the base if that is free, else the first free alternative, else the
base with the least number from two upward that is free.
-/
theorem fresh_cases
    (taken : List String)
    (base : String)
    (alternatives : List String) :
    (base ∉ taken ∧ fresh taken base alternatives = base) ∨
      (base ∈ taken ∧
        ∃ alternative,
          alternatives.find? (fun name => !taken.contains name) = some alternative ∧
            alternative ∉ taken ∧
            fresh taken base alternatives = alternative) ∨
      (base ∈ taken ∧
        (∀ alternative ∈ alternatives, alternative ∈ taken) ∧
        ∃ steps,
          fresh taken base alternatives = numbered base (2 + steps) ∧
            ∀ earlier < steps, numbered base (2 + earlier) ∈ taken) := by
  unfold fresh
  by_cases isTaken : base ∈ taken
  · have passedOver :
        (base :: alternatives).find? (fun name => !taken.contains name) =
          alternatives.find? (fun name => !taken.contains name) :=
      List.find?_cons_of_neg (by simpa using isTaken)
    rw [passedOver]
    cases found : alternatives.find? (fun name => !taken.contains name) with
    | some alternative =>
        have free : alternative ∉ taken := by simpa using List.find?_some found
        exact .inr (.inl ⟨isTaken, alternative, rfl, free, rfl⟩)
    | none =>
        have allTaken : ∀ alternative ∈ alternatives, alternative ∈ taken := by
          simpa using found
        obtain ⟨steps, -, result, before, -⟩ :=
          firstFreeNumbered_eq taken base taken.length 2
        exact .inr (.inr ⟨isTaken, allTaken, steps, result, before⟩)
  · have isFirst :
        (base :: alternatives).find? (fun name => !taken.contains name) = some base :=
      List.find?_cons_of_pos (by simpa using isTaken)
    rw [isFirst]
    exact .inl ⟨isTaken, rfl⟩

/-- A fresh name is not taken. -/
theorem fresh_not_mem
    (taken : List String)
    (base : String)
    (alternatives : List String) :
    fresh taken base alternatives ∉ taken := by
  unfold fresh
  split
  · rename_i name found
    simpa using List.find?_some found
  · exact firstFreeNumbered_not_mem taken base 2

end Wiring.Identifier
