import Mathlib.Data.List.Basic

namespace Wiring

/-!
# Leading runs

Reading a list while a test accepts its members splits the list into a leading run
and what follows it. The split is told by its two ends: the test accepts all of the
run, and not the member behind it.
-/

/-- A test accepts a run of members, and not the member behind it. -/
structure LeadingRun
    {α : Type}
    (accepts : α → Bool)
    (run rest : List α) : Prop where
  accepted : ∀ member ∈ run, accepts member = true
  stops : ∀ next ∈ rest.head?, accepts next = false

namespace LeadingRun

variable {α : Type} {accepts other : α → Bool} {run rest : List α}

/-- Every list is split into its leading run and the rest. -/
theorem exists_eq_append
    (accepts : α → Bool)
    (list : List α) :
    ∃ run rest, list = run ++ rest ∧ LeadingRun accepts run rest := by
  refine ⟨list.takeWhile accepts, list.dropWhile accepts, ?_, ?_, ?_⟩
  · exact List.takeWhile_append_dropWhile.symm
  · exact List.all_eq_true.mp List.all_takeWhile
  · intro next isHead
    have stops := List.head?_dropWhile_not accepts list
    rw [Option.mem_def.mp isHead] at stops
    simpa using stops

/-- Reading a list while the test accepts its members gives the run. -/
theorem takeWhile_eq
    (leading : LeadingRun accepts run rest) :
    (run ++ rest).takeWhile accepts = run := by
  have noneLeft : rest.takeWhile accepts = [] := by
    cases rest with
    | nil =>
        rfl
    | cons next later =>
        exact List.takeWhile_cons_of_neg (Bool.eq_false_iff.mp (leading.stops next rfl))
  rw [List.takeWhile_append_of_pos leading.accepted, noneLeft, List.append_nil]

/-- Passing over the members that the test accepts leaves the rest. -/
theorem dropWhile_eq
    (leading : LeadingRun accepts run rest) :
    (run ++ rest).dropWhile accepts = rest := by
  have noneDropped : rest.dropWhile accepts = rest := by
    cases rest with
    | nil =>
        rfl
    | cons next later =>
        exact List.dropWhile_cons_of_neg (Bool.eq_false_iff.mp (leading.stops next rfl))
  rw [List.dropWhile_append_of_pos leading.accepted, noneDropped]

/-- A list is split into a leading run and the rest in one way only. -/
theorem unique
    (leading : LeadingRun accepts run rest)
    {otherRun otherRest : List α}
    (leadingToo : LeadingRun accepts otherRun otherRest)
    (same : run ++ rest = otherRun ++ otherRest) :
    run = otherRun ∧ rest = otherRest := by
  refine ⟨?_, ?_⟩
  · rw [← leading.takeWhile_eq, same, leadingToo.takeWhile_eq]
  · rw [← leading.dropWhile_eq, same, leadingToo.dropWhile_eq]

/-- What stands in front of the first mark is a leading run of what is no mark. -/
theorem of_mark
    [DecidableEq α]
    {mark : α}
    (absent : mark ∉ run)
    (rest : List α) :
    LeadingRun (fun member => member ≠ mark) run (mark :: rest) where
  accepted := by
    intro member inRun
    exact decide_eq_true (ne_of_mem_of_not_mem inRun absent)
  stops := by
    intro next isHead
    cases isHead
    simp

/-- Lists that agree agree before the first mark and behind it. -/
theorem append_mark_inj
    [DecidableEq α]
    {mark : α}
    {otherRun otherRest : List α}
    (absent : mark ∉ run)
    (absentToo : mark ∉ otherRun)
    (same : run ++ mark :: rest = otherRun ++ mark :: otherRest) :
    run = otherRun ∧ rest = otherRest := by
  obtain ⟨sameRun, sameRest⟩ := (of_mark absent rest).unique (of_mark absentToo otherRest) same
  exact ⟨sameRun, List.tail_eq_of_cons_eq sameRest⟩

/-- Tests that agree on a list have one leading run in it. -/
theorem congr
    (leading : LeadingRun accepts run rest)
    (agree : ∀ member ∈ run ++ rest, other member = accepts member) :
    LeadingRun other run rest where
  accepted := by
    intro member inRun
    rw [agree member (List.mem_append_left rest inRun)]
    exact leading.accepted member inRun
  stops := by
    intro next isHead
    rw [agree next (List.mem_append_right run (List.mem_of_mem_head? isHead))]
    exact leading.stops next isHead

end LeadingRun

end Wiring
