import Mathlib.Data.List.Nodup
import Mathlib.Data.String.Basic

namespace Wiring

/-!
# Marked first, then by text

Imports and parameters are listed by one rule: marked ones stand before all others,
and each of the two groups is in the order of a text. Where no text occurs twice,
the order is strict.
-/

section Order

variable {mark : α → Bool} {text : α → String}

/-- A marked item before an unmarked one, or the lesser text of two that are marked alike. -/
def MarkedBefore
    (mark : α → Bool)
    (text : α → String)
    (left right : α) : Prop :=
  (mark left = true ∧ mark right = false) ∨
    (mark left = mark right ∧ text left < text right)

/-- `precedes` compares items by mark and then by text. -/
def ComparesMarked
    (mark : α → Bool)
    (text : α → String)
    (precedes : α → α → Bool) : Prop :=
  ∀ left right,
    precedes left right = true ↔
      (mark left = true ∧ mark right = false) ∨
        (mark left = mark right ∧ text left ≤ text right)

variable {precedes : α → α → Bool} (compares : ComparesMarked mark text precedes)

include compares

theorem ComparesMarked.trans
    {first second third : α}
    (earlier : precedes first second = true)
    (later : precedes second third = true) :
    precedes first third = true := by
  rw [compares] at earlier later ⊢
  rcases earlier with ⟨marked, unmarked⟩ | ⟨alike, ordered⟩
  · rcases later with ⟨contradictory, _⟩ | ⟨alikeToo, _⟩
    · rw [unmarked] at contradictory
      cases contradictory
    · exact .inl ⟨marked, alikeToo ▸ unmarked⟩
  · rcases later with ⟨marked, unmarked⟩ | ⟨alikeToo, orderedToo⟩
    · exact .inl ⟨alike ▸ marked, unmarked⟩
    · exact .inr ⟨alike.trans alikeToo, ordered.trans orderedToo⟩

theorem ComparesMarked.total
    (left right : α) :
    (precedes left right || precedes right left) = true := by
  rw [Bool.or_eq_true, compares, compares]
  cases isLeft : mark left <;> cases isRight : mark right
  case false.false =>
    exact (le_total (text left) (text right)).imp (.inr ⟨rfl, ·⟩) (.inr ⟨rfl, ·⟩)
  case true.true =>
    exact (le_total (text left) (text right)).imp (.inr ⟨rfl, ·⟩) (.inr ⟨rfl, ·⟩)
  case false.true =>
    exact .inr (.inl ⟨rfl, rfl⟩)
  case true.false =>
    exact .inl (.inl ⟨rfl, rfl⟩)

/-- Sorted items of different texts stand strictly before each other. -/
theorem ComparesMarked.pairwise_mergeSort
    {items : List α}
    (distinct : (items.map text).Nodup) :
    (items.mergeSort precedes).Pairwise (MarkedBefore mark text) := by
  have sorted :
      (items.mergeSort precedes).Pairwise (fun left right => precedes left right = true) := by
    apply List.pairwise_mergeSort
    · exact fun _ _ _ => compares.trans
    · exact compares.total
  have differ :
      (items.mergeSort precedes).Pairwise (fun left right => text left ≠ text right) :=
    List.pairwise_map.mp
      (((List.mergeSort_perm items precedes).map text).nodup_iff.mpr distinct)
  refine (sorted.and differ).imp ?_
  rintro left right ⟨before, textsDiffer⟩
  exact ((compares left right).mp before).imp_right
    (fun ordered => ⟨ordered.1, lt_of_le_of_ne ordered.2 textsDiffer⟩)

end Order

end Wiring
