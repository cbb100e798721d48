import Mathlib.Data.List.Forall2

/-!
# Lists related place by place

What `List.Forall₂` says about single members, when a map that may fail succeeds,
namely if every member of the list has a result, and where its results come from.
-/

namespace List.Forall₂

/-- A member of the first list has a partner in the second. -/
theorem exists_of_mem_left
    {relation : α → β → Prop}
    {lefts : List α}
    {rights : List β}
    (related : List.Forall₂ relation lefts rights)
    {left : α}
    (member : left ∈ lefts) :
    ∃ right ∈ rights, relation left right := by
  induction related with
  | nil =>
      simp at member
  | cons first later inductionHypothesis =>
      rcases List.mem_cons.mp member with isFirst | inRest
      · rw [isFirst]
        exact ⟨_, by simp, first⟩
      · obtain ⟨right, rightMember, holds⟩ := inductionHypothesis inRest
        exact ⟨right, List.mem_cons_of_mem _ rightMember, holds⟩

/-- A member of the second list has a partner in the first. -/
theorem exists_of_mem_right
    {relation : α → β → Prop}
    {lefts : List α}
    {rights : List β}
    (related : List.Forall₂ relation lefts rights)
    {right : β}
    (member : right ∈ rights) :
    ∃ left ∈ lefts, relation left right :=
  exists_of_mem_left related.flip member

/-- Relations of three lists place by place are composed. -/
theorem comp
    {first : α → β → Prop}
    {second : β → γ → Prop}
    {lefts : List α}
    {middles : List β}
    {rights : List γ}
    (related : List.Forall₂ first lefts middles)
    (relatedToo : List.Forall₂ second middles rights) :
    List.Forall₂ (fun left right => ∃ middle ∈ middles, first left middle ∧ second middle right)
      lefts rights := by
  induction related generalizing rights with
  | nil =>
      cases relatedToo
      exact .nil
  | @cons left middle lefts middles holds later inductionHypothesis =>
      cases relatedToo with
      | cons holdsToo laterToo =>
          refine .cons ⟨middle, by simp, holds, holdsToo⟩ ?_
          refine (inductionHypothesis laterToo).imp ?_
          rintro other right ⟨between, member, both⟩
          exact ⟨between, List.mem_cons_of_mem middle member, both⟩

/-- The first of two related lists is related to what is made of both. -/
theorem zipWith_right
    {relation : α → β → Prop}
    {made : α → γ → Prop}
    {function : α → β → γ}
    (holds : ∀ left right, relation left right → made left (function left right))
    {lefts : List α}
    {rights : List β}
    (related : List.Forall₂ relation lefts rights) :
    List.Forall₂ made lefts (List.zipWith function lefts rights) := by
  induction related with
  | nil =>
      exact .nil
  | cons first later inductionHypothesis =>
      exact .cons (holds _ _ first) inductionHypothesis

/-- What is made of two lists place by place is related to the places of the first and a third. -/
theorem zip_zipWith
    {relation : β → γ → Prop}
    {made : α × β → δ → Prop}
    {function : α → γ → δ}
    (holds : ∀ left middle right, relation middle right → made (left, middle) (function left right))
    {lefts : List α}
    {middles : List β}
    {rights : List γ}
    (arity : lefts.length = middles.length)
    (related : List.Forall₂ relation middles rights) :
    List.Forall₂ made (lefts.zip middles) (List.zipWith function lefts rights) := by
  induction related generalizing lefts with
  | nil =>
      rw [List.zip_nil_right, List.zipWith_nil_right]
      exact .nil
  | cons first later inductionHypothesis =>
      cases lefts with
      | nil =>
          cases arity
      | cons left lefts =>
          exact .cons (holds left _ _ first) (inductionHypothesis (Nat.succ.inj arity))

end List.Forall₂

namespace List

/-- A map with errors succeeds if every member has a result. -/
theorem exists_mapM_ok
    {function : α → Except ε β}
    {items : List α}
    (each : ∀ item ∈ items, ∃ result, function item = .ok result) :
    ∃ results, items.mapM function = .ok results := by
  induction items with
  | nil =>
      exact ⟨[], rfl⟩
  | cons item rest inductionHypothesis =>
      obtain ⟨result, first⟩ := each item (by simp)
      obtain ⟨results, later⟩ :=
        inductionHypothesis
          (fun other member => each other (List.mem_cons_of_mem item member))
      refine ⟨result :: results, ?_⟩
      rw [List.mapM_cons, first, later]
      rfl

/-- The results of a map with errors are those of the members in order. -/
theorem forall₂_of_mapM_eq_ok
    {function : α → Except ε β}
    {items : List α}
    {results : List β}
    (mapped : items.mapM function = .ok results) :
    List.Forall₂ (fun item result => function item = .ok result) items results := by
  induction items generalizing results with
  | nil =>
      cases mapped
      exact .nil
  | cons item rest inductionHypothesis =>
      rw [List.mapM_cons] at mapped
      cases first : function item with
      | error failure =>
          rw [first] at mapped
          cases mapped
      | ok output =>
          cases later : rest.mapM function with
          | error failure =>
              rw [first, later] at mapped
              cases mapped
          | ok others =>
              rw [first, later] at mapped
              cases mapped
              exact .cons first (inductionHypothesis later)

/-- A map with errors gives the results of the members in order. -/
theorem mapM_eq_ok_of_forall₂
    {function : α → Except ε β}
    {items : List α}
    {results : List β}
    (related :
      List.Forall₂ (fun item result => function item = .ok result) items results) :
    items.mapM function = .ok results := by
  induction related with
  | nil =>
      rfl
  | cons first later inductionHypothesis =>
      rw [List.mapM_cons, first, inductionHypothesis]
      rfl

/-- If one map with errors succeeds where another does, with equal views, so do their results. -/
theorem exists_mapM_ok_of_mapM_eq_ok
    {function other : α → Except ε β}
    {view change : β → γ}
    {items : List α}
    (each :
      ∀ item ∈ items, ∀ result,
        function item = .ok result →
        ∃ changed, other item = .ok changed ∧ view changed = change result)
    {results : List β}
    (mapped : items.mapM function = .ok results) :
    ∃ changed, items.mapM other = .ok changed ∧ changed.map view = results.map change := by
  induction items generalizing results with
  | nil =>
      cases mapped
      exact ⟨[], rfl, rfl⟩
  | cons item rest inductionHypothesis =>
      cases forall₂_of_mapM_eq_ok mapped with
      | @cons _ result _ later first others =>
          obtain ⟨changed, firstChanged, sameView⟩ := each item (by simp) result first
          obtain ⟨changedLater, laterChanged, sameViews⟩ :=
            inductionHypothesis
              (fun member inRest => each member (List.mem_cons_of_mem item inRest))
              (mapM_eq_ok_of_forall₂ others)
          refine ⟨changed :: changedLater, ?_, ?_⟩
          · rw [List.mapM_cons, firstChanged, laterChanged]
            rfl
          · rw [List.map_cons, List.map_cons, sameView, sameViews]

/-- Every result of a map with errors is the result of a member. -/
theorem exists_of_mem_mapM_ok
    {function : α → Except ε β}
    {items : List α}
    {results : List β}
    (mapped : items.mapM function = .ok results)
    {result : β}
    (member : result ∈ results) :
    ∃ item ∈ items, function item = .ok result :=
  (forall₂_of_mapM_eq_ok mapped).exists_of_mem_right member

/-- The results of a partial map are those of the members in order. -/
theorem forall₂_of_mapM_eq_some
    {function : α → Option β}
    {items : List α}
    {results : List β}
    (mapped : items.mapM function = some results) :
    List.Forall₂ (fun item result => function item = some result) items results := by
  induction items generalizing results with
  | nil =>
      cases mapped
      exact .nil
  | cons item rest inductionHypothesis =>
      rw [List.mapM_cons] at mapped
      cases first : function item with
      | none =>
          simp [first] at mapped
      | some result =>
          cases later : rest.mapM function with
          | none =>
              simp [first, later] at mapped
          | some others =>
              rw [first, later] at mapped
              cases mapped
              exact .cons first (inductionHypothesis later)

/-- A partial map gives the results of the members in order. -/
theorem mapM_eq_some_of_forall₂
    {function : α → Option β}
    {items : List α}
    {results : List β}
    (related :
      List.Forall₂ (fun item result => function item = some result) items results) :
    items.mapM function = some results := by
  induction related with
  | nil =>
      rfl
  | cons first later inductionHypothesis =>
      rw [List.mapM_cons, first, inductionHypothesis]
      rfl

end List
