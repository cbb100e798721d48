import Mathlib.Data.List.Forall2
import Wiring.Blueprint.Draft
import Wiring.Proofs.Occurrence

namespace Wiring

/-!
# Runs of the layout

What the layout of a tree, of a list of trees and of a whole function can do, and
the principle by which a property of drafts passes from single steps to runs: a
supplied value is met again or becomes a parameter, a constructed one is met
again or is built from the values of its children.
-/

namespace Scope

/-- Laying out a list of trees lays out the first and then the others. -/
theorem layEach_cons_ok
    {scope : Scope}
    {zeros : List ZeroValue}
    {constructing : List String}
    {tree : Tree}
    {rest : List Tree}
    {draft later : Draft}
    {values : List Value}
    (laid :
      scope.layEach zeros constructing (tree :: rest) draft = .ok (values, later)) :
    ∃ value middle others,
      scope.layTree zeros constructing tree draft = .ok (value, middle) ∧
        scope.layEach zeros constructing rest middle = .ok (others, later) ∧
        values = value :: others := by
  simp only [layEach] at laid
  split at laid
  · cases laid
  · rename_i value middle first
    split at laid
    · cases laid
    · rename_i others last remaining
      cases laid
      exact ⟨value, middle, others, first, remaining, rfl⟩

/-- Laying out a list of trees gives one value for each. -/
theorem length_layEach
    {scope : Scope}
    {zeros : List ZeroValue}
    {constructing : List String}
    {trees : List Tree}
    {draft later : Draft}
    {values : List Value}
    (laid : scope.layEach zeros constructing trees draft = .ok (values, later)) :
    values.length = trees.length := by
  induction trees generalizing draft values with
  | nil =>
      cases laid
      rfl
  | cons tree rest inductionHypothesis =>
      obtain ⟨value, middle, others, first, remaining, rfl⟩ := layEach_cons_ok laid
      simp [inductionHypothesis remaining]

/-- What laying out one tree with success can do. -/
theorem layTree_ok_cases
    {scope : Scope}
    {zeros : List ZeroValue}
    {constructing : List String}
    {tree : Tree}
    {draft later : Draft}
    {value : Value}
    (laid : scope.layTree zeros constructing tree draft = .ok (value, later)) :
    (tree.isSupplied = true ∧
        ∃ parameter,
          draft.parameter? tree.identity = some parameter ∧
            value = parameter.value ∧
            later = draft) ∨
      (tree.isSupplied = true ∧
        draft.parameter? tree.identity = none ∧
        scope.layParameter tree.type tree.hoist draft = .ok (value, later)) ∨
      (tree.isSupplied = false ∧
        draft.built.get? tree.identity = some value ∧
        later = draft) ∨
      (tree.isSupplied = false ∧
        draft.built.get? tree.identity = none ∧
        ∃ recipe inputs middle last,
          tree.origin = .recipe recipe ∧
            scope.layEach zeros (tree.identity :: constructing)
                tree.children draft =
              .ok (inputs, middle) ∧
            scope.layRecipe zeros tree.type recipe inputs middle = .ok (value, last) ∧
            later = last.remember tree.identity value) := by
  cases tree with
  | node type origin hoist children =>
      simp only [layTree] at laid
      by_cases supplied : (Tree.node type origin hoist children).isSupplied = true
      · rw [if_pos supplied] at laid
        split at laid
        · rename_i parameter found
          cases laid
          exact .inl ⟨supplied, parameter, found, rfl, rfl⟩
        · rename_i absent
          exact .inr (.inl ⟨supplied, absent, laid⟩)
      · rw [if_neg supplied] at laid
        have constructed := Bool.eq_false_iff.mpr supplied
        split at laid
        · rename_i known found
          cases laid
          exact .inr (.inr (.inl ⟨constructed, found, rfl⟩))
        · rename_i absent
          by_cases cyclic : type.identity ∈ constructing
          · rw [if_pos cyclic] at laid
            cases laid
          · rw [if_neg cyclic] at laid
            split at laid
            · rename_i recipe
              split at laid
              · cases laid
              · rename_i inputs middle below
                split at laid
                · cases laid
                · rename_i output last carried
                  cases laid
                  exact .inr (.inr (.inr
                    ⟨constructed, absent, recipe, inputs, middle, last,
                      rfl, below, carried, rfl⟩))
            · cases laid

section Induction

variable {scope : Scope} {zeros : List ZeroValue}
  (invariant : Draft → Prop)
  (grows : Draft → Draft → Prop)
  (stands : Tree → Value → Draft → Prop)
  (refl : ∀ draft, grows draft draft)
  (trans :
    ∀ {draft middle later},
      grows draft middle → grows middle later → grows draft later)
  (stable :
    ∀ {tree value draft later},
      stands tree value draft → grows draft later → stands tree value later)

include refl trans stable

/-- A run over a list keeps what the runs over its trees keep. -/
theorem layEach_induct
    {constructing : List String}
    {trees : List Tree}
    (each :
      ∀ tree ∈ trees, ∀ draft value later,
        invariant draft →
        scope.layTree zeros constructing tree draft = .ok (value, later) →
        invariant later ∧ grows draft later ∧ stands tree value later)
    {draft later : Draft}
    {values : List Value}
    (holds : invariant draft)
    (laid : scope.layEach zeros constructing trees draft = .ok (values, later)) :
    invariant later ∧
      grows draft later ∧
      List.Forall₂ (fun tree value => stands tree value later) trees values := by
  induction trees generalizing draft values with
  | nil =>
      cases laid
      exact ⟨holds, refl _, .nil⟩
  | cons tree rest inductionHypothesis =>
      obtain ⟨value, middle, others, first, remaining, rfl⟩ := layEach_cons_ok laid
      obtain ⟨middleHolds, firstGrows, firstStands⟩ :=
        each tree (by simp) draft value middle holds first
      obtain ⟨laterHolds, laterGrows, othersStand⟩ :=
        inductionHypothesis
          (fun other member => each other (List.mem_cons_of_mem tree member))
          middleHolds remaining
      exact ⟨laterHolds, trans firstGrows laterGrows,
        .cons (stable firstStands laterGrows) othersStand⟩

variable {root : Tree}
  (received :
    ∀ {tree draft parameter},
      root.Exposed tree →
      tree.isSupplied = true →
      invariant draft →
      draft.parameter? tree.identity = some parameter →
      stands tree parameter.value draft)
  (receive :
    ∀ {tree draft value later},
      root.Exposed tree →
      tree.isSupplied = true →
      invariant draft →
      draft.parameter? tree.identity = none →
      scope.layParameter tree.type tree.hoist draft = .ok (value, later) →
      invariant later ∧ grows draft later ∧ stands tree value later)
  (built :
    ∀ {tree draft value},
      root.Exposed tree →
      tree.isSupplied = false →
      invariant draft →
      draft.built.get? tree.identity = some value →
      stands tree value draft)
  (build :
    ∀ {tree recipe inputs draft value later},
      root.Exposed tree →
      tree.isSupplied = false →
      tree.origin = .recipe recipe →
      invariant draft →
      List.Forall₂ (fun below input => stands below input draft)
        tree.children inputs →
      scope.layRecipe zeros tree.type recipe inputs draft = .ok (value, later) →
      invariant (later.remember tree.identity value) ∧
        grows draft (later.remember tree.identity value) ∧
        stands tree value (later.remember tree.identity value))

include received receive built build

/--
A run over an exposed tree keeps what its steps keep.

`grows` relates the drafts before and after, and `stands` is what is known of the
value of a tree, once it has been laid out.
-/
theorem layTree_induct
    (tree : Tree)
    (exposed : root.Exposed tree)
    {constructing : List String}
    {draft later : Draft}
    {value : Value}
    (holds : invariant draft)
    (laid : scope.layTree zeros constructing tree draft = .ok (value, later)) :
    invariant later ∧ grows draft later ∧ stands tree value later := by
  induction tree generalizing constructing draft value later with
  | node type origin hoist children inductionHypothesis =>
      rcases layTree_ok_cases laid with
        ⟨supplied, parameter, found, rfl, rfl⟩ |
        ⟨supplied, absent, received'⟩ |
        ⟨constructed, found, rfl⟩ |
        ⟨constructed, absent, recipe, inputs, middle, last,
          isRecipe, below, carried, rfl⟩
      · exact ⟨holds, refl _, received exposed supplied holds found⟩
      · exact receive exposed supplied holds absent received'
      · exact ⟨holds, refl _, built exposed constructed holds found⟩
      · obtain ⟨middleHolds, middleGrows, inputsStand⟩ :=
          layEach_induct invariant grows stands
            refl trans stable
            (fun below member earlier output last kept laidBelow =>
              inductionHypothesis below member
                (exposed.child constructed member) kept laidBelow)
            holds below
        obtain ⟨lastHolds, lastGrows, valueStands⟩ :=
          build exposed constructed isRecipe middleHolds inputsStand carried
        exact ⟨lastHolds, trans middleGrows lastGrows, valueStands⟩

/-- A run over the children of a root keeps what its steps keep. -/
theorem layChildren_induct
    (empty : invariant Draft.empty)
    {draft : Draft}
    {values : List Value}
    (laid : scope.layEach zeros [] root.children Draft.empty = .ok (values, draft)) :
    invariant draft ∧
      List.Forall₂ (fun child value => stands child value draft) root.children values := by
  obtain ⟨holds, _, stand⟩ :=
    layEach_induct invariant grows stands refl trans stable
      (fun child member _ _ _ kept laidChild =>
        layTree_induct invariant grows stands refl trans stable
          received receive built build child ⟨child, member, .self child⟩ kept laidChild)
      empty laid
  exact ⟨holds, stand⟩

end Induction

/-- A run over the children of a root keeps a property of drafts that each addition keeps. -/
theorem layChildren_keeps
    {scope : Scope}
    {zeros : List ZeroValue}
    {root : Tree}
    (invariant : Draft → Prop)
    (receive :
      ∀ {tree draft value later},
        root.Exposed tree →
        tree.isSupplied = true →
        invariant draft →
        scope.layParameter tree.type tree.hoist draft = .ok (value, later) →
        invariant later)
    (build :
      ∀ {tree recipe inputs draft value later},
        root.Exposed tree →
        tree.isSupplied = false →
        tree.origin = .recipe recipe →
        invariant draft →
        scope.layRecipe zeros tree.type recipe inputs draft = .ok (value, later) →
        invariant (later.remember tree.identity value))
    (empty : invariant Draft.empty)
    {draft : Draft}
    {values : List Value}
    (laid : scope.layEach zeros [] root.children Draft.empty = .ok (values, draft)) :
    invariant draft :=
  (layChildren_induct invariant (fun _ _ => True) (fun _ _ _ => True)
    (fun _ => trivial) (fun _ _ => trivial) (fun _ _ => trivial)
    (fun _ _ _ _ => trivial)
    (fun exposed supplied holds _ received =>
      ⟨receive exposed supplied holds received, trivial, trivial⟩)
    (fun _ _ _ _ => trivial)
    (fun exposed constructed isRecipe holds _ carried =>
      ⟨build exposed constructed isRecipe holds carried, trivial, trivial⟩)
    empty laid).1

end Scope

namespace Blueprint

/-- The function that is put together when its tree has been laid out. -/
def assembled
    (scope : Scope)
    (results : List Value)
    (types : List TypeExpr)
    (draft : Draft) :
    Blueprint :=
  let addsError := draft.statements.any Statement.isGuard && !scope.goal.wantsError
  { goal := scope.goal
    imports := scope.imports.listed
    parameters := draft.parameters.mergeSort Parameter.precedes
    results
    resultTypes := types ++ (if addsError then [TypeExpr.error] else [])
    statements := draft.statements
    returned :=
      Scope.returnedOperands scope.goal results
        ++ (if addsError then [{ adjustment := .unchanged, name := "nil" }] else []) }

/-- A function is laid out in four steps, of which the last cannot fail. -/
theorem layOut_eq_ok_iff
    {goal : Goal}
    {imports : ImportTable}
    {root : Tree}
    {blueprint : Blueprint} :
    layOut goal imports root = .ok blueprint ↔
      ∃ zeros results draft types,
        (Scope.ofTree goal imports root).zeroValues = .ok zeros ∧
          (Scope.ofTree goal imports root).layEach zeros [] root.children Draft.empty =
            .ok (results, draft) ∧
          (Scope.ofTree goal imports root).resultTypes results = .ok types ∧
          blueprint = assembled (Scope.ofTree goal imports root) results types draft := by
  have sameGoal : (Scope.ofTree goal imports root).goal = goal := rfl
  unfold layOut
  generalize Scope.ofTree goal imports root = scope at sameGoal ⊢
  subst sameGoal
  dsimp only
  constructor
  · intro accepted
    cases zerosWritten : scope.zeroValues with
    | error failure =>
        simp [zerosWritten, bind, Except.bind] at accepted
    | ok zeros =>
        cases laid : scope.layEach zeros [] root.children Draft.empty with
        | error failure =>
            simp [zerosWritten, laid, bind, Except.bind] at accepted
        | ok outcome =>
            obtain ⟨results, draft⟩ := outcome
            cases typesWritten : scope.resultTypes results with
            | error failure =>
                simp [zerosWritten, laid, typesWritten, bind, Except.bind] at accepted
            | ok types =>
                rw [zerosWritten] at accepted
                simp only [bind, Except.bind, laid, typesWritten] at accepted
                cases accepted
                exact ⟨zeros, results, draft, types, rfl, laid, typesWritten, rfl⟩
  · rintro ⟨zeros, results, draft, types, zerosWritten, laid, typesWritten, rfl⟩
    rw [zerosWritten]
    simp only [bind, Except.bind, laid, typesWritten]
    rfl

end Blueprint

end Wiring
