import Wiring.Proofs.Occurrence
import Wiring.Proofs.Pairing
import Wiring.Resolution

namespace Wiring.Resolution

/-!
# Derivations of trees

A resolved tree is determined by the recipes that are remembered at the end.
`Resolves` says, without memory and without a limit, which tree a need leads to
under fixed recipes. Resolution only ever adds recipes to its memory, so what
was resolved early still holds at the end, and every successful resolution ends
in a derivation. Two derivations for one identity construct it from the same
children.
-/

/-- `tree` is what a stated need leads to when the recipes are those of `known`. -/
inductive Resolves
    (setting : Setting)
    (known : Keyed Recipe) :
    Need → Tree → Prop where
  | supplied
      {stated : Need}
      {hoist : Bool}
      (given :
        setting.supplied.get? (setting.substitutions.apply stated).identity =
          some hoist) :
      Resolves setting known stated
        (.node (setting.substitutions.apply stated).wanted .caller hoist [])
  | constructed
      {stated : Need}
      {recipe : Recipe}
      {children : List Tree}
      (free :
        setting.supplied.get? (setting.substitutions.apply stated).identity = none)
      (remembered :
        known.get? (setting.substitutions.apply stated).identity = some recipe)
      (arity : recipe.needs.length = children.length)
      (each :
        ∀ need child,
          (need, child) ∈ recipe.needs.zip children →
          Resolves setting known need child) :
      Resolves setting known stated
        (.node
          (nodeType (setting.substitutions.apply stated).wanted recipe children)
          (.recipe recipe)
          false
          children)

/-- Every need of a list leads to the tree at the same place. -/
abbrev ResolvesEach
    (setting : Setting)
    (known : Keyed Recipe) :
    List Need → List Tree → Prop :=
  List.Forall₂ (Resolves setting known)

/-- The type of a node has the identity of the wanted type. -/
@[simp] theorem identity_nodeType
    (wanted : NamedType)
    (recipe : Recipe)
    (children : List Tree) :
    (nodeType wanted recipe children).identity = wanted.identity := by
  unfold nodeType
  split <;> rfl

namespace Resolves

variable {setting : Setting} {known : Keyed Recipe}

/-- A tree has the identity of the need that it is for, after substitution. -/
theorem identity_eq
    {stated : Need}
    {tree : Tree}
    (resolves : Resolves setting known stated tree) :
    tree.identity = (setting.substitutions.apply stated).identity := by
  cases resolves with
  | supplied given =>
      rfl
  | constructed free remembered arity each =>
      simp [Need.identity]

/-- A constructed node carries the recipe that is known for its identity. -/
theorem recipe_known
    {stated : Need}
    {tree : Tree}
    {recipe : Recipe}
    (resolves : Resolves setting known stated tree)
    (origin : tree.origin = .recipe recipe) :
    known.get? tree.identity = some recipe ∧
      ResolvesEach setting known recipe.needs tree.children := by
  have sameIdentity := resolves.identity_eq
  cases resolves with
  | supplied given =>
      simp at origin
  | constructed free remembered arity each =>
      simp only [Tree.origin_node, Origin.recipe.injEq] at origin
      subst origin
      rw [sameIdentity]
      exact ⟨remembered, List.forall₂_iff_zip.mpr ⟨arity, fun member => each _ _ member⟩⟩

/-- A derivation stays valid when recipes are added. -/
theorem mono
    {later : Keyed Recipe}
    (grows :
      ∀ identity recipe,
        known.get? identity = some recipe →
        later.get? identity = some recipe)
    {stated : Need}
    {tree : Tree}
    (resolves : Resolves setting known stated tree) :
    Resolves setting later stated tree := by
  induction resolves with
  | supplied given =>
      exact .supplied given
  | constructed free remembered arity each inductionHypothesis =>
      exact .constructed free (grows _ _ remembered) arity inductionHypothesis

end Resolves

/-- Lists derived from the same needs are equal if the trees of each need are. -/
private theorem eq_of_resolvesEach
    {setting : Setting}
    {known : Keyed Recipe}
    {needs : List Need}
    {children others : List Tree}
    (unique :
      ∀ need child,
        (need, child) ∈ needs.zip children →
        ∀ other, Resolves setting known need other → child = other)
    (arity : needs.length = children.length)
    (resolves : ResolvesEach setting known needs others) :
    children = others := by
  induction resolves generalizing children with
  | nil =>
      cases children with
      | nil =>
          rfl
      | cons child rest =>
          simp at arity
  | @cons need other laterNeeds laterOthers first later inductionHypothesis =>
      cases children with
      | nil =>
          simp at arity
      | cons child rest =>
          have sameFirst : child = other :=
            unique need child (by simp) other first
          have sameRest : rest = laterOthers :=
            inductionHypothesis
              (fun laterNeed laterChild member =>
                unique laterNeed laterChild
                  (by simpa using Or.inr member))
              (by simpa using arity)
          rw [sameFirst, sameRest]

namespace Resolves

variable {setting : Setting} {known : Keyed Recipe}

/-- A need leads to at most one tree. -/
theorem unique
    {stated : Need}
    {tree other : Tree}
    (resolves : Resolves setting known stated tree)
    (resolvesOther : Resolves setting known stated other) :
    tree = other := by
  induction resolves generalizing other with
  | supplied given =>
      cases resolvesOther with
      | supplied givenOther =>
          rw [given] at givenOther
          cases givenOther
          rfl
      | constructed free remembered arity each =>
          rw [given] at free
          contradiction
  | @constructed stated recipe children free remembered arity each inductionHypothesis =>
      cases resolvesOther with
      | supplied givenOther =>
          rw [free] at givenOther
          contradiction
      | constructed freeOther rememberedOther arityOther eachOther =>
          rw [remembered] at rememberedOther
          cases rememberedOther
          have sameChildren :=
            eq_of_resolvesEach
              (fun need child member other resolvesChild =>
                inductionHypothesis need child member resolvesChild)
              arity
              (List.forall₂_iff_zip.mpr
                ⟨arityOther, fun member => eachOther _ _ member⟩)
          rw [sameChildren]

/-- Two trees for one identity have the same origin, the same mark and the same children. -/
theorem shared
    {stated other : Need}
    {tree otherTree : Tree}
    (resolves : Resolves setting known stated tree)
    (resolvesOther : Resolves setting known other otherTree)
    (sameIdentity : tree.identity = otherTree.identity) :
    tree.origin = otherTree.origin ∧
      tree.hoist = otherTree.hoist ∧
      tree.children = otherTree.children := by
  rw [resolves.identity_eq, resolvesOther.identity_eq] at sameIdentity
  cases resolves with
  | supplied given =>
      rw [sameIdentity] at given
      cases resolvesOther with
      | supplied givenOther =>
          rw [given] at givenOther
          cases givenOther
          exact ⟨rfl, rfl, rfl⟩
      | constructed free remembered arity each =>
          rw [given] at free
          contradiction
  | constructed free remembered arity each =>
      rw [sameIdentity] at free remembered
      cases resolvesOther with
      | supplied givenOther =>
          rw [free] at givenOther
          contradiction
      | constructed freeOther rememberedOther arityOther eachOther =>
          rw [remembered] at rememberedOther
          cases rememberedOther
          have sameChildren :=
            eq_of_resolvesEach
              (fun need child member otherChild resolvesChild =>
                (each need child member).unique resolvesChild)
              arity
              (List.forall₂_iff_zip.mpr
                ⟨arityOther, fun member => eachOther _ _ member⟩)
          exact ⟨rfl, rfl, sameChildren⟩

end Resolves

end Wiring.Resolution
