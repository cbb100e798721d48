import Wiring.Proofs.ResolutionAfresh

namespace Wiring

/-!
# Pruning by supplied values

What the caller supplies is not resolved. Supplying one more identity turns every
subtree of this identity into a leaf, and leaves the tree as it is everywhere else, up
to the kinds of its types: a type that an alias stands for is not known any more once it
is supplied. A goal that resolves still resolves.
-/

namespace Tree

mutual

/-- The tree with every topmost node of an identity replaced by a leaf that is supplied. -/
def prune
    (identity : String)
    (hoist : Bool) :
    Tree →
    Tree
  | .node type origin mark children =>
      if type.identity = identity then
        .node type .caller hoist []
      else
        .node type origin mark (pruneEach identity hoist children)

/-- The pruned trees of a list. -/
def pruneEach
    (identity : String)
    (hoist : Bool) :
    List Tree →
    List Tree
  | [] => []
  | tree :: rest => prune identity hoist tree :: pruneEach identity hoist rest

end

mutual

/-- The tree without the kinds of the types of its nodes. -/
def forgetKinds : Tree → Tree
  | .node type origin hoist children =>
      .node (type.withKind .unknown) origin hoist (forgetKindsEach children)

/-- The trees of a list without kinds. -/
def forgetKindsEach : List Tree → List Tree
  | [] => []
  | tree :: rest => forgetKinds tree :: forgetKindsEach rest

end

theorem pruneEach_eq_map
    (identity : String)
    (hoist : Bool)
    (trees : List Tree) :
    pruneEach identity hoist trees = trees.map (prune identity hoist) := by
  induction trees with
  | nil =>
      rfl
  | cons tree rest inductionHypothesis =>
      rw [pruneEach, inductionHypothesis, List.map_cons]

theorem forgetKindsEach_eq_map
    (trees : List Tree) :
    forgetKindsEach trees = trees.map forgetKinds := by
  induction trees with
  | nil =>
      rfl
  | cons tree rest inductionHypothesis =>
      rw [forgetKindsEach, inductionHypothesis, List.map_cons]

/-- Pruning cuts at the root of a tree of the identity. -/
theorem prune_node_of_eq
    {identity : String}
    {type : NamedType}
    (same : type.identity = identity)
    (hoist : Bool)
    (origin : Origin)
    (mark : Bool)
    (children : List Tree) :
    (node type origin mark children).prune identity hoist = .node type .caller hoist [] := by
  rw [prune, if_pos same]

/-- Pruning reaches the children of a tree of another identity. -/
theorem prune_node_of_ne
    {identity : String}
    {type : NamedType}
    (other : type.identity ≠ identity)
    (hoist : Bool)
    (origin : Origin)
    (mark : Bool)
    (children : List Tree) :
    (node type origin mark children).prune identity hoist =
      .node type origin mark (children.map (prune identity hoist)) := by
  rw [prune, if_neg other, pruneEach_eq_map]

/-- Trees are the same without kinds if their types are and their children are. -/
theorem forgetKinds_node_eq
    {type other : NamedType}
    {origin : Origin}
    {hoist : Bool}
    {children others : List Tree}
    (sameType : type.withKind .unknown = other.withKind .unknown)
    (sameChildren : children.map forgetKinds = others.map forgetKinds) :
    (node type origin hoist children).forgetKinds =
      (node other origin hoist others).forgetKinds := by
  simp only [forgetKinds, forgetKindsEach_eq_map, sameType, sameChildren]

end Tree

namespace Resolution

/-- The same setting, in which the caller supplies one more identity. -/
def Setting.supplying
    (setting : Setting)
    (identity : String)
    (hoist : Bool) :
    Setting :=
  { setting with supplied := setting.supplied.insert identity hoist }

section Supplying

variable {setting : Setting} {identity : String} {hoist : Bool} {goals : List Goal}

/-- The shape of a node is the only part of its type that depends on how it is resolved. -/
theorem withKind_nodeType
    (wanted : NamedType)
    (recipe : Recipe)
    (children : List Tree) :
    (nodeType wanted recipe children).withKind .unknown = wanted.withKind .unknown := by
  unfold nodeType
  split <;> rfl

theorem Setting.get?_supplying
    (setting : Setting)
    (identity : String)
    (hoist : Bool)
    (other : String) :
    (setting.supplying identity hoist).supplied.get? other =
      if identity = other then some hoist else setting.supplied.get? other :=
  Keyed.get?_insert setting.supplied identity other hoist

/-- What is not supplied together with one more identity is not supplied without it. -/
theorem Setting.free_of_supplying
    {other : String}
    (free : (setting.supplying identity hoist).supplied.get? other = none) :
    setting.supplied.get? other = none := by
  rw [get?_supplying] at free
  split at free
  · cases free
  · exact free

/-- Less is come to if more is supplied. -/
theorem Occurs.of_supplying
    {need : Need}
    (occurs : Occurs (setting.supplying identity hoist) goals need) :
    Occurs setting goals need := by
  induction occurs with
  | result listed member =>
      exact .result listed member
  | needed occurs free found member inductionHypothesis =>
      exact .needed inductionHypothesis (Setting.free_of_supplying free) found member

/-- The recipes of needs are still a matter of their identities if more is supplied. -/
theorem Agrees.supplying
    (agrees : Agrees setting goals) :
    Agrees (setting.supplying identity hoist) goals :=
  fun need other occurs otherOccurs same =>
    agrees need other occurs.of_supplying otherOccurs.of_supplying same

/-- A need that resolves has the pruned tree if one more identity is supplied. -/
theorem exists_pruned_of_resolveNeedAfresh
    (new : setting.supplied.get? identity = none)
    {root : String}
    {limit : Nat}
    {path : List String}
    {stated : Need}
    {tree : Tree}
    (resolved : resolveNeedAfresh setting root limit path stated = .ok tree) :
    ∃ pruned,
      resolveNeedAfresh (setting.supplying identity hoist) root limit path stated =
          .ok pruned ∧
        pruned.forgetKinds = (tree.prune identity hoist).forgetKinds := by
  induction limit generalizing path stated tree with
  | zero =>
      cases resolved
  | succ limit inductionHypothesis =>
      have suppliedNow :=
        setting.get?_supplying identity hoist (setting.substitutions.apply stated).identity
      rcases resolveNeedAfresh_succ_eq_ok_iff.mp resolved with
        ⟨mark, given, rfl⟩ | ⟨recipe, children, free, offPath, found, remaining, rfl⟩
      · -- What was supplied before has another identity, and stays the leaf that it was.
        have other : (setting.substitutions.apply stated).wanted.identity ≠ identity := by
          rintro rfl
          cases new.symm.trans given
        have stillGiven := suppliedNow.trans ((if_neg other.symm).trans given)
        refine ⟨_, resolveNeedAfresh_succ_eq_ok_iff.mpr (.inl ⟨mark, stillGiven, rfl⟩), ?_⟩
        rw [Tree.prune_node_of_ne other]
        rfl
      · by_cases isNew : identity = (setting.substitutions.apply stated).identity
        · have nowGiven := suppliedNow.trans (if_pos isNew)
          refine ⟨_, resolveNeedAfresh_succ_eq_ok_iff.mpr (.inl ⟨hoist, nowGiven, rfl⟩), ?_⟩
          rw [Tree.prune_node_of_eq ((identity_nodeType _ _ _).trans isNew.symm)]
          exact Tree.forgetKinds_node_eq (withKind_nodeType _ recipe children).symm rfl
        · have stillFree := suppliedNow.trans ((if_neg isNew).trans free)
          obtain ⟨changed, resolvedToo, sameChildren⟩ :=
            List.exists_mapM_ok_of_mapM_eq_ok
              (fun below _ child childResolved => inductionHypothesis childResolved)
              remaining
          refine
            ⟨_, resolveNeedAfresh_succ_eq_ok_iff.mpr
              (.inr ⟨recipe, changed, stillFree, offPath, found, resolvedToo, rfl⟩), ?_⟩
          have other :
              (nodeType (setting.substitutions.apply stated).wanted recipe children).identity ≠
                identity :=
            fun same => isNew (same.symm.trans (identity_nodeType _ _ _))
          rw [Tree.prune_node_of_ne other]
          refine Tree.forgetKinds_node_eq ?_ ?_
          · rw [withKind_nodeType, withKind_nodeType]
            rfl
          · rw [sameChildren, List.map_map]
            rfl

end Supplying

/--
Supplying one more identity only prunes.

If the recipes of the needs that occur are a matter of their identities, then a goal that
resolves still resolves, into the same tree with a supplied leaf in place of every
subtree of the identity, up to kinds.
-/
theorem exists_pruned_of_resolveWithin
    (setting : Setting)
    (identity : String)
    (hoist : Bool)
    (goal : Goal)
    (new : setting.supplied.get? identity = none)
    (agrees : Agrees setting [goal])
    (limit : Nat)
    (root : Tree)
    (resolved : (resolveWithin limit setting goal Memory.empty).1 = .ok root) :
    ∃ pruned,
      (resolveWithin limit (setting.supplying identity hoist) goal Memory.empty).1 =
          .ok pruned ∧
        pruned.forgetKinds =
          (root.mapChildren (Tree.pruneEach identity hoist)).forgetKinds := by
  have listed : goal ∈ [goal] := List.mem_cons_self
  have answers := Memory.after_answers agrees [] (by simp)
  have agreesToo : Agrees (setting.supplying identity hoist) [goal] := agrees.supplying
  have answersToo := Memory.after_answers agreesToo [] (by simp)
  rw [show Memory.empty = Memory.after setting [] from rfl,
    resolveWithin_fst_eq_afresh agrees limit listed answers, resolveAfresh] at resolved
  rw [show Memory.empty = Memory.after (setting.supplying identity hoist) [] from rfl,
    resolveWithin_fst_eq_afresh agreesToo limit listed answersToo, resolveAfresh]
  cases remaining :
      goal.results.mapM (resolveNeedAfresh setting goal.identity limit []) with
  | error failure =>
      simp [remaining] at resolved
  | ok children =>
      rw [remaining] at resolved
      cases resolved
      obtain ⟨changed, resolvedToo, sameChildren⟩ :=
        List.exists_mapM_ok_of_mapM_eq_ok
          (fun _ _ _ childResolved => exists_pruned_of_resolveNeedAfresh new childResolved)
          remaining
      rw [resolvedToo]
      refine ⟨_, rfl, ?_⟩
      refine Tree.forgetKinds_node_eq rfl ?_
      rw [sameChildren, Tree.pruneEach_eq_map, List.map_map]
      rfl

/-- If `B` is supplied, it is a marked leaf below `A`, and `C` is needed by `A` alone. -/
theorem exists_pruned_of_resolveWithin_diamond :
    Diamond.setting.supplied.get? "\"p\".B" = none ∧
      Agrees Diamond.setting [Diamond.goal] ∧
      ∃ root pruned,
        (resolveWithin 4 Diamond.setting Diamond.goal Memory.empty).1 = .ok root ∧
          (resolveWithin 4 (Diamond.setting.supplying "\"p\".B" true) Diamond.goal
            Memory.empty).1 = .ok pruned ∧
          pruned.forgetKinds =
            (root.mapChildren (Tree.pruneEach "\"p\".B" true)).forgetKinds ∧
          root.nodes.map Tree.identity =
            ["\"p\".Provide", "\"p\".A", "\"p\".B", "\"p\".C", "\"p\".C"] ∧
          pruned.nodes.map (fun node => (node.identity, node.hoist)) =
            [("\"p\".Provide", false), ("\"p\".A", false), ("\"p\".B", true),
              ("\"p\".C", false)] := by
  obtain ⟨root, resolved, identities⟩ :
      ∃ root,
        (resolveWithin 4 Diamond.setting Diamond.goal Memory.empty).1 = .ok root ∧
          root.nodes.map Tree.identity =
            ["\"p\".Provide", "\"p\".A", "\"p\".B", "\"p\".C", "\"p\".C"] :=
    ⟨_, rfl, by decide +kernel⟩
  obtain ⟨pruned, resolvedToo, same⟩ :=
    exists_pruned_of_resolveWithin Diamond.setting "\"p\".B" true Diamond.goal rfl
      Diamond.agrees 4 root resolved
  refine ⟨rfl, Diamond.agrees, root, pruned, resolved, resolvedToo, same, identities, ?_⟩
  cases resolvedToo
  decide +kernel

end Resolution

end Wiring
