import Wiring.Proofs.EarlyReturns
import Wiring.Proofs.HoistingSound
import Wiring.Proofs.Sharing
import Wiring.Proofs.Visits

namespace Wiring

/-!
# The error slot

Where the error is needed, nothing is constructed and `nil` is passed, and no job may
declare the error as a parameter. A pointer to the error has the same identity, though,
and so has a record of that name. What is known of the identity is what the first node
of it has led to: a function receives an error if the first node that supplies its
identity asks for a value, and `nil` is adjusted like any variable where a later node
asks for a pointer or for another interface.
-/

namespace NamedType

/-- The identity of the error is that of its name without a package. -/
theorem identity_eq_error_iff
    {type : NamedType} :
    type.identity = "error" ↔ type.importPath = "" ∧ type.name = "error" := by
  by_cases packaged : type.importPath = ""
  · rw [identity, if_pos packaged]
    exact (and_iff_right packaged).symm
  · refine iff_of_false (fun same => ?_) (fun both => packaged both.1)
    have quoted := congrArg String.toList same
    rw [toList_identity packaged] at quoted
    exact absurd quoted (by simp)

/-- The error is what has its identity and is no pointer. -/
theorem isError_iff
    {type : NamedType} :
    type.isError = true ↔ type.identity = "error" ∧ type.pointer = false := by
  simp [isError, identity_eq_error_iff]

end NamedType

namespace Resolution

variable {setting : Setting} {known : Keyed Recipe}

/-- A supplied node of a derived tree is a leaf of an identity that the caller supplies. -/
theorem Resolves.given_of_isSupplied
    {stated : Need}
    {node : Tree}
    (resolves : Resolves setting known stated node)
    (supplied : node.isSupplied = true) :
    node.origin = .caller ∧ setting.supplied.get? node.identity = some node.hoist := by
  rcases resolves.supplied_cases with given | ⟨constructed, -⟩
  · exact given
  · rcases resolves.origin_cases with ⟨isLeaf, -⟩ | ⟨recipe, isRecipe, unmarked, -⟩
    · exact absurd isLeaf constructed
    · rw [Tree.isSupplied_of_recipe isRecipe, unmarked] at supplied
      cases supplied

/-- A supplied node of a hoisted tree is such a leaf, or has been promoted. -/
theorem HoistedFrom.given_or_promoted
    {root source node : Tree}
    (hoistedFrom : HoistedFrom setting known root source node)
    (supplied : node.isSupplied = true) :
    (node.origin = .caller ∧ setting.supplied.get? node.identity = some node.hoist) ∨
      (setting.supplied.get? node.identity = none ∧
        source.origin ≠ .caller ∧
        source.promote.hoist = true ∧
        node = source.promote) := by
  obtain ⟨stated, resolves⟩ := hoistedFrom.resolves
  rw [hoistedFrom.identity, hoistedFrom.origin]
  rcases resolves.supplied_cases with ⟨isLeaf, given⟩ | ⟨constructed, free⟩
  · refine .inl ⟨isLeaf, ?_⟩
    rcases hoistedFrom.hoist_cases supplied with ⟨-, mark⟩ | ⟨constructed, -⟩
    · rw [mark, given]
    · exact absurd isLeaf constructed
  · refine .inr ⟨free, constructed, ?_⟩
    rcases hoistedFrom.shape with ⟨-, isResult⟩ | isPromoted
    · -- A constructed result is not promoted, and so not supplied.
      rw [isResult, Tree.isSupplied_mapChildren] at supplied
      exact absurd (resolves.given_of_isSupplied supplied).1 constructed
    · rcases hoistedFrom.hoist_cases supplied with ⟨isLeaf, -⟩ | ⟨-, marked⟩
      · exact absurd isLeaf constructed
      · exact ⟨isPromoted ▸ marked, isPromoted⟩

end Resolution

namespace Job

/-- No parameter of a valid job is declared with the error itself. -/
theorem isError_of_mem_params
    {job : Job}
    (valid : job.validate = .ok ())
    {param : Param}
    (listed : param ∈ job.params) :
    param.need.isError = false := by
  by_contra isError
  have declared : job.params.any (fun param => param.need.isError) = true :=
    List.any_eq_true.mpr ⟨param, listed, by simpa using isError⟩
  have noProblem := problem?_of_validate valid
  simp only [problem?, declared, if_true] at noProblem
  repeat' split at noProblem
  all_goals cases noProblem

/--
Where a supplied node of the tree that is laid out for a job comes from.

The job declares a parameter of its identity, or the job is hoisted and declares none,
and the node stands below the results and needs nothing fresh.
-/
inductive Supplies
    (job : Job)
    (root : Tree) : Tree → Prop where
  | declared
      {node : Tree}
      {param : Param}
      (listed : param ∈ job.params)
      (same : param.need.identity = node.identity)
      (isLeaf : node.origin = .caller)
      (marked : param.hoist = node.hoist) :
      Supplies job root node
  | promoted
      {source : Tree}
      (hoists : job.hoist = true)
      (undeclared : ∀ param ∈ job.params, param.need.identity ≠ source.identity)
      (exposed : root.Exposed source)
      (constructed : source.origin ≠ .caller)
      (needsNothing : source.promote.hoist = true) :
      Supplies job root source.promote

/-- A leaf of an identity that the caller supplies is declared. -/
theorem Supplies.of_given
    {job : Job}
    {root node : Tree}
    (isLeaf : node.origin = .caller)
    (given : job.supplied.get? node.identity = some node.hoist) :
    job.Supplies root node := by
  obtain ⟨pair, listed, same, marked⟩ := Supplied.exists_of_get?_ofPairs given
  obtain ⟨param, isParam, rfl⟩ := List.mem_map.mp listed
  exact .declared isParam same isLeaf marked

/-- A supplied node that the layout of a job can come to is declared or promoted. -/
theorem supplies_of_exposed
    {lookup : Lookup}
    {job : Job}
    {known : Keyed Recipe}
    {root node : Tree}
    (resolves :
      Resolution.ResolvesEach (job.setting lookup) known job.results root.children)
    (exposed : (job.prepare root).Exposed node)
    (supplied : node.isSupplied = true) :
    job.Supplies root node := by
  cases hoists : job.hoist with
  | false =>
      rw [prepare, hoists, if_neg Bool.false_ne_true] at exposed
      obtain ⟨stated, nodeResolves⟩ := Resolution.exists_resolves_of_exposed resolves exposed
      obtain ⟨isLeaf, given⟩ := nodeResolves.given_of_isSupplied supplied
      exact .of_given isLeaf given
  | true =>
      rw [prepare, hoists, if_pos rfl] at exposed
      obtain ⟨source, hoistedFrom⟩ := Resolution.exists_hoistedFrom resolves exposed
      rcases hoistedFrom.given_or_promoted supplied with
        ⟨isLeaf, given⟩ | ⟨free, constructed, marked, rfl⟩
      · exact .of_given isLeaf given
      · rw [Tree.identity_promote, supplied_eq_none_iff] at free
        refine .promoted hoists (fun param listed => ?_) hoistedFrom.exposed constructed marked
        simpa using List.any_eq_false.mp free param listed

end Job

/--
A function receives an error exactly if the node that is visited first of those that
supply the error's identity asks for a value and not for a pointer. Such a node is
declared or promoted, with any lookup.

A job cannot declare the error itself. So no error is received if the job is not hoisted
and declares nothing else of the error's identity either.
-/
theorem Job.receivesError_iff
    {lookup : Lookup}
    {job : Job}
    {limit : Nat}
    {blueprint : Blueprint}
    (accepted : job.blueprintWithin limit lookup = .ok blueprint) :
    ∃ root,
      (Resolution.resolveWithin limit (job.setting lookup) job.goal
          Resolution.Memory.empty).1 = .ok root ∧
        ((∃ parameter ∈ blueprint.parameters, parameter.value.type.isError = true) ↔
          ∃ node,
            (job.prepare root).firstVisited? true "error" = some node ∧
              node.type.pointer = false ∧
              job.Supplies root node) ∧
        (∀ param ∈ job.params, param.need.isError = false) ∧
        (job.hoist = false →
          (∀ param ∈ job.params, param.need.identity ≠ "error") →
          ∀ parameter ∈ blueprint.parameters, parameter.value.type.isError = false) := by
  obtain ⟨root, resolved, laid⟩ := blueprintWithin_ok accepted
  obtain ⟨coherent, -, isLayOut⟩ :=
    Resolution.coherent_of_resolveWithin resolved (job.prepare_cases root)
  rw [isLayOut] at laid
  obtain ⟨known, derived⟩ :
      ∃ known, Resolution.ResolvesEach (job.setting lookup) known job.results root.children := by
    obtain ⟨children, rfl, resolves⟩ := Resolution.resolveWithin_resolves resolved
    exact ⟨_, resolves⟩
  have received :
      (∃ parameter ∈ blueprint.parameters, parameter.value.type.isError = true) ↔
        ∃ node,
          (job.prepare root).firstVisited? true "error" = some node ∧
            node.type.pointer = false := by
    simp only [NamedType.isError_iff]
    exact Blueprint.exists_parameter_iff coherent laid "error" fun type _ => type.pointer = false
  have supplies
      (node : Tree)
      (isFirst : (job.prepare root).firstVisited? true "error" = some node) :
      job.Supplies root node := by
    obtain ⟨exposed, supplied, -⟩ := Tree.exposed_of_firstVisited? isFirst
    exact supplies_of_exposed derived exposed supplied
  refine ⟨root, resolved, received.trans ?_,
    fun _ => isError_of_mem_params (validate_of_blueprintWithin accepted), ?_⟩
  · exact
      ⟨fun ⟨node, isFirst, isValue⟩ => ⟨node, isFirst, isValue, supplies node isFirst⟩,
        fun ⟨node, isFirst, isValue, _⟩ => ⟨node, isFirst, isValue⟩⟩
  · intro plain undeclared parameter listed
    by_contra isError
    obtain ⟨node, isFirst, -⟩ := received.mp ⟨parameter, listed, by simpa using isError⟩
    have same := (Tree.exposed_of_firstVisited? isFirst).2.2
    cases supplies node isFirst with
    | declared listed isNamed =>
        exact undeclared _ listed (isNamed.trans same)
    | promoted hoists =>
        rw [plain] at hoists
        cases hoists

namespace Incident

/-- The settings under which an incident has happened. -/
def settings : Field where
  name := "Settings"
  type := NamedType.ofText "p" "Settings"

/-- What has gone wrong. -/
def cause : Field where
  name := "Cause"
  type := NamedType.ofText "" "error"

/-- The job of filling in an incident, of which the caller passes some fields in. -/
def job
    (hoist : Bool)
    (passed filled : List Field) : Job where
  name := "Report"
  importPath := "p"
  package := none
  params := passed.map fun field => { need := .named field.type, hoist := false }
  results := [.record (Record.ofFields (NamedType.ofText "p" "Incident") filled)]
  redirects := []
  hoist
  imports := []

end Incident

/-- An incident without hoisting receives its settings, and no error for its cause. -/
theorem Job.receivesError_iff_incident :
    ∃ blueprint,
      (Incident.job false [Incident.settings] [Incident.settings, Incident.cause]).blueprintWithin
          3 Storage.search.lookup = .ok blueprint ∧
        blueprint.parameters.map (fun parameter => parameter.value.identity) =
          ["\"p\".Settings"] ∧
        ∀ parameter ∈ blueprint.parameters, parameter.value.type.isError = false := by
  obtain ⟨blueprint, accepted, received⟩ :
      ∃ blueprint,
        (Incident.job false [Incident.settings]
            [Incident.settings, Incident.cause]).blueprintWithin
          3 Storage.search.lookup = .ok blueprint ∧
          blueprint.parameters.map (fun parameter => parameter.value.identity) =
            ["\"p\".Settings"] :=
    ⟨_, rfl, by decide +kernel⟩
  obtain ⟨root, resolved, -, -, noError⟩ := Job.receivesError_iff accepted
  exact ⟨blueprint, accepted, received, noError rfl (by decide +kernel)⟩

/-- The cause of an incident is received if the job is hoisted, or declares a pointer to it. -/
theorem Job.exists_error_received :
    Storage.search.lookup.FindsNoGoal ∧
      (∃ blueprint,
        (Incident.job true [] [Incident.cause]).blueprintWithin 3 Storage.search.lookup =
            .ok blueprint ∧
          ∃ parameter ∈ blueprint.parameters, parameter.value.type.isError = true) ∧
      ∃ blueprint,
        (Incident.job false [{ Incident.cause with type := NamedType.error.toPointer }]
            [Incident.cause]).blueprintWithin 3 Storage.search.lookup = .ok blueprint ∧
          ∃ parameter ∈ blueprint.parameters, parameter.value.type.isError = true :=
  ⟨PackageSearch.lookup_findsNoGoal Storage.search,
    ⟨_, rfl, by decide +kernel⟩,
    ⟨_, rfl, by decide +kernel⟩⟩

namespace Tree

/-- A node is given `nil`: it is the error slot, or an alias that leads to it. -/
inductive LeadsToNil : Tree → Prop where
  | slot
      {tree : Tree}
      (constructed : tree.isSupplied = false)
      (isSlot : tree.origin = .recipe .noError) :
      LeadsToNil tree
  | forward
      {tree child : Tree}
      {synonym : TypeAlias}
      (constructed : tree.isSupplied = false)
      (isAlias : tree.origin = .recipe (.forward synonym))
      (onlyChild : tree.children = [child])
      (leads : LeadsToNil child) :
      LeadsToNil tree

namespace LeadsToNil

variable {tree other : Tree}

/-- A node that is given `nil` is constructed. -/
theorem constructed
    (leads : tree.LeadsToNil) :
    tree.isSupplied = false := by
  cases leads <;> assumption

/-- Whether a node is given `nil` is a matter of its recipe and its children. -/
theorem of_eq
    (otherConstructed : other.isSupplied = false)
    (sameOrigin : tree.origin = other.origin)
    (sameChildren : tree.children = other.children)
    (leads : tree.LeadsToNil) :
    other.LeadsToNil := by
  cases leads with
  | slot _ isSlot =>
      exact .slot otherConstructed (sameOrigin ▸ isSlot)
  | forward _ isAlias onlyChild leads =>
      exact .forward otherConstructed (sameOrigin ▸ isAlias) (sameChildren ▸ onlyChild) leads

/-- An alias is given `nil` exactly if what it stands for is. -/
theorem forward_iff
    {child : Tree}
    {synonym : TypeAlias}
    (constructed : tree.isSupplied = false)
    (isAlias : tree.origin = .recipe (.forward synonym))
    (onlyChild : tree.children = [child]) :
    tree.LeadsToNil ↔ child.LeadsToNil := by
  constructor
  · intro leads
    cases leads with
    | slot _ isSlot =>
        cases isAlias.symm.trans isSlot
    | forward _ _ onlyChildToo leads =>
        cases onlyChild.symm.trans onlyChildToo
        exact leads
  · exact .forward constructed isAlias onlyChild

/-- Only the error slot and aliases are given `nil`. -/
theorem not_of_recipe
    {recipe : Recipe}
    (isRecipe : tree.origin = .recipe recipe)
    (notSlot : recipe ≠ .noError)
    (notAlias : ∀ synonym, recipe ≠ .forward synonym) :
    ¬ tree.LeadsToNil := by
  intro leads
  cases leads with
  | slot _ isSlot =>
      cases isRecipe.symm.trans isSlot
      exact notSlot rfl
  | forward _ isAlias =>
      cases isRecipe.symm.trans isAlias
      exact notAlias _ rfl

end LeadsToNil

/-- The type under which a node is given `nil`: the error, or that of the alias. -/
def nilType (tree : Tree) : NamedType :=
  match tree.origin with
  | .recipe .noError => NamedType.error
  | _ => tree.type.withKind .builtin

/-- The type under which `nil` is given has the shape of the error. -/
theorem kind_nilType
    (tree : Tree) :
    tree.nilType.kind = .builtin := by
  unfold nilType
  split <;> rfl

end Tree

/-- A value that is made for a node is `nil` exactly if the node is given it, under its type. -/
structure Value.NilExactly
    (node : Tree)
    (value : Value) : Prop where
  named : value.name = "nil" ↔ node.LeadsToNil
  typed : node.LeadsToNil → value.type = node.nilType

/--
An operand fills a place from a node, and is `nil` exactly if the node is given it.

It is then adjusted from the type under which the first node of the identity was given
`nil`. The error slot itself is never followed, and its address is taken exactly where
a pointer is wanted, or an interface other than the error.
-/
structure Operand.PassesNil
    (root node : Tree)
    (wanted : NamedType)
    (operand : Operand) : Prop where
  named : operand.name = "nil" ↔ node.LeadsToNil
  adjusted :
    node.LeadsToNil →
    ∃ first,
      root.firstVisited? false node.identity = some first ∧
        operand.adjustment = Adjustment.between first.nilType wanted
  slot :
    node.isSupplied = false →
    node.origin = .recipe .noError →
    operand.adjustment =
      if wanted.pointer ∨ wanted.kind.isInterface ∧ ¬ wanted.isError then
        .address
      else
        .unchanged

/-- Operands fill what the recipe of a node needs, each from the child at its place. -/
structure Tree.FilledBy
    (root node : Tree)
    (recipe : Recipe)
    (operands : List Operand) : Prop where
  isRecipe : node.origin = .recipe recipe
  arity : recipe.needs.length = node.children.length
  passes :
    List.Forall₂
      (fun (place : Need × Tree) operand => operand.PassesNil root place.2 place.1.wanted)
      (recipe.needs.zip node.children) operands

/-- A statement is an early return, or its operands fill what a constructed node needs. -/
def Statement.IsFilled
    (root : Tree)
    (statement : Statement) : Prop :=
  statement.isGuard = true ∨
    ∃ node recipe,
      root.Exposed node ∧
        node.isSupplied = false ∧
        statement.builtIdentity? = some node.identity ∧
        statement.recipe? = some recipe ∧
        root.FilledBy node recipe statement.operands

/--
Every operand of a function fills a place, and is `nil` exactly if the place is given it.

What is returned fills the results, with one `nil` more if an error result is added.
-/
structure Blueprint.PassesNil
    (root : Tree)
    (blueprint : Blueprint) : Prop where
  statements : ∀ statement ∈ blueprint.statements, statement.IsFilled root
  returned :
    ∃ operands added,
      blueprint.returned = operands ++ added ∧
        root.FilledBy root (.goal blueprint.goal) operands ∧
        ∀ operand ∈ added, operand.adjustment = .unchanged

/-- How the error is passed where something else is wanted. -/
theorem Adjustment.between_error
    (wanted : NamedType) :
    between NamedType.error wanted =
      if wanted.pointer ∨ wanted.kind.isInterface ∧ ¬ wanted.isError then
        .address
      else
        .unchanged := by
  have isValue : NamedType.error.pointer = false := by decide
  have plain : NamedType.error.kind.isInterface = false := by decide
  have same :
      (NamedType.error.sameType wanted && NamedType.error.pointer == wanted.pointer) =
        wanted.isError := by
    have path : NamedType.error.importPath = "" := by decide
    have name : NamedType.error.name = "error" := by decide
    rw [NamedType.sameType, NamedType.isError, path, name, isValue, BEq.comm,
      BEq.comm (b := wanted.name)]
    cases wanted.pointer <;> rfl
  unfold between
  rw [same, isValue, plain]
  cases isError : wanted.isError with
  | true =>
      have noPointer := (NamedType.isError_iff.mp isError).2
      simp [noPointer]
  | false =>
      cases wanted.pointer <;> cases wanted.kind.isInterface <;> rfl

namespace Scope

/-- What is recorded of a value is whether it is `nil`. -/
abbrev recordsNil (_ : List Statement) (node : Tree) (value : Value) : Prop :=
  value.NilExactly node

/-- What is noted of a statement is what fills it. -/
abbrev notesNil (root : Tree) (_ : List Statement) (statement : Statement) : Prop :=
  statement.IsFilled root

variable {scope : Scope} {zeros : List ZeroValue} {root node : Tree} {draft : Draft}
  {recipe : Recipe} {inputs : List Value} {value : Value} {statements : List Statement}

/-- A value that is given for a node is `nil` exactly if the node is given it. -/
theorem Gives.nil
    (coherent : root.Coherent)
    (exposed : root.Exposed node)
    (gives : scope.Gives root recordsNil statements node value) :
    (value.name = "nil" ↔ node.LeadsToNil) ∧
      (node.isSupplied = false →
        ∃ first,
          root.firstVisited? false node.identity = some first ∧
            first.origin = node.origin ∧
            (node.LeadsToNil → value.type = first.nilType)) := by
  cases gives with
  | @received first parameter supplied isFirst receives unreserved =>
      have named : parameter.value.name ≠ "nil" := by
        rintro isNil
        exact unreserved (isNil ▸ by decide)
      refine ⟨iff_of_false named fun leads => ?_, fun constructed => ?_⟩
      · exact Bool.noConfusion (supplied.symm.trans leads.constructed)
      · exact Bool.noConfusion (supplied.symm.trans constructed)
  | @built first value constructed isFirst isMade =>
      obtain ⟨firstExposed, firstConstructed, same⟩ := Tree.exposed_of_firstVisited? isFirst
      obtain ⟨sameOrigin, sameChildren⟩ :=
        coherent.shared firstExposed exposed firstConstructed constructed same
      have sameLeads : first.LeadsToNil ↔ node.LeadsToNil :=
        ⟨.of_eq constructed sameOrigin sameChildren,
          .of_eq firstConstructed sameOrigin.symm sameChildren.symm⟩
      exact ⟨isMade.named.trans sameLeads,
        fun _ => ⟨first, isFirst, sameOrigin, fun leads => isMade.typed (sameLeads.mpr leads)⟩⟩

/-- The operand that passes a given value fills a place from its node. -/
theorem Gives.passesNil
    (coherent : root.Coherent)
    (exposed : root.Exposed node)
    (gives : scope.Gives root recordsNil statements node value)
    (wanted : NamedType) :
    (value.passedAs wanted).PassesNil root node wanted := by
  obtain ⟨named, typed⟩ := gives.nil coherent exposed
  exact {
    named
    adjusted := by
      intro leads
      obtain ⟨first, isFirst, -, isNilType⟩ := typed leads.constructed
      exact ⟨first, isFirst, by rw [Value.passedAs, isNilType leads]⟩
    slot := by
      intro constructed isSlot
      obtain ⟨first, isFirst, sameOrigin, isNilType⟩ := typed constructed
      have isError : first.nilType = NamedType.error := by
        rw [Tree.nilType, sameOrigin, isSlot]
      rw [Value.passedAs, isNilType (.slot constructed isSlot), isError]
      exact Adjustment.between_error wanted }

/-- Passing the values that are given for the children of a node fills what its recipe needs. -/
theorem filledBy_of_gives
    (coherent : root.Coherent)
    (isRecipe : node.origin = .recipe recipe)
    (arity : recipe.needs.length = node.children.length)
    (childExposed : ∀ child ∈ node.children, root.Exposed child)
    (given : List.Forall₂ (scope.Gives root recordsNil statements) node.children inputs) :
    root.FilledBy node recipe
      (List.zipWith (fun need input => input.passedAs need.wanted) recipe.needs inputs) where
  isRecipe
  arity
  passes := by
    refine List.Forall₂.zip_zipWith ?_ arity
      ((List.forall₂_and_left _ _).mpr ⟨childExposed, given⟩)
    rintro need child input ⟨exposed, gives⟩
    exact gives.passesNil coherent exposed need.wanted

/-- What carries out the recipe of a node is `nil` exactly if the node is given it. -/
theorem Carries.nilExactly
    (coherent : root.Coherent)
    (exposed : root.Exposed node)
    (constructed : node.isSupplied = false)
    (isRecipe : node.origin = .recipe recipe)
    (given : List.Forall₂ (scope.Gives root recordsNil draft.statements) node.children inputs)
    (carries : scope.Carries zeros node.type draft recipe inputs value statements) :
    value.NilExactly node := by
  have unnamed (type : NamedType) : scope.freshName draft type ≠ "nil" :=
    ne_of_fresh (scope.freshName_not_mem draft type) (by decide)
  cases carries with
  | call written named | literal written named =>
      have notNil := Tree.LeadsToNil.not_of_recipe isRecipe (by simp) (by simp)
      exact
        ⟨iff_of_false (fun isNil => unnamed _ (named.trans isNil)) notNil,
          fun leads => absurd leads notNil⟩
  | @forward synonym inner others =>
      obtain ⟨recipe', isRecipe', arity⟩ := coherent.recipe exposed constructed
      cases isRecipe.symm.trans isRecipe'
      obtain ⟨child, onlyChild⟩ := List.length_eq_one_iff.mp arity.symm
      rw [onlyChild] at given
      obtain ⟨gives, -⟩ := List.forall₂_cons.mp given
      have childExposed := exposed.child constructed (onlyChild ▸ List.mem_cons_self)
      obtain ⟨named, typed⟩ := gives.nil coherent childExposed
      have sameLeads := Tree.LeadsToNil.forward_iff constructed isRecipe onlyChild
      refine ⟨named.trans sameLeads.symm, fun leads => ?_⟩
      have childLeads := sameLeads.mp leads
      obtain ⟨first, -, -, isNilType⟩ := typed childLeads.constructed
      rw [isNilType childLeads, Tree.kind_nilType, Tree.nilType, isRecipe]
  | noError =>
      refine ⟨iff_of_true rfl (.slot constructed isRecipe), fun _ => ?_⟩
      rw [Tree.nilType, isRecipe]
      rfl

/-- The operands of what carries out the recipe of a node are filled from its children. -/
theorem Carries.notesNil
    (coherent : root.Coherent)
    (exposed : root.Exposed node)
    (constructed : node.isSupplied = false)
    (isRecipe : node.origin = .recipe recipe)
    (given : List.Forall₂ (scope.Gives root recordsNil draft.statements) node.children inputs)
    (carries : scope.Carries zeros node.type draft recipe inputs value statements) :
    ∀ statement ∈ statements, notesNil root (draft.statements ++ statements) statement := by
  obtain ⟨recipe', isRecipe', arity⟩ := coherent.recipe exposed constructed
  cases isRecipe.symm.trans isRecipe'
  have filled :=
    filledBy_of_gives coherent isRecipe arity
      (fun child member => exposed.child constructed member) given
  intro statement member
  cases carries with
  | @call function inputs callee name written named =>
      rcases List.mem_cons.mp member with rfl | isCheck
      · rw [Recipe.needs, List.zipWith_map_left] at filled
        exact .inr ⟨node, _, exposed, constructed, rfl, rfl, filled⟩
      · split at isCheck
        · rw [List.mem_singleton.mp isCheck]
          exact .inl rfl
        · simp at isCheck
  | @literal record inputs literal name written named =>
      rw [List.mem_singleton.mp member]
      rw [Recipe.needs, List.zipWith_map_left] at filled
      refine .inr ⟨node, _, exposed, constructed, rfl, rfl, ?_⟩
      rw [Statement.operands, List.map_zipWith]
      exact filled
  | forward =>
      simp at member
  | noError =>
      simp at member

/-- Whether values are `nil`, and what operands are filled from, can be recorded. -/
theorem records_nil
    (scope : Scope)
    (zeros : List ZeroValue)
    (coherent : root.Coherent) :
    scope.Records zeros root recordsNil (notesNil root) where
  made_mono := fun _ isMade => isMade
  noted_mono := fun _ isNoted => isNoted
  carried := fun exposed constructed isRecipe given carries =>
    ⟨carries.nilExactly coherent exposed constructed isRecipe given,
      carries.notesNil coherent exposed constructed isRecipe given⟩

end Scope

/-- A function over a coherent tree of a goal is `nil` exactly where the tree is given it. -/
theorem Blueprint.passesNil_of_layOut
    {goal : Goal}
    {imports : ImportTable}
    {root : Tree}
    (coherent : root.Coherent)
    (isGoal : root.origin = .recipe (.goal goal))
    (arity : root.children.length = goal.results.length)
    {blueprint : Blueprint}
    (laid : layOut goal imports root = .ok blueprint) :
    blueprint.PassesNil root := by
  obtain ⟨zeros, results, draft, types, _, laidEach, _, rfl⟩ := layOut_eq_ok_iff.mp laid
  obtain ⟨visited, given⟩ :=
    Scope.layChildren_visited coherent
      (Scope.records_nil (Scope.ofTree goal imports root) zeros coherent) laidEach
  refine ⟨visited.noted, Scope.returnedOperands goal results, _, rfl, ?_, ?_⟩
  · have filled :=
      Scope.filledBy_of_gives coherent isGoal arity.symm
        (fun child member => ⟨child, member, .self child⟩) given
    rwa [← List.map_uncurry_zip_eq_zipWith] at filled
  · intro operand added
    split at added
    · rw [List.mem_singleton.mp added]
    · cases added

/--
Every operand of a job's function is `nil` exactly where the error is needed, directly
or through aliases, and then it is adjusted from the type under which the first node of
the identity was given `nil`. This holds with any lookup, hoisted or not.

So the `nil` of an error slot is never followed, and its address is taken exactly where a
pointer is wanted, or an interface other than the error.
-/
theorem Job.passesNil_of_blueprintWithin
    {lookup : Lookup}
    {job : Job}
    {limit : Nat}
    {blueprint : Blueprint}
    (accepted : job.blueprintWithin limit lookup = .ok blueprint) :
    ∃ root,
      (Resolution.resolveWithin limit (job.setting lookup) job.goal
          Resolution.Memory.empty).1 = .ok root ∧
        blueprint.PassesNil (job.prepare root) := by
  obtain ⟨root, resolved, laid⟩ := blueprintWithin_ok accepted
  have prepared := job.prepare_cases root
  obtain ⟨coherent, arity, isLayOut⟩ := Resolution.coherent_of_resolveWithin resolved prepared
  obtain ⟨isGoal, -⟩ := Resolution.root_of_resolveWithin resolved prepared
  exact ⟨root, resolved,
    Blueprint.passesNil_of_layOut coherent isGoal arity ((isLayOut _).symm.trans laid)⟩

/-- An incident is filled in with a bare `nil` for its cause. -/
theorem Job.passesNil_of_blueprintWithin_incident :
    ∃ blueprint root,
      (Incident.job false [] [Incident.cause]).blueprintWithin 3 Storage.search.lookup =
          .ok blueprint ∧
        blueprint.PassesNil root ∧
        blueprint.statements.map Statement.operands =
          [[{ adjustment := .unchanged, name := "nil" }]] := by
  obtain ⟨blueprint, accepted, filled⟩ :
      ∃ blueprint,
        (Incident.job false [] [Incident.cause]).blueprintWithin 3 Storage.search.lookup =
            .ok blueprint ∧
          blueprint.statements.map Statement.operands =
            [[{ adjustment := .unchanged, name := "nil" }]] :=
    ⟨_, rfl, rfl⟩
  obtain ⟨root, resolved, passes⟩ := Job.passesNil_of_blueprintWithin accepted
  exact ⟨blueprint, _, accepted, passes, filled⟩

namespace Incident

/-- A pointer to what has gone wrong. -/
def slot : Field where
  name := "Slot"
  type := NamedType.ofText "" "*error"

/-- What has gone wrong, or a pointer to it, under another name. -/
def failure (pointer : Bool) : Field where
  name := "Failure"
  type := { NamedType.ofText "p" "Failure" with pointer }

/-- A package that has another name for the error. -/
def package : Package where
  importPath := "p"
  name := "p"
  functions := []
  structs := []
  aliases := [{ name := "Failure", target := NamedType.ofText "" "error" }]
  interfaces := []

/-- The search of that package. -/
def search : PackageSearch where
  packages := PackageIndex.ofList [package]
  viewpoint := some "p"

end Incident

/-- Where a pointer is wanted, the address of `nil` is taken, and `nil` is followed behind it. -/
theorem Job.exists_nil_adjusted :
    (∃ blueprint,
        (Incident.job false [] [Incident.cause, Incident.slot]).blueprintWithin
            3 Incident.search.lookup = .ok blueprint ∧
          ∃ statement ∈ blueprint.statements,
            { adjustment := .address, name := "nil" } ∈ statement.operands) ∧
      ∃ blueprint,
        (Incident.job false []
            [Incident.cause, Incident.failure true, Incident.failure false]).blueprintWithin
              4 Incident.search.lookup = .ok blueprint ∧
          ∃ statement ∈ blueprint.statements,
            { adjustment := .dereference, name := "nil" } ∈ statement.operands :=
  ⟨⟨_, rfl, by decide +kernel⟩, ⟨_, rfl, by decide +kernel⟩⟩

end Wiring
