import Wiring.Proofs.EarlyReturns
import Wiring.Proofs.Sharing
import Wiring.Proofs.WellScoped

namespace Wiring

/-!
# Direct uses are well typed

A pointer and a value of one type share an identity, and so one recipe and one
variable, whose pointer level is that of the function, the literal or the first
need that led to it. Every later use adjusts the variable from its real type. What
is used for a parameter, a field or a result is therefore a variable of its
identity, adjusted to its pointer level, unless the need was replaced, led to an
alias, or asked for an interface or an error.

Over packages without quotes it is also a variable of this very type, as long as the
job does not state another type of the same identity itself: the first need of an
identity decides on the type of its variable, and a name may read like an identity.
-/

/-- The type of a variable: the named type and whether the variable is a pointer to it. -/
structure VariableType where
  reference : Reference
  pointer : Bool
  deriving Repr, DecidableEq

namespace NamedType

/-- The type of a variable that is declared with a named type. -/
def forVariable (type : NamedType) : VariableType where
  reference := type.reference
  pointer := type.pointer

end NamedType

/-- An answer to a clear need provides its identity, if answers about types do. -/
theorem Need.provides_of_recipe
    {lookup : Lookup}
    {clear : String → Prop}
    (provides :
      ∀ type recipe,
        type.ClearFor clear →
        lookup type = .ok recipe →
        recipe.Provides clear type.identity)
    {need : Need}
    (isClear : need.ClearFor clear)
    {recipe : Recipe}
    (found : need.recipe lookup = .ok recipe) :
    recipe.Provides clear need.identity := by
  have noErrorProvides : Recipe.noError.Provides clear "error" := by
    refine ⟨?_, by simp [Recipe.needs]⟩
    rintro type isMade
    cases isMade
    exact ⟨by decide, NamedType.Unquoted.clearFor (by decide)⟩
  cases need with
  | named type =>
      simp only [Need.recipe] at found
      split at found
      · rename_i isError
        cases found
        simp only [NamedType.isError, Bool.and_eq_true, beq_iff_eq] at isError
        simpa [Need.identity, wanted, NamedType.identity, isError] using noErrorProvides
      · exact provides type recipe (clearFor_named.mp isClear) found
  | record listed =>
      cases found
      refine ⟨?_, ?_⟩
      · rintro type isMade
        cases isMade
        exact ⟨rfl, isClear.wanted⟩
      · intro need member
        obtain ⟨field, isField, rfl⟩ := List.mem_map.mp member
        exact clearFor_named.mpr
          (isClear _ (List.mem_cons_of_mem _ (List.mem_map_of_mem isField)))
  | error =>
      cases found
      exact noErrorProvides

/-- A run over packages without quotes knows recipes that provide their identities. -/
theorem Resolution.Setting.vouches_of_unquoted
    {search : PackageSearch}
    (unquoted : search.packages.Unquoted)
    {setting : Setting}
    (searches : setting.lookup = search.lookup)
    {clear : String → Prop}
    (replacements :
      ∀ identity replacement,
        setting.substitutions.get? identity = some replacement → replacement.ClearFor clear)
    {goal : Goal}
    (results : ∀ result ∈ goal.results, result.ClearFor clear) :
    setting.Vouches goal (Need.ClearFor clear)
      (fun identity recipe => recipe.Provides clear identity) := by
  have replaced :
      ∀ need : Need,
        need.ClearFor clear → (setting.substitutions.apply need).ClearFor clear := by
    intro need isClear
    unfold Substitutions.apply
    cases found : setting.substitutions.get? need.identity with
    | none =>
        exact isClear
    | some replacement =>
        exact replacements _ replacement found
  exact {
    answered := fun need recipe isClear found =>
      Need.provides_of_recipe
        (fun type answer typeClear answered =>
          (PackageSearch.answers_of_lookup answered).provides unquoted typeClear)
        isClear (searches ▸ found)
    needed := fun identity recipe provides stated member =>
      replaced stated (provides.needs stated member)
    requested := fun stated member => replaced stated (results stated member) }

/-- Packages are without quotes if each of them is. -/
theorem PackageIndex.unquoted_ofList
    {packages : List Package}
    (each : ∀ package ∈ packages, ∀ type ∈ package.neededTypes, type.Unquoted) :
    (ofList packages).Unquoted := by
  intro path package found
  obtain ⟨listed, member, _, rfl⟩ :=
    Keyed.exists_of_get?_foldl_insert Package.importPath id found
  exact each listed member

namespace Job

/-- The needs that a job itself states: its results, and what is used in place of others. -/
def statedNeeds (job : Job) : List Need :=
  job.results ++ job.redirects.map Redirect.replacement

/-- An identity is clear in a job if no type of this identity that the job states has a quote. -/
def Clear
    (job : Job)
    (identity : String) : Prop :=
  ∀ need ∈ job.statedNeeds, ∀ type ∈ need.types, type.identity = identity → type.Unquoted

/-- What a job states is clear where the job is. -/
theorem clearFor_of_mem_statedNeeds
    {job : Job}
    {need : Need}
    (stated : need ∈ job.statedNeeds) :
    need.ClearFor job.Clear :=
  fun type listed isClear => isClear need stated type listed rfl

/-- A job over packages without quotes knows recipes that provide their identities. -/
theorem vouches_of_unquoted
    {search : PackageSearch}
    (unquoted : search.packages.Unquoted)
    (job : Job) :
    (job.setting search.lookup).Vouches job.goal (Need.ClearFor job.Clear)
      (fun identity recipe => recipe.Provides job.Clear identity) := by
  refine Resolution.Setting.vouches_of_unquoted unquoted rfl ?_
    (fun result listed => clearFor_of_mem_statedNeeds (List.mem_append_left _ listed))
  intro identity replacement found
  obtain ⟨pair, listed, same, rfl⟩ := Substitutions.exists_of_get?_ofPairs found
  obtain ⟨redirect, member, rfl⟩ := List.mem_map.mp listed
  exact clearFor_of_mem_statedNeeds (List.mem_append_right _ (List.mem_map_of_mem member))

end Job

namespace Statement

/-- The variable that a statement declares, with its type. -/
def declaration? : Statement → Option (String × VariableType)
  | .call _ function _ name _ => some (name, function.output.forVariable)
  | .literal _ record _ name _ => some (name, record.type.forVariable)
  | .guard _ => none

end Statement

/-- The variables that parameters and statements declare, with their types. -/
def declaredVariables
    (parameters : List Blueprint.Parameter)
    (statements : List Statement) : List (String × VariableType) :=
  parameters.map
      (fun parameter =>
        (parameter.value.name,
          { reference := parameter.type.symbol.reference, pointer := parameter.type.pointer }))
    ++ statements.filterMap Statement.declaration?

/--
A mention names a type.

It has the identity of the type, and if this identity is clear, also the import path
and the name.
-/
structure Reference.Names
    (clear : String → Prop)
    (type : NamedType)
    (reference : Reference) : Prop where
  identity : reference.identity = type.identity
  eq_reference : clear type.identity → reference = type.reference

/-- A clear type names every clear type of its identity. -/
theorem NamedType.ClearFor.names
    {clear : String → Prop}
    {type other : NamedType}
    (isClear : type.ClearFor clear)
    (otherClear : other.ClearFor clear)
    (same : type.identity = other.identity) :
    type.reference.Names clear other where
  identity := same
  eq_reference := isClear.reference_eq otherClear same

/-- What names a clear type names every other clear type of its identity. -/
theorem Reference.Names.trans
    {clear : String → Prop}
    {type other : NamedType}
    {reference : Reference}
    (names : reference.Names clear type)
    (onward : type.reference.Names clear other) :
    reference.Names clear other := by
  have same : type.identity = other.identity := onward.identity
  exact {
    identity := names.identity.trans same
    eq_reference := fun isClear =>
      (names.eq_reference (same ▸ isClear)).trans (onward.eq_reference isClear) }

/--
An operand passes a variable that names a type, with the operator that its pointer
level needs.

There is none if the pointer levels agree. Otherwise the address is taken where a
pointer is wanted, and a pointer is followed where a value is wanted.
-/
def Operand.Passes
    (environment : List (String × VariableType))
    (clear : String → Prop)
    (type : NamedType)
    (operand : Operand) : Prop :=
  ∃ held,
    (operand.name, held) ∈ environment ∧
      held.reference.Names clear type ∧
      operand.adjustment.operator =
        if held.pointer = type.pointer then
          ""
        else if type.pointer then
          "&"
        else
          "*"

/-- What a statement passes for the parameters and fields that are direct. -/
def Statement.PassesDirectly
    (environment : List (String × VariableType))
    (clear : String → Prop)
    (direct : NamedType → Prop) : Statement → Prop
  | .call _ function _ _ arguments =>
      List.Forall₂
        (fun param argument => direct param → argument.Passes environment clear param)
        function.params arguments
  | .literal _ record _ _ fields =>
      List.Forall₂
        (fun (field : Field) (given : String × Operand) =>
          given.1 = field.name ∧
            (direct field.type → given.2.Passes environment clear field.type))
        record.fields fields
  | .guard _ => True

/--
A type asks directly for a variable of its own.

It is no interface and not the error, no need replaces its identity, and no node of
this identity follows an alias.
-/
structure Resolution.Direct
    (setting : Setting)
    (tree : Tree)
    (type : NamedType) : Prop where
  notInterface : type.kind ≠ .interface
  notError : type.identity ≠ "error"
  notReplaced : setting.substitutions.get? type.identity = none
  notForwarded :
    ∀ node ∈ tree.nodes,
      node.identity = type.identity →
      ∀ synonym, node.origin ≠ .recipe (.forward synonym)

/-- A variable that names its node's type holds a value, unless it is an error or aliased. -/
def Value.Holds
    (environment : List (String × VariableType))
    (clear : String → Prop)
    (node : Tree)
    (value : Value) : Prop :=
  node.identity ≠ "error" →
  (∀ synonym, node.origin ≠ .recipe (.forward synonym)) →
  ∃ held,
    (value.name, held) ∈ environment ∧
      held.reference.Names clear node.type ∧
      held.pointer = value.type.pointer

section More

variable {environment more : List (String × VariableType)} {clear : String → Prop}
  (grows : environment ⊆ more)

include grows

theorem Operand.Passes.mono
    {type : NamedType}
    {operand : Operand}
    (passes : operand.Passes environment clear type) :
    operand.Passes more clear type := by
  obtain ⟨held, declared, sameType, adjusted⟩ := passes
  exact ⟨held, grows declared, sameType, adjusted⟩

theorem Statement.PassesDirectly.mono
    {direct : NamedType → Prop}
    {statement : Statement}
    (passes : statement.PassesDirectly environment clear direct) :
    statement.PassesDirectly more clear direct := by
  cases statement with
  | call identity function callee name arguments =>
      exact List.Forall₂.imp
        (fun _ _ passesFor isDirect => (passesFor isDirect).mono grows) passes
  | literal identity record type name fields =>
      exact List.Forall₂.imp
        (fun _ _ given => ⟨given.1, fun isDirect => (given.2 isDirect).mono grows⟩) passes
  | guard zeros =>
      trivial

theorem Value.Holds.mono
    {node : Tree}
    {value : Value}
    (holds : value.Holds environment clear node) :
    value.Holds more clear node := by
  intro notError notForwarded
  obtain ⟨held, declared, sameType, samePointer⟩ := holds notError notForwarded
  exact ⟨held, grows declared, sameType, samePointer⟩

end More

/-- Where no interface is wanted, only the pointer levels matter. -/
theorem Adjustment.operator_between
    {held wanted : NamedType}
    (notInterface : wanted.kind ≠ .interface) :
    (between held wanted).operator =
      if held.pointer = wanted.pointer then
        ""
      else if wanted.pointer then
        "&"
      else
        "*" := by
  have noInterface : wanted.kind.isInterface = false := by
    cases kind : wanted.kind <;> simp_all [Kind.isInterface]
  unfold between
  cases held.pointer <;> cases wanted.pointer <;> simp [noInterface, operator]

/-- A value that is held for a node is passed for a direct need that the node stands for. -/
theorem Value.Holds.passes
    {setting : Resolution.Setting}
    {tree node : Tree}
    {need : Need}
    (stands : Resolution.StandsFor setting need node)
    (member : node ∈ tree.nodes)
    (direct : Resolution.Direct setting tree need.wanted)
    {environment : List (String × VariableType)}
    {clear : String → Prop}
    {value : Value}
    (holds : value.Holds environment clear node) :
    (value.passedAs need.wanted).Passes environment clear need.wanted := by
  have unreplaced : setting.substitutions.apply need = need := by
    simp [Substitutions.apply, Need.identity, direct.notReplaced]
  have isWanted : node.type = need.wanted.withKind node.type.kind := by
    simpa [Resolution.StandsFor, unreplaced] using stands
  have sameReference : node.type.reference = need.wanted.reference := by
    rw [isWanted]
    rfl
  have sameIdentity : node.identity = need.wanted.identity := by
    rw [Tree.identity, ← NamedType.identity_reference, sameReference,
      NamedType.identity_reference]
  obtain ⟨held, declared, names, samePointer⟩ :=
    holds (sameIdentity ▸ direct.notError) (direct.notForwarded node member sameIdentity)
  refine ⟨held, declared, names.trans ⟨sameIdentity, fun _ => sameReference⟩, ?_⟩
  rw [samePointer]
  exact Adjustment.operator_between direct.notInterface

/--
What is known of the nodes that a layout can come to.

Their types are clear, their recipes provide their identities, and their children
stand for what their recipes need.
-/
structure Resolution.Provided
    (setting : Setting)
    (clear : String → Prop)
    (root : Tree) : Prop where
  coherent : root.Coherent
  clearFor : ∀ node, root.Exposed node → node.type.ClearFor clear
  provides :
    ∀ node recipe,
      root.Exposed node →
      node.origin = .recipe recipe →
      recipe.Provides clear node.identity ∧
        List.Forall₂ (StandsFor setting) recipe.needs node.children

/-- A value that is held for a constructed node is held for every other of its identity. -/
theorem Value.Holds.of_identity_eq
    {setting : Resolution.Setting}
    {clear : String → Prop}
    {root node other : Tree}
    (provided : Resolution.Provided setting clear root)
    (exposed : root.Exposed node)
    (otherExposed : root.Exposed other)
    (constructed : node.isSupplied = false)
    (otherConstructed : other.isSupplied = false)
    (same : node.identity = other.identity)
    {environment : List (String × VariableType)}
    {value : Value}
    (holds : value.Holds environment clear node) :
    value.Holds environment clear other := by
  have sameOrigin : node.origin = other.origin :=
    (provided.coherent.shared exposed otherExposed constructed otherConstructed same).1
  intro notError notForwarded
  obtain ⟨held, declared, names, samePointer⟩ :=
    holds (same ▸ notError) (sameOrigin ▸ notForwarded)
  have onward :=
    (provided.clearFor node exposed).names (provided.clearFor other otherExposed) same
  exact ⟨held, declared, names.trans onward, samePointer⟩

/-- The variables that a draft declares. -/
def Draft.environment (draft : Draft) : List (String × VariableType) :=
  declaredVariables draft.parameters draft.statements

/-- Everything that a draft holds and passes is well typed. -/
structure Draft.Typed
    (setting : Resolution.Setting)
    (clear : String → Prop)
    (scope : Scope)
    (root : Tree)
    (draft : Draft) : Prop where
  traced : draft.Traced scope root
  held :
    ∀ node value,
      root.Exposed node →
      node.isSupplied = false →
      draft.built.get? node.identity = some value →
      value.Holds draft.environment clear node
  passes :
    ∀ statement ∈ draft.statements,
      statement.PassesDirectly draft.environment clear (Resolution.Direct setting root)

namespace Scope

variable {scope : Scope} {zeros : List ZeroValue} {setting : Resolution.Setting}
  {clear : String → Prop} {root : Tree}

/-- A parameter holds the value of every supplied node of its identity. -/
theorem Receives.holds
    (provided : Resolution.Provided setting clear root)
    {node source : Tree}
    (exposed : root.Exposed node)
    (sourceExposed : root.Exposed source)
    {parameter : Blueprint.Parameter}
    (receives : scope.Receives source parameter)
    (same : parameter.value.identity = node.identity)
    {draft : Draft}
    (listed : parameter ∈ draft.parameters) :
    parameter.value.Holds draft.environment clear node := by
  have writes := writes_of_typeExpr receives.written
  have sameIdentity : source.type.identity = node.type.identity := by
    rw [← receives.type]
    exact same
  intro _ _
  refine ⟨_, List.mem_append_left _ (List.mem_map_of_mem listed), ?_, ?_⟩
  · rw [writes.reference]
    exact (provided.clearFor source sourceExposed).names (provided.clearFor node exposed)
      sameIdentity
  · rw [receives.type]
    exact writes.pointer

/-- What carries out the recipe of a node holds its value. -/
theorem Carries.holds
    {node : Tree}
    (isClear : node.type.ClearFor clear)
    {recipe : Recipe}
    (isRecipe : node.origin = .recipe recipe)
    (provides : recipe.Provides clear node.identity)
    {draft : Draft}
    {inputs : List Value}
    {value : Value}
    {statements : List Statement}
    (carries : scope.Carries zeros node.type draft recipe inputs value statements) :
    value.Holds (draft.addStatements statements).environment clear node := by
  intro notError notForwarded
  cases carries with
  | @call function inputs callee name written named =>
      obtain ⟨same, madeClear⟩ := provides.made function.output rfl
      refine ⟨function.output.forVariable, ?_, madeClear.names isClear same, ?_⟩
      · simp [Draft.environment, declaredVariables, Statement.declaration?]
      · simp only [calledType]
        split <;> rfl
  | @literal record inputs literal name written named =>
      obtain ⟨same, madeClear⟩ := provides.made record.type rfl
      refine ⟨record.type.forVariable, ?_, madeClear.names isClear same, rfl⟩
      simp [Draft.environment, declaredVariables, Statement.declaration?]
  | forward =>
      exact absurd isRecipe (notForwarded _)
  | noError =>
      exact absurd (provides.made NamedType.error rfl).1.symm notError

/-- What carries out the recipe of a node passes its inputs directly. -/
theorem Carries.passesDirectly
    {type : NamedType}
    {recipe : Recipe}
    {children : List Tree}
    (stand : List.Forall₂ (Resolution.StandsFor setting) recipe.needs children)
    (members : ∀ child ∈ children, child ∈ root.nodes)
    {draft : Draft}
    {inputs : List Value}
    {environment : List (String × VariableType)}
    (held :
      List.Forall₂ (fun child input => input.Holds environment clear child) children inputs)
    {value : Value}
    {statements : List Statement}
    (carries : scope.Carries zeros type draft recipe inputs value statements) :
    ∀ statement ∈ statements,
      statement.PassesDirectly environment clear (Resolution.Direct setting root) := by
  have passed :
      List.Forall₂
        (fun (need : Need) input =>
          Resolution.Direct setting root need.wanted →
          (Value.passedAs input need.wanted).Passes environment clear need.wanted)
        recipe.needs inputs := by
    refine (stand.comp held).imp ?_
    rintro need input ⟨child, listed, stands, holds⟩ direct
    exact holds.passes stands (members child listed) direct
  intro statement member
  cases carries with
  | @call function inputs callee name written named =>
      rcases List.mem_cons.mp member with rfl | isCheck
      · simp only [Recipe.needs, List.forall₂_map_left_iff] at passed
        exact List.Forall₂.zipWith_right (by exact fun _ _ passes => passes) passed
      · split at isCheck
        · rw [List.mem_singleton.mp isCheck]
          trivial
        · simp at isCheck
  | @literal record inputs literal name written named =>
      rw [List.mem_singleton.mp member]
      simp only [Recipe.needs, List.forall₂_map_left_iff] at passed
      exact List.Forall₂.zipWith_right (by exact fun _ _ passes => ⟨rfl, passes⟩) passed
  | forward =>
      simp at member
  | noError =>
      simp at member

end Scope

namespace Draft.Typed

variable {setting : Resolution.Setting} {clear : String → Prop} {scope : Scope}
  {zeros : List ZeroValue} {root tree : Tree} {draft : Draft}

/-- Nothing is typed at first. -/
theorem empty :
    Draft.empty.Typed setting clear scope root where
  traced := Draft.empty_traced scope root
  held := by simp [Draft.empty]
  passes := by simp [Draft.empty]

/-- Behind a new parameter, a draft is typed as before, and the parameter holds its value. -/
theorem addParameter
    (provided : Resolution.Provided setting clear root)
    (typed : draft.Typed setting clear scope root)
    (exposed : root.Exposed tree)
    {parameter : Blueprint.Parameter}
    (receives : scope.Receives tree parameter) :
    (draft.addParameter parameter).Typed setting clear scope root ∧
      draft.environment ⊆ (draft.addParameter parameter).environment ∧
      parameter.value.Holds (draft.addParameter parameter).environment clear tree := by
  have grown : draft.environment ⊆ (draft.addParameter parameter).environment := by
    intro entry member
    simp only [environment, declaredVariables, Draft.addParameter, List.map_append,
      List.mem_append] at member ⊢
    exact member.imp_left .inl
  have sameIdentity : parameter.value.identity = tree.identity := by
    rw [Value.identity, receives.type, Tree.identity]
  refine ⟨?_, grown, receives.holds provided exposed exposed sameIdentity (by simp)⟩
  exact {
    traced := typed.traced.addParameter exposed receives
    held := fun node value nodeExposed constructed remembered =>
      (typed.held node value nodeExposed constructed remembered).mono grown
    passes := fun statement member => (typed.passes statement member).mono grown }

/-- Behind what carries out a recipe, a draft is typed as before, and it holds the value. -/
theorem carryOut
    (provided : Resolution.Provided setting clear root)
    (typed : draft.Typed setting clear scope root)
    (exposed : root.Exposed tree)
    (constructed : tree.isSupplied = false)
    {recipe : Recipe}
    (isRecipe : tree.origin = .recipe recipe)
    {inputs : List Value}
    (held :
      List.Forall₂ (fun child input => input.Holds draft.environment clear child)
        tree.children inputs)
    {value : Value}
    {statements : List Statement}
    (carries : scope.Carries zeros tree.type draft recipe inputs value statements) :
    ((draft.addStatements statements).remember tree.identity value).Typed setting clear scope root ∧
      draft.environment ⊆ (draft.addStatements statements).environment ∧
      value.Holds (draft.addStatements statements).environment clear tree := by
  have grown : draft.environment ⊆ (draft.addStatements statements).environment := by
    simp [environment, declaredVariables]
  obtain ⟨provides, stand⟩ := provided.provides tree recipe exposed isRecipe
  have holds : value.Holds (draft.addStatements statements).environment clear tree :=
    carries.holds (provided.clearFor tree exposed) isRecipe provides
  refine ⟨?_, grown, holds⟩
  exact {
    traced :=
      (typed.traced.addStatements exposed constructed isRecipe carries).remember _ _
    held := by
      intro node known nodeExposed nodeConstructed remembered
      rw [Draft.get?_built_remember] at remembered
      split at remembered
      · rename_i same
        cases remembered
        exact holds.of_identity_eq provided exposed nodeExposed constructed nodeConstructed same
      · exact (typed.held node known nodeExposed nodeConstructed remembered).mono grown
    passes := by
      intro statement member
      rcases List.mem_append.mp member with known | isNew
      · exact (typed.passes statement known).mono grown
      · exact (carries.passesDirectly stand
          (fun child listed => (exposed.child constructed listed).mem_nodes) held
          statement isNew).mono grown }

end Draft.Typed

namespace Scope

variable {setting : Resolution.Setting} {clear : String → Prop} {scope : Scope}
  {zeros : List ZeroValue} {root : Tree}

/-- Laying out the children of a root gives a typed draft that holds their values. -/
theorem layChildren_typed
    (provided : Resolution.Provided setting clear root)
    {draft : Draft}
    {values : List Value}
    (laid : scope.layEach zeros [] root.children Draft.empty = .ok (values, draft)) :
    draft.Typed setting clear scope root ∧
      List.Forall₂ (fun child value => value.Holds draft.environment clear child)
        root.children values := by
  refine
    layChildren_induct (Draft.Typed setting clear scope root)
      (fun draft later => draft.environment ⊆ later.environment)
      (fun tree value draft => value.Holds draft.environment clear tree)
      (fun _ => List.Subset.refl _) List.Subset.trans
      (fun holds grows => holds.mono grows)
      ?received ?receive ?built ?build Draft.Typed.empty laid
  case received =>
    intro tree draft parameter exposed supplied typed found
    have listed := List.mem_of_find?_eq_some found
    obtain ⟨source, sourceExposed, receives⟩ := typed.traced.received parameter listed
    exact receives.holds provided exposed sourceExposed
      (by simpa using List.find?_some found) listed
  case receive =>
    intro tree draft value later exposed supplied typed absent laid
    obtain ⟨parameter, receives, rfl, rfl⟩ := receives_of_layParameter supplied laid
    exact typed.addParameter provided exposed receives
  case built =>
    intro tree draft value exposed constructed typed found
    exact typed.held tree value exposed constructed found
  case build =>
    intro tree recipe inputs draft value later exposed constructed isRecipe typed held laid
    obtain ⟨statements, carries, rfl⟩ := layRecipe_ok_iff.mp laid
    exact typed.carryOut provided exposed constructed isRecipe held carries

end Scope

namespace Blueprint

/-- The variables that a function declares, with their types. -/
def environment (blueprint : Blueprint) : List (String × VariableType) :=
  declaredVariables blueprint.parameters blueprint.statements

/--
Whatever is direct is passed a variable that names its type, adjusted to its pointer
level.

This holds for the parameters of calls, for the fields of literals, and for the
results of the function. No two variables have one name.
-/
structure WellTyped
    (clear : String → Prop)
    (direct : NamedType → Prop)
    (blueprint : Blueprint) : Prop where
  distinct : (blueprint.environment.map Prod.fst).Nodup
  statements :
    ∀ statement ∈ blueprint.statements,
      statement.PassesDirectly blueprint.environment clear direct
  returned :
    ∃ operands added,
      blueprint.returned = operands ++ added ∧
        List.Forall₂
          (fun (result : Need) operand =>
            direct result.wanted →
            operand.Passes blueprint.environment clear result.wanted)
          blueprint.goal.results operands

/-- The variables of a draft have the names that it binds. -/
theorem map_fst_environment
    (draft : Draft) :
    draft.environment.map Prod.fst = draft.names := by
  have sameName :
      ∀ statement : Statement,
        statement.declaration?.map Prod.fst = statement.boundName? := by
    intro statement
    cases statement <;> rfl
  simp [Draft.environment, declaredVariables, Draft.names, List.map_filterMap, sameName]

/-- Putting a function together keeps the variables, in another order. -/
theorem environment_assembled_perm
    (scope : Scope)
    (results : List Value)
    (types : List TypeExpr)
    (draft : Draft) :
    (assembled scope results types draft).environment.Perm draft.environment :=
  ((List.mergeSort_perm draft.parameters Parameter.precedes).map _).append_right _

/-- A function is well typed if its tree is provided and stands for its results. -/
theorem wellTyped_of_layOut
    {setting : Resolution.Setting}
    {clear : String → Prop}
    {goal : Goal}
    {imports : ImportTable}
    {root : Tree}
    (provided : Resolution.Provided setting clear root)
    (stand : List.Forall₂ (Resolution.StandsFor setting) goal.results root.children)
    {blueprint : Blueprint}
    (laid : layOut goal imports root = .ok blueprint) :
    blueprint.WellTyped clear (Resolution.Direct setting root) := by
  obtain ⟨zeros, results, draft, types, zerosWritten, laidEach, typesWritten, rfl⟩ :=
    layOut_eq_ok_iff.mp laid
  obtain ⟨typed, held⟩ := Scope.layChildren_typed provided laidEach
  have reordered :=
    environment_assembled_perm (Scope.ofTree goal imports root) results types draft
  have kept : draft.environment ⊆ _ := reordered.symm.subset
  exact {
    distinct := by
      rw [(reordered.map Prod.fst).nodup_iff, map_fst_environment]
      exact (Scope.layChildren_faithful provided.coherent laidEach).1.wellNamed.distinct
    statements := fun statement member => (typed.passes statement member).mono kept
    returned := by
      refine ⟨Scope.returnedOperands goal results, _, rfl, ?_⟩
      simp only [Scope.returnedOperands, List.zip, List.map_zipWith]
      refine List.Forall₂.zipWith_right ?_ (stand.comp held)
      rintro result value ⟨child, listed, stands, holds⟩ direct
      have exposed : root.Exposed child := ⟨child, listed, .self child⟩
      exact (holds.passes stands exposed.mem_nodes direct).mono kept }

end Blueprint

/-- A node that stands for a clear need has a clear type. -/
theorem Resolution.VouchedFor.clearFor
    {setting : Setting}
    {clear : String → Prop}
    {accepts : String → Recipe → Prop}
    {node : Tree}
    (vouched : VouchedFor setting (Need.ClearFor clear) accepts node) :
    node.type.ClearFor clear := by
  obtain ⟨stated, isClear, stands⟩ := vouched.need
  rw [stands]
  exact isClear.wanted.of_reference_eq rfl

/-- What is met clearly provides a resolved tree, as it is laid out, and its results. -/
theorem Resolution.provided_of_resolveWithin
    {setting : Setting}
    {clear : String → Prop}
    {goal : Goal}
    (vouches :
      setting.Vouches goal (Need.ClearFor clear)
        (fun identity recipe => recipe.Provides clear identity))
    {limit : Nat}
    {root : Tree}
    (resolved : (resolveWithin limit setting goal Memory.empty).1 = .ok root)
    {tree : Tree}
    (prepared : tree = root ∨ tree = root.hoisted) :
    Provided setting clear tree ∧
      List.Forall₂ (StandsFor setting) goal.results tree.children := by
  obtain ⟨stand, vouched⟩ :=
    vouched_of_resolveWithin vouches Memory.empty_knowsOnly resolved prepared
  refine ⟨?_, stand⟩
  exact {
    coherent := (coherent_of_resolveWithin resolved prepared).1
    clearFor := fun node exposed => (vouched node exposed).clearFor
    provides := fun node recipe exposed isRecipe => (vouched node exposed).recipe recipe isRecipe }

/--
The function of a job over packages without quotes is well typed, hoisted or not.

In every call, in every literal and in what is returned, a direct parameter, field
or result is passed a variable of its identity, adjusted to its pointer level only.
The variable is of its own type, unless the job itself states a type of this identity
with a quote.
-/
theorem Job.wellTyped_of_blueprintWithin
    {search : PackageSearch}
    (unquoted : search.packages.Unquoted)
    {job : Job}
    {limit : Nat}
    {blueprint : Blueprint}
    (accepted : job.blueprintWithin limit search.lookup = .ok blueprint) :
    ∃ root,
      (Resolution.resolveWithin limit (job.setting search.lookup) job.goal
          Resolution.Memory.empty).1 = .ok root ∧
        blueprint.goal = job.goal ∧
        blueprint.WellTyped job.Clear
          (Resolution.Direct (job.setting search.lookup) (job.prepare root)) := by
  obtain ⟨root, resolved, laid⟩ := blueprintWithin_ok accepted
  have prepared := job.prepare_cases root
  obtain ⟨_, _, isLayOut⟩ := Resolution.coherent_of_resolveWithin resolved prepared
  obtain ⟨provided, stand⟩ :=
    Resolution.provided_of_resolveWithin (job.vouches_of_unquoted unquoted) resolved prepared
  have laidOut := (isLayOut _).symm.trans laid
  refine ⟨root, resolved, ?_, Blueprint.wellTyped_of_layOut provided stand laidOut⟩
  obtain ⟨zeros, results, draft, types, _, _, _, rfl⟩ := Blueprint.layOut_eq_ok_iff.mp laidOut
  rfl

namespace Server

/-- The settings of a server. -/
def config : NamedType :=
  NamedType.ofText "p" "Config"

/-- A parameter without a name. -/
def param (type : NamedType) : Package.Param where
  name := none
  type
  variadic := false

/-- A server needs a pointer to its settings, and its store needs the settings themselves. -/
def package : Package where
  importPath := "p"
  name := "p"
  functions :=
    [{ name := "NewServer"
       receiver := none
       params := [param config.toPointer, param (NamedType.ofText "p" "Store")]
       results := [NamedType.ofText "p" "Server"] },
      { name := "NewStore"
        receiver := none
        params := [param config]
        results := [NamedType.ofText "p" "Store"] }]
  structs := [{ name := "Config", fields := [] }]
  aliases := []
  interfaces := []

/-- The search of that package. -/
def search : PackageSearch where
  packages := PackageIndex.ofList [package]
  viewpoint := none

/-- The job of starting the server. -/
def job : Job where
  name := "Provide"
  importPath := "p"
  package := none
  params := []
  results := [.named (NamedType.ofText "p" "Server")]
  redirects := []
  hoist := false
  imports := []

end Server

/-- The settings are held by a pointer, which is followed where the store wants them. -/
theorem Job.wellTyped_of_blueprintWithin_server :
    Server.search.packages.Unquoted ∧
      ∃ blueprint root,
        Server.job.blueprintWithin 4 Server.search.lookup = .ok blueprint ∧
          (Resolution.resolveWithin 4 (Server.job.setting Server.search.lookup)
            Server.job.goal Resolution.Memory.empty).1 = .ok root ∧
          blueprint.goal = Server.job.goal ∧
          blueprint.WellTyped Server.job.Clear
            (Resolution.Direct (Server.job.setting Server.search.lookup)
              (Server.job.prepare root)) ∧
          Resolution.Direct (Server.job.setting Server.search.lookup)
            (Server.job.prepare root) Server.config ∧
          Server.job.Clear Server.config.identity ∧
          blueprint.statements.map
              (fun statement =>
                statement.operands.map (fun operand => operand.adjustment.operator)) =
            [[], ["*"], ["", ""]] := by
  have unquoted : Server.search.packages.Unquoted :=
    PackageIndex.unquoted_ofList (by decide)
  obtain ⟨blueprint, accepted, adjusted⟩ :
      ∃ blueprint,
        Server.job.blueprintWithin 4 Server.search.lookup = .ok blueprint ∧
          blueprint.statements.map
              (fun statement =>
                statement.operands.map (fun operand => operand.adjustment.operator)) =
            [[], ["*"], ["", ""]] :=
    ⟨_, rfl, by decide +kernel⟩
  obtain ⟨root, resolved, isGoal, wellTyped⟩ :=
    Job.wellTyped_of_blueprintWithin unquoted accepted
  have isLiteral :
      ∀ node ∈ root.nodes,
        node.identity = Server.config.identity →
        node.origin =
          .recipe (.literal
            { type := { Server.config with pointer := true, kind := .struct }, fields := [] }) := by
    cases resolved
    decide +kernel
  have direct :
      Resolution.Direct (Server.job.setting Server.search.lookup)
        (Server.job.prepare root) Server.config := {
    notInterface := by decide
    notError := by decide
    notReplaced := rfl
    notForwarded := by
      intro node member same synonym isForward
      simp [isLiteral node member same] at isForward }
  have isClear : Server.job.Clear Server.config.identity := by
    unfold Job.Clear
    decide
  exact ⟨unquoted, blueprint, root, accepted, resolved, isGoal, wellTyped, direct, isClear,
    adjusted⟩

namespace Lookalike

/-- A type without a package, whose name reads like the identity of a type of a package. -/
def bare : NamedType :=
  NamedType.ofText "" "\"p\".B"

/-- The type of the package. -/
def packaged : NamedType :=
  NamedType.ofText "p" "B"

/-- The package needs a `B` for an `A`. -/
def package : Package where
  importPath := "p"
  name := "p"
  functions :=
    [{ name := "NewA"
       receiver := none
       params := [Server.param packaged]
       results := [NamedType.ofText "p" "A"] }]
  structs := []
  aliases := []
  interfaces := []

/-- The search of that package. -/
def search : PackageSearch where
  packages := PackageIndex.ofList [package]
  viewpoint := none

/-- The job passes a `B` in, and asks for the type that reads like it before it asks for an `A`. -/
def job : Job where
  name := "Provide"
  importPath := "p"
  package := none
  params := [{ need := .named packaged, hoist := false }]
  results := [.named bare, .named (NamedType.ofText "p" "A")]
  redirects := []
  hoist := false
  imports := []

end Lookalike

/--
A function over packages without quotes may pass a variable of another type.

The first result that is asked for decides on the type of the parameter, and every type
that reads like it is passed this parameter.
-/
theorem Job.not_wellTyped_lookalike :
    ¬ ∀ (search : PackageSearch) (job : Job) (limit : Nat) (blueprint : Blueprint),
        search.packages.Unquoted →
        job.blueprintWithin limit search.lookup = .ok blueprint →
        ∃ root,
          (Resolution.resolveWithin limit (job.setting search.lookup) job.goal
              Resolution.Memory.empty).1 = .ok root ∧
            blueprint.WellTyped (fun _ => True)
              (Resolution.Direct (job.setting search.lookup) (job.prepare root)) := by
  intro wellTyped
  have unquoted : Lookalike.search.packages.Unquoted :=
    PackageIndex.unquoted_ofList (by decide)
  obtain ⟨blueprint, accepted, nonePackaged, identity, function, callee, name, argument,
      called, params⟩ :
      ∃ blueprint,
        Lookalike.job.blueprintWithin 2 Lookalike.search.lookup = .ok blueprint ∧
          (∀ entry ∈ blueprint.environment,
            entry.2.reference ≠ Lookalike.packaged.reference) ∧
          ∃ identity function callee name argument,
            .call identity function callee name [argument] ∈ blueprint.statements ∧
              function.params = [Lookalike.packaged] :=
    ⟨_, rfl, by decide +kernel, _, _, _, _, _, .head _, rfl⟩
  obtain ⟨root, resolved, claimed⟩ :=
    wellTyped Lookalike.search Lookalike.job 2 blueprint unquoted accepted
  have fromCaller :
      ∀ node ∈ root.nodes,
        node.identity = Lookalike.packaged.identity → node.origin = .caller := by
    cases resolved
    decide +kernel
  have direct :
      Resolution.Direct (Lookalike.job.setting Lookalike.search.lookup)
        (Lookalike.job.prepare root) Lookalike.packaged := {
    notInterface := by decide
    notError := by decide
    notReplaced := rfl
    notForwarded := by
      intro node member same synonym isForward
      simp [fromCaller node member same] at isForward }
  have passes := claimed.statements _ called
  rw [Statement.PassesDirectly, params, List.forall₂_cons] at passes
  obtain ⟨held, declared, names, _⟩ := passes.1 direct
  exact nonePackaged _ declared (names.eq_reference trivial)

end Wiring
