import Wiring.Proofs.Emission
import Wiring.Proofs.Layout
import Wiring.Proofs.References

namespace Wiring

/-!
# Where parameters and statements come from

Every parameter of a laid-out function is traced to a supplied node whose type it
has, and every statement other than an early return to a constructed node whose
recipe it carries out.
-/

namespace Statement

/-- The recipe that a statement carries out. -/
def recipe? : Statement → Option Recipe
  | .call _ function _ _ _ => some (.call function)
  | .literal _ record _ _ _ => some (.literal record)
  | .guard _ => none

end Statement

namespace Draft

@[simp] theorem statements_addStatements
    (draft : Draft)
    (statements : List Statement) :
    (draft.addStatements statements).statements = draft.statements ++ statements :=
  rfl

@[simp] theorem parameters_addStatements
    (draft : Draft)
    (statements : List Statement) :
    (draft.addStatements statements).parameters = draft.parameters :=
  rfl

@[simp] theorem built_addStatements
    (draft : Draft)
    (statements : List Statement) :
    (draft.addStatements statements).built = draft.built :=
  rfl

@[simp] theorem statements_addParameter
    (draft : Draft)
    (parameter : Blueprint.Parameter) :
    (draft.addParameter parameter).statements = draft.statements :=
  rfl

@[simp] theorem parameters_addParameter
    (draft : Draft)
    (parameter : Blueprint.Parameter) :
    (draft.addParameter parameter).parameters = draft.parameters ++ [parameter] :=
  rfl

@[simp] theorem built_addParameter
    (draft : Draft)
    (parameter : Blueprint.Parameter) :
    (draft.addParameter parameter).built = draft.built :=
  rfl

@[simp] theorem statements_remember
    (draft : Draft)
    (identity : String)
    (value : Value) :
    (draft.remember identity value).statements = draft.statements :=
  rfl

@[simp] theorem parameters_remember
    (draft : Draft)
    (identity : String)
    (value : Value) :
    (draft.remember identity value).parameters = draft.parameters :=
  rfl

/-- The value that is remembered is the one found, and the others are found as before. -/
theorem get?_built_remember
    (draft : Draft)
    (identity other : String)
    (value : Value) :
    (draft.remember identity value).built.get? other =
      if identity = other then some value else draft.built.get? other :=
  Keyed.get?_insert draft.built identity other value

end Draft

namespace Scope

/-- A statement carries out the recipe of a constructed node and writes its symbol. -/
structure Traces
    (scope : Scope)
    (node : Tree)
    (statement : Statement) : Prop where
  constructed : node.isSupplied = false
  built : statement.builtIdentity? = some node.identity
  carriesOut :
    ∃ recipe symbol,
      node.origin = .recipe recipe ∧
        statement.recipe? = some recipe ∧
        statement.symbol? = some symbol ∧
        recipe.references = [symbol.reference] ∧
        scope.symbol symbol.importPath symbol.name = .ok symbol

/-- A parameter receives the value of a supplied node under the written form of its type. -/
structure Receives
    (scope : Scope)
    (node : Tree)
    (parameter : Blueprint.Parameter) : Prop where
  supplied : node.isSupplied = true
  type : parameter.value.type = node.type
  hoisted : parameter.hoisted = node.hoist
  written : scope.typeExpr node.type = .ok parameter.type

/-- Every statement that carries out a recipe, other than an early return, is traced to its node. -/
theorem Carries.traces
    {scope : Scope}
    {zeros : List ZeroValue}
    {node : Tree}
    (constructed : node.isSupplied = false)
    {recipe : Recipe}
    (isRecipe : node.origin = .recipe recipe)
    {draft : Draft}
    {inputs : List Value}
    {value : Value}
    {statements : List Statement}
    (carries : scope.Carries zeros node.type draft recipe inputs value statements) :
    ∀ statement ∈ statements, statement.isGuard = true ∨ scope.Traces node statement := by
  intro statement member
  cases carries with
  | @call function inputs callee name written named =>
      rcases List.mem_cons.mp member with rfl | isCheck
      · obtain ⟨reference, rewritten⟩ := reference_of_symbol written
        exact .inr ⟨constructed, rfl, .call function, callee, isRecipe, rfl, rfl,
          by simp [Recipe.references, reference], rewritten⟩
      · split at isCheck
        · rw [List.mem_singleton.mp isCheck]
          exact .inl rfl
        · simp at isCheck
  | @literal record inputs literal name written named =>
      obtain ⟨reference, rewritten⟩ := reference_of_symbol written
      rw [List.mem_singleton.mp member]
      exact .inr ⟨constructed, rfl, .literal record, literal, isRecipe, rfl, rfl,
        by simp [Recipe.references, reference, NamedType.reference], rewritten⟩
  | forward =>
      simp at member
  | noError =>
      simp at member

end Scope

/-- Every parameter and every statement of a draft is traced to a node that has been met. -/
structure Draft.Traced
    (scope : Scope)
    (root : Tree)
    (draft : Draft) : Prop where
  received :
    ∀ parameter ∈ draft.parameters,
      ∃ node, root.Exposed node ∧ scope.Receives node parameter
  made :
    ∀ statement ∈ draft.statements,
      statement.isGuard = true ∨
        ∃ node, root.Exposed node ∧ scope.Traces node statement

/-- Nothing is laid out at first. -/
theorem Draft.empty_traced
    (scope : Scope)
    (root : Tree) :
    Draft.empty.Traced scope root where
  received := by simp [empty]
  made := by simp [empty]

namespace Draft.Traced

variable {scope : Scope} {zeros : List ZeroValue} {root tree : Tree} {draft : Draft}

/-- A parameter that receives the value of a node is traced. -/
theorem addParameter
    (traced : draft.Traced scope root)
    (exposed : root.Exposed tree)
    {parameter : Blueprint.Parameter}
    (receives : scope.Receives tree parameter) :
    (draft.addParameter parameter).Traced scope root where
  received := by
    intro other member
    rcases List.mem_append.mp member with known | isNew
    · exact traced.received other known
    · rw [List.mem_singleton.mp isNew]
      exact ⟨tree, exposed, receives⟩
  made := traced.made

/-- What carries out the recipe of a node is traced. -/
theorem addStatements
    (traced : draft.Traced scope root)
    (exposed : root.Exposed tree)
    (constructed : tree.isSupplied = false)
    {recipe : Recipe}
    (isRecipe : tree.origin = .recipe recipe)
    {inputs : List Value}
    {value : Value}
    {statements : List Statement}
    (carries : scope.Carries zeros tree.type draft recipe inputs value statements) :
    (draft.addStatements statements).Traced scope root where
  received := traced.received
  made := by
    intro statement member
    rcases List.mem_append.mp member with known | isNew
    · exact traced.made statement known
    · exact (carries.traces constructed isRecipe statement isNew).imp_right
        (fun traces => ⟨tree, exposed, traces⟩)

/-- A remembered value changes nothing that is traced. -/
theorem remember
    (traced : draft.Traced scope root)
    (identity : String)
    (value : Value) :
    (draft.remember identity value).Traced scope root :=
  ⟨traced.received, traced.made⟩

end Draft.Traced

namespace Scope

variable {scope : Scope} {zeros : List ZeroValue} {root : Tree}

/-- A value that is supplied for the first time is received as a new parameter. -/
theorem receives_of_layParameter
    {tree : Tree}
    (supplied : tree.isSupplied = true)
    {draft later : Draft}
    {value : Value}
    (laid : scope.layParameter tree.type tree.hoist draft = .ok (value, later)) :
    ∃ parameter : Blueprint.Parameter,
      scope.Receives tree parameter ∧
        value = parameter.value ∧
        later = draft.addParameter parameter := by
  obtain ⟨fresh, sameType, expression, written, rfl⟩ := layParameter_ok laid
  exact ⟨_, ⟨supplied, sameType, rfl, written⟩, rfl, rfl⟩

/-- Laying out the children of a root traces everything to nodes that it exposes. -/
theorem layChildren_traced
    {draft : Draft}
    {values : List Value}
    (laid : scope.layEach zeros [] root.children Draft.empty = .ok (values, draft)) :
    draft.Traced scope root := by
  refine
    layChildren_keeps (Draft.Traced scope root) ?receive ?build
      (Draft.empty_traced scope root) laid
  case receive =>
    intro tree draft value later exposed supplied traced laid
    obtain ⟨parameter, receives, rfl, rfl⟩ := receives_of_layParameter supplied laid
    exact traced.addParameter exposed receives
  case build =>
    intro tree recipe inputs draft value later exposed constructed isRecipe traced laid
    obtain ⟨statements, carries, rfl⟩ := layRecipe_ok_iff.mp laid
    exact (traced.addStatements exposed constructed isRecipe carries).remember _ _

end Scope

end Wiring
