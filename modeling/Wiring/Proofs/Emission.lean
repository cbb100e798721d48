import Wiring.Proofs.FreshNames
import Wiring.Proofs.Unfolding

namespace Wiring

/-!
# What a recipe adds to a function

Carrying out a recipe can do four things, one for each form of recipe, and
`Scope.Carries` lists them with all that they add. Calls and literals add one
statement that binds a fresh name, and a call of a function that can fail also
adds an early return, which binds nothing. Aliases and the error slot add nothing:
their value has the name of the input or is `nil`.
-/

namespace Constructor

/-- The provided result of a call is bound at its own position. -/
theorem idxOf?_bindings
    (function : Constructor)
    {name : String}
    (notBlank : name ≠ "_") :
    ((function.bindings name).map Binding.text).idxOf? name =
      some function.leading.length := by
  unfold bindings
  induction function.leading with
  | nil =>
      simp [List.idxOf?_cons, Binding.text]
  | cons result rest inductionHypothesis =>
      have blankDiffers : (Binding.blank.text == name) = false := by
        simpa [Binding.text] using notBlank.symm
      simp only [List.map_cons, List.cons_append, List.idxOf?_cons, blankDiffers,
        Bool.false_eq_true, if_false, List.length_cons]
      rw [inductionHypothesis]
      rfl

/-- The results behind the provided one get no name of their own. -/
theorem output_not_mem_trailingBindings
    (results : List NamedType)
    (name : String) :
    Binding.output name ∉ trailingBindings results := by
  induction results with
  | nil =>
      simp [trailingBindings]
  | cons result rest inductionHypothesis =>
      cases rest with
      | nil =>
          simp only [trailingBindings, List.mem_singleton]
          split <;> simp
      | cons next others =>
          simpa [trailingBindings] using inductionHypothesis

/-- Only the provided result gets a name. -/
theorem output_eq_of_mem_bindings
    {function : Constructor}
    {name bound : String}
    (member : Binding.output bound ∈ function.bindings name) :
    bound = name := by
  unfold bindings at member
  rcases List.mem_append.mp member with isLeading | isLater
  · simp at isLeading
  · rcases List.mem_cons.mp isLater with isProvided | isTrailing
    · cases isProvided
      rfl
    · exact absurd isTrailing (output_not_mem_trailingBindings _ bound)

/-- A call binds its name, the blank identifier and the failure. -/
theorem mem_bindings
    {function : Constructor}
    {name target : String}
    (member : target ∈ (function.bindings name).map Binding.text) :
    target = "_" ∨ target = "err" ∨ target = name := by
  obtain ⟨binding, listed, rfl⟩ := List.mem_map.mp member
  cases binding with
  | output bound =>
      exact .inr (.inr (by rw [output_eq_of_mem_bindings listed, Binding.text]))
  | failure =>
      exact .inr (.inl rfl)
  | blank =>
      exact .inl rfl

end Constructor

namespace Statement

/-- A statement binds its name, and calls also bind the blank identifier and the failure. -/
theorem mem_targets
    {statement : Statement}
    {target : String}
    (member : target ∈ statement.targets) :
    target = "_" ∨ target = "err" ∨ statement.boundName? = some target := by
  cases statement with
  | call identity function callee name arguments =>
      rcases Constructor.mem_bindings member with isBlank | isFailure | isName
      · exact .inl isBlank
      · exact .inr (.inl isFailure)
      · exact .inr (.inr (by rw [isName]; rfl))
  | literal identity record type name fields =>
      rw [targets, List.mem_singleton] at member
      exact .inr (.inr (by rw [member]; rfl))
  | guard zeros =>
      simp [targets] at member

/-- An early return binds nothing. -/
theorem boundName?_of_isGuard
    {statement : Statement}
    (guards : statement.isGuard = true) :
    statement.boundName? = none ∧
      statement.targets = [] ∧
      statement.builtIdentity? = none := by
  cases statement with
  | guard zeros =>
      exact ⟨rfl, rfl, rfl⟩
  | call identity function callee name arguments =>
      simp [isGuard] at guards
  | literal identity record type name fields =>
      simp [isGuard] at guards

end Statement

@[simp] theorem Draft.addStatements_nil
    (draft : Draft) :
    draft.addStatements [] = draft := by
  simp [addStatements]

namespace Scope

/-- A written symbol is that of the package and the name it was asked for. -/
theorem reference_of_symbol
    {scope : Scope}
    {importPath name : String}
    {symbol : Symbol}
    (written : scope.symbol importPath name = .ok symbol) :
    symbol.reference = { importPath, name } ∧
      scope.symbol symbol.importPath symbol.name = .ok symbol := by
  have sameFields : symbol.importPath = importPath ∧ symbol.name = name := by
    simp only [Scope.symbol] at written
    split at written
    · cases written
      exact ⟨rfl, rfl⟩
    · split at written
      · cases written
        exact ⟨rfl, rfl⟩
      · cases written
  rw [sameFields.1, sameFields.2]
  exact ⟨by rw [Symbol.reference, sameFields.1, sameFields.2], written⟩

/-- A written type is that of the package and the name it was asked for. -/
theorem reference_of_typeExpr
    {scope : Scope}
    {type : NamedType}
    {expression : TypeExpr}
    (written : scope.typeExpr type = .ok expression) :
    expression.symbol.reference = type.reference := by
  simp only [typeExpr] at written
  split at written
  · rename_i symbol symbolWritten
    cases written
    exact (reference_of_symbol symbolWritten).1
  · cases written

/-- A fresh name is not taken. -/
theorem freshName_not_mem
    (scope : Scope)
    (draft : Draft)
    (type : NamedType) :
    scope.freshName draft type ∉ scope.takenNames draft :=
  Identifier.fresh_not_mem _ _ _

/-- No reserved name and no name that the draft binds is fresh. -/
theorem not_mem_of_fresh
    {scope : Scope}
    {draft : Draft}
    {name : String}
    (fresh : name ∉ scope.takenNames draft) :
    name ∉ Identifier.reserved ∧ name ∉ draft.names := by
  simp only [takenNames, List.mem_append, not_or] at fresh
  exact ⟨fresh.1.1.1, fresh.1.1.2⟩

/-- A fresh name differs from every reserved one. -/
theorem ne_of_fresh
    {scope : Scope}
    {draft : Draft}
    {name reserved : String}
    (fresh : name ∉ scope.takenNames draft)
    (isReserved : reserved ∈ Identifier.reserved) :
    name ≠ reserved := by
  rintro rfl
  exact (not_mem_of_fresh fresh).1 isReserved

/-- Receiving a value adds one parameter of its type under a fresh name. -/
theorem layParameter_ok
    {scope : Scope}
    {type : NamedType}
    {hoisted : Bool}
    {draft later : Draft}
    {value : Value}
    (laid : scope.layParameter type hoisted draft = .ok (value, later)) :
    value.name ∉ scope.takenNames draft ∧
      value.type = type ∧
      ∃ expression,
        scope.typeExpr type = .ok expression ∧
          later = draft.addParameter { value, hoisted, type := expression } := by
  simp only [layParameter] at laid
  split at laid
  · cases laid
  · rename_i expression written
    have fresh := scope.freshName_not_mem draft type
    generalize scope.freshName draft type = name at laid fresh
    cases laid
    exact ⟨fresh, rfl, expression, written, rfl⟩

/--
What carrying out a recipe for a value of a type adds to a draft, and under which
name and type the value can be used.
-/
inductive Carries
    (scope : Scope)
    (zeros : List ZeroValue)
    (type : NamedType)
    (draft : Draft) :
    Recipe → List Value → Value → List Statement → Prop where
  | call
      {function : Constructor}
      {inputs : List Value}
      {callee : Symbol}
      {name : String}
      (written : scope.symbol function.importPath function.name = .ok callee)
      (named : scope.freshName draft (calledType function type) = name) :
      Carries scope zeros type draft (.call function) inputs
        { name, type := calledType function type }
        (.call type.identity function callee name
            (List.zipWith (fun param input => input.passedAs param)
              function.params inputs) ::
          if function.returnsError then [.guard zeros] else [])
  | literal
      {record : Record}
      {inputs : List Value}
      {literal : Symbol}
      {name : String}
      (written : scope.symbol record.type.importPath record.type.name = .ok literal)
      (named : scope.freshName draft record.type = name) :
      Carries scope zeros type draft (.literal record) inputs
        { name, type := record.type }
        [.literal type.identity record literal name
          (List.zipWith (fun field input => (field.name, input.passedAs field.type))
            record.fields inputs)]
  | forward
      {synonym : TypeAlias}
      {inner : Value}
      {others : List Value} :
      Carries scope zeros type draft (.forward synonym) (inner :: others)
        { name := inner.name, type := type.withKind inner.type.kind }
        []
  | noError
      {inputs : List Value} :
      Carries scope zeros type draft .noError inputs Value.nilError []

/-- Carrying out a recipe succeeds exactly in these four ways. -/
theorem layRecipe_ok_iff
    {scope : Scope}
    {zeros : List ZeroValue}
    {type : NamedType}
    {recipe : Recipe}
    {inputs : List Value}
    {draft later : Draft}
    {value : Value} :
    scope.layRecipe zeros type recipe inputs draft = .ok (value, later) ↔
      ∃ statements,
        scope.Carries zeros type draft recipe inputs value statements ∧
          later = draft.addStatements statements := by
  constructor
  · intro laid
    cases recipe with
    | call function =>
        simp only [layRecipe, layCall] at laid
        split at laid
        · cases laid
        · rename_i callee written
          generalize named : scope.freshName draft (calledType function type) = name at laid
          cases laid
          exact ⟨_, .call written named, rfl⟩
    | literal record =>
        simp only [layRecipe, layLiteral] at laid
        split at laid
        · cases laid
        · rename_i literal written
          generalize named : scope.freshName draft record.type = name at laid
          cases laid
          exact ⟨_, .literal written named, rfl⟩
    | forward synonym =>
        cases inputs with
        | nil =>
            cases laid
        | cons inner others =>
            cases laid
            exact ⟨[], .forward, by simp⟩
    | noError =>
        cases laid
        exact ⟨[], .noError, by simp⟩
    | goal whole =>
        cases laid
  · rintro ⟨statements, carries, rfl⟩
    cases carries with
    | call written named =>
        simp only [layRecipe, layCall, written, named]
    | literal written named =>
        simp only [layRecipe, layLiteral, written, named]
    | forward =>
        simp [layRecipe]
    | noError =>
        simp [layRecipe]

/--
A statement and the early returns behind it carry out a recipe.

The statement binds a fresh name to what the recipe makes of its operands, which
are the inputs.
-/
structure Emits
    (scope : Scope)
    (draft : Draft)
    (type : NamedType)
    (recipe : Recipe)
    (inputs : List Value)
    (value : Value)
    (statement : Statement)
    (checks : List Statement) : Prop where
  fresh : value.name ∉ scope.takenNames draft
  bound : statement.boundName? = some value.name
  built : statement.builtIdentity? = some type.identity
  operands : statement.operands.map Operand.name = inputs.map Value.name
  given :
    ∃ position,
      statement.targets.idxOf? value.name = some position ∧
        ∀ values, statement.given? position values = some (recipe.construct values)
  written :
    ∃ symbol,
      statement.symbol? = some symbol ∧
        symbol.reference ∈ recipe.references ∧
        scope.symbol symbol.importPath symbol.name = .ok symbol
  checks : ∀ check ∈ checks, check.isGuard = true

/-- Passing values keeps their names, if there is a wanted type for each. -/
theorem map_name_passedAs
    {inputs : List Value}
    {wanted : List NamedType}
    (arity : inputs.length = wanted.length) :
    (List.zipWith (fun type input => Value.passedAs input type) wanted inputs).map
        Operand.name =
      inputs.map Value.name := by
  apply List.ext_getElem
  · simp [arity]
  · intro index inOperands inInputs
    simp [Value.passedAs]

/-- A call is emitted with an early return behind it, if its function can fail. -/
theorem emits_call
    {scope : Scope}
    {zeros : List ZeroValue}
    {type : NamedType}
    {function : Constructor}
    {inputs : List Value}
    (arity : inputs.length = function.params.length)
    {draft : Draft}
    {callee : Symbol}
    (written : scope.symbol function.importPath function.name = .ok callee)
    {name : String}
    (named : scope.freshName draft (calledType function type) = name) :
    scope.Emits draft type (.call function) inputs { name, type := calledType function type }
      (.call type.identity function callee name
        (List.zipWith (fun param input => input.passedAs param) function.params inputs))
      (if function.returnsError then [.guard zeros] else []) := by
  obtain ⟨reference, rewritten⟩ := reference_of_symbol written
  have fresh := scope.freshName_not_mem draft (calledType function type)
  rw [named] at fresh
  exact {
    fresh
    bound := rfl
    built := rfl
    operands := map_name_passedAs arity
    given :=
      ⟨function.leading.length,
        function.idxOf?_bindings (ne_of_fresh fresh (by decide)),
        fun values => by rw [Statement.given?, reference, Recipe.construct]⟩
    written := ⟨callee, rfl, by simp [Recipe.references, reference], rewritten⟩
    checks := by
      intro check member
      split at member
      · rw [List.mem_singleton.mp member]
        rfl
      · simp at member }

/-- A literal is emitted alone. -/
theorem emits_literal
    {scope : Scope}
    {type : NamedType}
    {record : Record}
    {inputs : List Value}
    (arity : inputs.length = record.fields.length)
    {draft : Draft}
    {literal : Symbol}
    (written : scope.symbol record.type.importPath record.type.name = .ok literal)
    {name : String}
    (named : scope.freshName draft record.type = name) :
    scope.Emits draft type (.literal record) inputs { name, type := record.type }
      (.literal type.identity record literal name
        (List.zipWith (fun field input => (field.name, input.passedAs field.type))
          record.fields inputs))
      [] := by
  obtain ⟨reference, rewritten⟩ := reference_of_symbol written
  have fresh := scope.freshName_not_mem draft record.type
  rw [named] at fresh
  exact {
    fresh
    bound := rfl
    built := rfl
    operands := by
      apply List.ext_getElem
      · simp [Statement.operands, arity]
      · intro index inOperands inInputs
        simp [Statement.operands, Value.passedAs]
    given := by
      refine ⟨0, by simp [Statement.targets], ?_⟩
      intro values
      have sameFields :
          (List.zipWith
              (fun (field : Field) (input : Value) =>
                (field.name, input.passedAs field.type))
              record.fields inputs).map Prod.fst =
            record.fields.map Field.name := by
        apply List.ext_getElem
        · simp [arity]
        · intro index inWritten inFields
          simp
      rw [Statement.given?, reference, sameFields, Recipe.construct]
      rfl
    written :=
      ⟨literal, rfl,
        by simp [Recipe.references, reference, NamedType.reference], rewritten⟩
    checks := by simp }

/-- Carrying out a recipe emits a statement, or gives a name that is there already. -/
theorem layRecipe_ok_cases
    {scope : Scope}
    {zeros : List ZeroValue}
    {type : NamedType}
    {recipe : Recipe}
    {inputs : List Value}
    (arity : inputs.length = recipe.needs.length)
    {draft later : Draft}
    {value : Value}
    (laid : scope.layRecipe zeros type recipe inputs draft = .ok (value, later)) :
    (∃ statement checks,
        later = draft.addStatements (statement :: checks) ∧
          scope.Carries zeros type draft recipe inputs value (statement :: checks) ∧
          scope.Emits draft type recipe inputs value statement checks) ∨
      later = draft ∧
        ((∃ inner,
            inputs = [inner] ∧
              value.name = inner.name ∧
              ∀ term, recipe.construct [term] = term) ∨
          (inputs = [] ∧ value.name = "nil" ∧ recipe.construct [] = .nil)) := by
  obtain ⟨statements, carries, rfl⟩ := layRecipe_ok_iff.mp laid
  cases carries with
  | call written named =>
      exact .inl ⟨_, _, rfl, .call written named,
        emits_call (by simpa [Recipe.needs] using arity) written named⟩
  | literal written named =>
      exact .inl ⟨_, _, rfl, .literal written named,
        emits_literal (by simpa [Recipe.needs] using arity) written named⟩
  | @forward synonym inner others =>
      obtain rfl : others = [] := by simpa [Recipe.needs] using arity
      exact .inr ⟨by simp, .inl ⟨inner, rfl, rfl, fun term => rfl⟩⟩
  | noError =>
      exact .inr ⟨by simp, .inr ⟨List.length_eq_zero_iff.mp arity, rfl, rfl⟩⟩

end Scope

end Wiring
