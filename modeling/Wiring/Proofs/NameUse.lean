import Wiring.Proofs.Emission

namespace Wiring

/-!
# Declared and read names

Which names a function declares, which it reads and which package-level names it
writes. A body is read from top to bottom: a name may be read after the statement
that declares it, and a declared name should be read further down or be returned.
-/

namespace ZeroValue

/-- The type that a zero value is written with. -/
def symbol? : ZeroValue → Option Symbol
  | .composite type => some type
  | .pointee type => some type
  | _ => none

end ZeroValue

namespace Binding

/-- The name that a binding declares, which is neither the failure nor the blank identifier. -/
def name? : Binding → Option String
  | .output name => some name
  | .failure => none
  | .blank => none

end Binding

namespace Statement

/-- The names that a statement declares, without the failure and the blank identifier. -/
def locals : Statement → List String
  | .call _ function _ name _ => (function.bindings name).filterMap Binding.name?
  | .literal _ _ _ name _ => [name]
  | .guard _ => []

/-- The names that a statement reads; an early return reads the failure. -/
def reads (statement : Statement) : List String :=
  match statement with
  | .guard _ => ["err"]
  | _ => statement.operands.map Operand.name

/-- The package-level names that a statement writes, those of zero values included. -/
def symbols : Statement → List Symbol
  | .call _ _ callee _ _ => [callee]
  | .literal _ _ type _ _ => [type]
  | .guard zeros => zeros.filterMap ZeroValue.symbol?

end Statement

/-- Every name that the statements read is known before them or declared by an earlier one. -/
def ReadsBound : List String → List Statement → Prop
  | _, [] =>
      True
  | known, statement :: rest =>
      (∀ name ∈ statement.reads, name ∈ known) ∧
        ReadsBound (known ++ statement.locals) rest

/-- The declared names, the failure included, that no later statement reads. -/
def unread : List Statement → List String
  | [] =>
      []
  | statement :: rest =>
      statement.targets.filter
          (fun target => target ≠ "_" ∧ target ∉ rest.flatMap Statement.reads)
        ++ unread rest

namespace Blueprint

/-- The names of the parameters. -/
def parameterNames (blueprint : Blueprint) : List String :=
  blueprint.parameters.map (fun parameter => parameter.value.name)

/-- The names that a function declares, without the failure and the blank identifier. -/
def names (blueprint : Blueprint) : List String :=
  blueprint.parameterNames ++ blueprint.statements.flatMap Statement.locals

/-- The package-level names that the signature and the body write. -/
def symbols (blueprint : Blueprint) : List Symbol :=
  blueprint.parameters.map (fun parameter => parameter.type.symbol)
    ++ blueprint.resultTypes.map TypeExpr.symbol
    ++ blueprint.statements.flatMap Statement.symbols

/-- The names that a function returns at its end. -/
def returnedNames (blueprint : Blueprint) : List String :=
  blueprint.returned.map Operand.name

/--
The scoping rules of a generated function, over the imports that its file starts from.

The declared names are new and different from each other, only declared names are
read, apart from `nil` and the failure, and every declared name is read.
-/
structure WellScoped
    (imports : ImportTable)
    (blueprint : Blueprint) : Prop where
  distinct : blueprint.names.Nodup
  unreserved :
    ∀ name ∈ blueprint.names,
      Identifier.isKeyword name = false ∧
        Identifier.isPredeclared name = false ∧
        name ≠ "err" ∧
        name ≠ "_"
  hidesNoImport :
    ∀ name ∈ blueprint.names,
      name ∉ imports.names ∧
        ∀ entry ∈ blueprint.imports, name ≠ entry.name
  hidesNoSymbol :
    ∀ name ∈ blueprint.names,
      name ≠ blueprint.goal.name ∧
        ∀ symbol ∈ blueprint.symbols,
          symbol.importPath = blueprint.goal.importPath →
          name ≠ symbol.name
  readsBound : ReadsBound ("nil" :: "err" :: blueprint.parameterNames) blueprint.statements
  returnsBound :
    ∀ name ∈ blueprint.returnedNames,
      name = "nil" ∨ name = "err" ∨ name ∈ blueprint.names
  used : ∀ name ∈ unread blueprint.statements, name ∈ blueprint.returnedNames

end Blueprint

section Body

variable {known : List String} {earlier later statements : List Statement}

/-- More names may be known. -/
theorem ReadsBound.mono
    (bound : ReadsBound known statements)
    {more : List String}
    (includes : known ⊆ more) :
    ReadsBound more statements := by
  induction statements generalizing known more with
  | nil =>
      trivial
  | cons statement rest inductionHypothesis =>
      refine ⟨fun name read => includes (bound.1 name read), ?_⟩
      exact inductionHypothesis bound.2
        (List.append_subset.mpr
          ⟨List.subset_append_of_subset_left _ includes, List.subset_append_right _ _⟩)

/-- Statements that read known names only may follow in any order. -/
theorem readsBound_of_forall
    (each : ∀ statement ∈ statements, ∀ name ∈ statement.reads, name ∈ known) :
    ReadsBound known statements := by
  induction statements generalizing known with
  | nil =>
      trivial
  | cons statement rest inductionHypothesis =>
      refine ⟨each statement (by simp), inductionHypothesis ?_⟩
      intro later member name read
      exact List.mem_append_left _
        (each later (List.mem_cons_of_mem statement member) name read)

/-- Later statements may read what the earlier ones declare. -/
theorem readsBound_append :
    ReadsBound known (earlier ++ later) ↔
      ReadsBound known earlier ∧
        ReadsBound (known ++ earlier.flatMap Statement.locals) later := by
  induction earlier generalizing known with
  | nil =>
      simp [ReadsBound]
  | cons statement rest inductionHypothesis =>
      simp only [List.cons_append, ReadsBound, inductionHypothesis, List.flatMap_cons,
        List.append_assoc, and_assoc]

/-- Names declared earlier are unread if neither part reads them further down. -/
theorem mem_unread_append
    {name : String} :
    name ∈ unread (earlier ++ later) ↔
      (name ∈ unread earlier ∧ name ∉ later.flatMap Statement.reads) ∨
        name ∈ unread later := by
  induction earlier with
  | nil =>
      simp [unread]
  | cons statement rest inductionHypothesis =>
      simp only [List.cons_append, unread, List.mem_append, inductionHypothesis,
        List.mem_filter, List.flatMap_append, decide_eq_true_eq]
      tauto

end Body

namespace Constructor

/-- A call can bind the failure only if its last result is an error. -/
theorem getLastD_isError_of_failure_mem
    {results : List NamedType}
    (member : Binding.failure ∈ trailingBindings results)
    (provided : NamedType) :
    (results.getLastD provided).isError = true := by
  induction results generalizing provided with
  | nil =>
      simp [trailingBindings] at member
  | cons result rest inductionHypothesis =>
      cases rest with
      | nil =>
          by_cases isError : result.isError = true
          · exact isError
          · simp [trailingBindings, isError] at member
      | cons next others =>
          have memberRest : Binding.failure ∈ trailingBindings (next :: others) := by
            simpa [trailingBindings] using member
          exact inductionHypothesis memberRest result

/-- A call that binds the failure can fail. -/
theorem returnsError_of_mem_bindings
    {function : Constructor}
    {name : String}
    (notFailure : name ≠ "err")
    (member : "err" ∈ (function.bindings name).map Binding.text) :
    function.returnsError = true := by
  obtain ⟨binding, listed, isFailure⟩ := List.mem_map.mp member
  cases binding with
  | output bound =>
      rw [output_eq_of_mem_bindings listed] at isFailure
      exact absurd isFailure notFailure
  | blank =>
      exact absurd isFailure (by decide)
  | failure =>
      rcases List.mem_append.mp listed with isLeading | isLater
      · simp at isLeading
      · rcases List.mem_cons.mp isLater with isProvided | isTrailing
        · cases isProvided
        · exact getLastD_isError_of_failure_mem isTrailing function.output

/-- Among the results of a call only the provided one is declared. -/
theorem filterMap_name?_bindings
    (function : Constructor)
    (name : String) :
    (function.bindings name).filterMap Binding.name? = [name] := by
  have leadingGone :
      (function.leading.map fun _ => Binding.blank).filterMap Binding.name? = [] := by
    simp [List.filterMap_eq_nil_iff, Binding.name?]
  have trailingGone :
      (trailingBindings function.trailing).filterMap Binding.name? = [] := by
    rw [List.filterMap_eq_nil_iff]
    intro binding listed
    cases binding with
    | output bound =>
        exact absurd listed (output_not_mem_trailingBindings _ bound)
    | failure =>
        rfl
    | blank =>
        rfl
  rw [bindings, List.filterMap_append, List.filterMap_cons, leadingGone, trailingGone]
  rfl

end Constructor

namespace Statement

/-- A statement declares the name that it binds for later use, if it binds one. -/
theorem locals_eq_toList
    (statement : Statement) :
    statement.locals = statement.boundName?.toList := by
  cases statement with
  | call identity function callee name arguments =>
      exact function.filterMap_name?_bindings name
  | literal identity record type name fields =>
      rfl
  | guard zeros =>
      rfl

/-- Statements declare the names that they bind for later use. -/
theorem flatMap_locals
    (statements : List Statement) :
    statements.flatMap locals = statements.filterMap boundName? := by
  rw [List.filterMap_eq_flatMap_toList]
  congr 1
  funext statement
  exact statement.locals_eq_toList

/-- A statement that binds a name reads its operands. -/
theorem reads_of_boundName?
    {statement : Statement}
    {name : String}
    (bound : statement.boundName? = some name) :
    statement.reads = statement.operands.map Operand.name := by
  cases statement with
  | call identity function callee given arguments =>
      rfl
  | literal identity record type given fields =>
      rfl
  | guard zeros =>
      cases bound

/-- The only symbol of a construction is the function it calls or the type it fills in. -/
theorem symbols_of_symbol?
    {statement : Statement}
    {symbol : Symbol}
    (written : statement.symbol? = some symbol) :
    statement.symbols = [symbol] := by
  cases statement with
  | call identity function callee given arguments =>
      cases written
      rfl
  | literal identity record type given fields =>
      cases written
      rfl
  | guard zeros =>
      cases written

end Statement

namespace Scope

variable {scope : Scope} {zeros : List ZeroValue} {draft : Draft}

/-- What stands behind a construction is the early return of a call that binds the failure. -/
theorem Carries.checks
    {type : NamedType}
    {recipe : Recipe}
    {inputs : List Value}
    {value : Value}
    {statement : Statement}
    {checks : List Statement}
    (notFailure : value.name ≠ "err")
    (carries :
      scope.Carries zeros type draft recipe inputs value (statement :: checks)) :
    checks = [.guard zeros] ∨ (checks = [] ∧ "err" ∉ statement.targets) := by
  cases carries with
  | @call function inputs callee name written named =>
      by_cases fails : function.returnsError = true
      -- A call whose provided result is the error is checked without binding the failure.
      · exact .inl (if_pos fails)
      · refine .inr ⟨if_neg fails, ?_⟩
        intro member
        exact fails (Constructor.returnsError_of_mem_bindings notFailure member)
  | literal written named =>
      refine .inr ⟨rfl, ?_⟩
      intro member
      simp only [Statement.targets, List.mem_singleton] at member
      exact notFailure member.symm

/-- Of what a construction declares, only its own name is not read by what stands behind it. -/
theorem Emits.eq_of_mem_unread
    {type : NamedType}
    {recipe : Recipe}
    {inputs : List Value}
    {value : Value}
    {statement : Statement}
    {checks : List Statement}
    (emits : scope.Emits draft type recipe inputs value statement checks)
    (checked : checks = [.guard zeros] ∨ (checks = [] ∧ "err" ∉ statement.targets))
    {name : String}
    (member : name ∈ unread (statement :: checks)) :
    name = value.name := by
  have fromStatement :
      name ∈ statement.targets ∧ name ≠ "_" ∧ name ∉ checks.flatMap Statement.reads := by
    rcases checked with rfl | ⟨rfl, unfailing⟩ <;>
      simpa [unread, Statement.targets] using member
  obtain ⟨isTarget, notBlank, notRead⟩ := fromStatement
  rcases Statement.mem_targets isTarget with isBlank | isFailure | isBound
  · exact absurd isBlank notBlank
  · subst isFailure
    rcases checked with rfl | ⟨rfl, unfailing⟩
    · simp [Statement.reads] at notRead
    · exact absurd isTarget unfailing
  · rw [emits.bound, Option.some.injEq] at isBound
    exact isBound.symm

end Scope

end Wiring
