import Wiring.Proofs.HoistingSound
import Wiring.Proofs.PackageAnswers
import Wiring.Proofs.Provenance
import Wiring.Proofs.Tracing

namespace Wiring

/-!
# Early returns match the signature

The values of an early return are fixed before anything is laid out, the result
types afterwards, and what a call binds is decided by its function alone. The
three agree, because a valid job has the error slot at most in the last place:
either it is requested and every early return fills it with the failure, or a
function with an early return has one more result for it.
-/

namespace Constructor

/-- The provided result is not the failure that the function may end with. -/
def ProvidesNoFailure (function : Constructor) : Prop :=
  function.trailing = [] → function.output.isError = false

/-- Whether a function can fail is a matter of its last result. -/
theorem returnsError_iff
    (function : Constructor) :
    function.returnsError = true ↔
      ∃ last, function.results.getLast? = some last ∧ last.isError = true := by
  simp [returnsError, results, List.getLast?_append, List.getLast?_cons]

end Constructor

/-- The calls that a lookup answers with do not provide the failure of their functions. -/
def Lookup.ProvidesNoFailure (lookup : Lookup) : Prop :=
  ∀ type function, lookup type = .ok (.call function) → function.ProvidesNoFailure

namespace PackageSearch

end PackageSearch

namespace Statement

/-- Whether a statement is a call of a function that can fail. -/
def canFail : Statement → Bool
  | .call _ function _ _ _ => function.returnsError
  | _ => false

/-- What an early return gives back: the zero values of the results, and the failure. -/
def earlyReturn (zeros : List ZeroValue) : List String :=
  zeros.map ZeroValue.text ++ ["err"]

/-- Every early return stands behind a call that can fail, and every such call has one. -/
inductive Guarded (zeros : List ZeroValue) : List Statement → Prop where
  | nil :
      Guarded zeros []
  | plain
      {statement : Statement}
      {rest : List Statement}
      (noGuard : statement.isGuard = false)
      (safe : statement.canFail = false)
      (later : Guarded zeros rest) :
      Guarded zeros (statement :: rest)
  | checked
      {call : Statement}
      {rest : List Statement}
      (fails : call.canFail = true)
      (later : Guarded zeros rest) :
      Guarded zeros (call :: .guard zeros :: rest)

namespace Guarded

variable {zeros : List ZeroValue} {statements : List Statement}

/-- Guarded statements may be put one behind the other. -/
theorem append
    (guarded : Guarded zeros statements)
    {more : List Statement}
    (guardedToo : Guarded zeros more) :
    Guarded zeros (statements ++ more) := by
  induction guarded with
  | nil =>
      exact guardedToo
  | plain noGuard safe later inductionHypothesis =>
      exact .plain noGuard safe inductionHypothesis
  | checked fails later inductionHypothesis =>
      exact .checked fails inductionHypothesis

end Guarded

end Statement

namespace Scope

variable {scope : Scope} {zeros : List ZeroValue}

/-- A recipe is carried out by guarded statements. -/
theorem Carries.guarded
    {type : NamedType}
    {draft : Draft}
    {recipe : Recipe}
    {inputs : List Value}
    {value : Value}
    {statements : List Statement}
    (carries : scope.Carries zeros type draft recipe inputs value statements) :
    Statement.Guarded zeros statements := by
  cases carries with
  | @call function inputs callee name written named =>
      cases fails : function.returnsError with
      | true =>
          exact .checked fails .nil
      | false =>
          exact .plain rfl fails .nil
  | literal written named =>
      exact .plain rfl rfl .nil
  | forward =>
      exact .nil
  | noError =>
      exact .nil

end Scope

/-- A written type is that of a named type, with its star. -/
structure TypeExpr.Writes
    (expression : TypeExpr)
    (type : NamedType) : Prop where
  reference : expression.symbol.reference = type.reference
  pointer : expression.pointer = type.pointer

/-- The written form of a type writes it. -/
theorem Scope.writes_of_typeExpr
    {scope : Scope}
    {type : NamedType}
    {expression : TypeExpr}
    (written : scope.typeExpr type = .ok expression) :
    expression.Writes type where
  reference := reference_of_typeExpr written
  pointer := by
    simp only [typeExpr] at written
    split at written <;> cases written
    rfl

namespace ZeroValue

end ZeroValue

namespace Scope

end Scope

namespace Blueprint

end Blueprint

namespace Job

/-- A job that has a blueprint is valid. -/
theorem validate_of_blueprintWithin
    {lookup : Lookup}
    {job : Job}
    {limit : Nat}
    {blueprint : Blueprint}
    (accepted : job.blueprintWithin limit lookup = .ok blueprint) :
    job.validate = .ok () := by
  simp only [blueprintWithin] at accepted
  split at accepted
  · cases accepted
  · assumption

/-- Nothing is wrong with a valid job. -/
theorem problem?_of_validate
    {job : Job}
    (valid : job.validate = .ok ()) :
    job.problem? = none := by
  simp only [validate] at valid
  split at valid
  · cases valid
  · assumption

/-- The tree that is laid out for a job is the resolved one or the hoisted one. -/
theorem prepare_cases
    (job : Job)
    (root : Tree) :
    job.prepare root = root ∨ job.prepare root = root.hoisted := by
  unfold prepare
  split
  · exact .inr rfl
  · exact .inl rfl

end Job

/-- Answers that do not provide a failure are all that a run can know. -/
theorem Lookup.ProvidesNoFailure.vouches
    {setting : Resolution.Setting}
    (provides : setting.lookup.ProvidesNoFailure)
    (goal : Goal) :
    setting.Vouches goal (fun _ => True)
      (fun _ recipe => ∀ function, recipe = .call function → function.ProvidesNoFailure) where
  answered := by
    rintro need recipe - found function rfl
    cases need with
    | named type =>
        simp only [Need.recipe] at found
        split at found
        · cases found
        · exact provides type function found
    | record listed =>
        cases found
    | error =>
        cases found
  needed := fun _ _ _ _ _ => trivial
  requested := fun _ _ => trivial

end Wiring
