import Mathlib.Data.List.Find
import Mathlib.Data.List.Nodup
import Wiring.Blueprint.Draft
import Wiring.Proofs.Pairing
import Wiring.Proofs.Term

namespace Wiring

/-!
# Reading a function body

The body of a function is read backwards: a name has the value that the last
statement with the name in front of `:=` gave it, and the operands of that
statement are read in the statements before it. What no statement binds is a
parameter or `nil`. The operators in front of operands are not read.
-/

namespace Symbol

/-- The package-level name that a symbol writes. -/
def reference (symbol : Symbol) : Reference where
  importPath := symbol.importPath
  name := symbol.name

end Symbol

namespace Statement

/-- The function that is called, or the type of the literal. -/
def symbol? : Statement → Option Symbol
  | .call _ _ callee _ _ => some callee
  | .literal _ _ type _ _ => some type
  | .guard _ => none

/-- What stands in front of `:=`. -/
def targets : Statement → List String
  | .call _ function _ name _ => (function.bindings name).map Binding.text
  | .literal _ _ _ name _ => [name]
  | .guard _ => []

/-- What is passed to the function or written into the fields. -/
def operands : Statement → List Operand
  | .call _ _ _ _ arguments => arguments
  | .literal _ _ _ _ fields => fields.map Prod.snd
  | .guard _ => []

/-- What the target at a position is given, from the values of the operands. -/
def given?
    (position : Nat)
    (values : List Term) :
    Statement →
    Option Term
  | .call _ _ callee _ _ => some (.call callee.reference position values)
  | .literal _ _ type _ fields =>
      some (.literal type.reference (fields.map Prod.fst) values)
  | .guard _ => none

end Statement

/--
The value of a name after some statements, the last of them first.

`received` says what the names stand for that no statement binds.
-/
def valueAfter?
    (received : String → Option Term) :
    List Statement →
    String →
    Option Term
  | [], name =>
      received name
  | statement :: earlier, name =>
      match statement.targets.idxOf? name with
      | none =>
          valueAfter? received earlier name
      | some position =>
          match statement.operands.mapM
              (fun operand => valueAfter? received earlier operand.name) with
          | none =>
              none
          | some values =>
              statement.given? position values

/-- What a name stands for that no statement binds. -/
def received?
    (parameters : List Blueprint.Parameter)
    (name : String) :
    Option Term :=
  match parameters.find? (fun parameter => parameter.value.name == name) with
  | some parameter => some (.parameter parameter.value.identity)
  | none => if name = "nil" then some .nil else none

namespace Draft

/-- The value of a name in what has been laid out. -/
def term?
    (draft : Draft)
    (name : String) :
    Option Term :=
  valueAfter? (received? draft.parameters) draft.statements.reverse name

end Draft

namespace Blueprint

/-- The value of a name at the end of the body. -/
def term?
    (blueprint : Blueprint)
    (name : String) :
    Option Term :=
  valueAfter? (received? blueprint.parameters) blueprint.statements.reverse name

/-- The values that the function returns. -/
def returnedTerms? (blueprint : Blueprint) : Option (List Term) :=
  blueprint.returned.mapM (fun operand => blueprint.term? operand.name)

end Blueprint

section Unfolding

variable {received : String → Option Term}

/-- Statements that do not bind a name do not change its value. -/
theorem valueAfter?_append_of_not_mem
    {newer : List Statement}
    {name : String}
    (unbound : ∀ statement ∈ newer, name ∉ statement.targets)
    (earlier : List Statement) :
    valueAfter? received (newer ++ earlier) name = valueAfter? received earlier name := by
  induction newer with
  | nil =>
      rfl
  | cons statement rest inductionHypothesis =>
      have absent : statement.targets.idxOf? name = none := by
        rw [List.idxOf?_eq_none_iff]
        exact unbound statement (by simp)
      simp only [List.cons_append, valueAfter?, absent]
      exact inductionHypothesis
        (fun later member => unbound later (List.mem_cons_of_mem statement member))

/-- A name that a statement binds has the value that the statement gives it. -/
theorem valueAfter?_cons_of_idxOf?
    {statement : Statement}
    {earlier : List Statement}
    {name : String}
    {position : Nat}
    (bound : statement.targets.idxOf? name = some position)
    {values : List Term}
    (read :
      List.Forall₂
        (fun operand value => valueAfter? received earlier operand.name = some value)
        statement.operands values) :
    valueAfter? received (statement :: earlier) name = statement.given? position values := by
  simp only [valueAfter?, bound, List.mapM_eq_some_of_forall₂ read]

/-- A name keeps its value when more names are received. -/
theorem valueAfter?_mono
    {more : String → Option Term}
    (extends' :
      ∀ name term, received name = some term → more name = some term)
    {statements : List Statement}
    {name : String}
    {term : Term}
    (unfolds : valueAfter? received statements name = some term) :
    valueAfter? more statements name = some term := by
  induction statements generalizing name term with
  | nil =>
      exact extends' name term unfolds
  | cons statement earlier inductionHypothesis =>
      simp only [valueAfter?] at unfolds ⊢
      split at unfolds
      · exact inductionHypothesis unfolds
      · split at unfolds
        · cases unfolds
        · rename_i values read
          have readMore :
              statement.operands.mapM
                  (fun operand => valueAfter? more earlier operand.name) =
                some values := by
            apply List.mapM_eq_some_of_forall₂
            exact (List.forall₂_of_mapM_eq_some read).imp
              (fun operand value holds => inductionHypothesis holds)
          rw [readMore]
          exact unfolds

/-- Every parameter that is used in the value of a name has been received. -/
theorem exists_received_of_valueAfter?
    {statements : List Statement}
    {name : String}
    {term : Term}
    (unfolds : valueAfter? received statements name = some term)
    {identity : String}
    (uses : term.Uses identity) :
    ∃ source value, received source = some value ∧ value.Uses identity := by
  induction statements generalizing name term with
  | nil =>
      exact ⟨name, term, unfolds, uses⟩
  | cons statement earlier inductionHypothesis =>
      simp only [valueAfter?] at unfolds
      split at unfolds
      · exact inductionHypothesis unfolds uses
      · split at unfolds
        · cases unfolds
        · rename_i values read
          have related := List.forall₂_of_mapM_eq_some read
          cases statement with
          | call built function callee bound arguments =>
              cases unfolds
              cases uses with
              | argument member usesBelow =>
                  obtain ⟨operand, listed, holds⟩ := related.exists_of_mem_right member
                  exact inductionHypothesis holds usesBelow
          | literal built record type bound fields =>
              cases unfolds
              cases uses with
              | value member usesBelow =>
                  obtain ⟨operand, listed, holds⟩ := related.exists_of_mem_right member
                  exact inductionHypothesis holds usesBelow
          | guard zeros =>
              cases unfolds

end Unfolding

section Received

variable {parameters : List Blueprint.Parameter}

/-- A parameter is received under its name if no other has the same name. -/
theorem received?_of_mem
    (distinct : (parameters.map (fun parameter => parameter.value.name)).Nodup)
    {parameter : Blueprint.Parameter}
    (member : parameter ∈ parameters) :
    received? parameters parameter.value.name =
      some (.parameter parameter.value.identity) := by
  simp only [received?]
  split
  · rename_i other found
    have sameName : other.value.name = parameter.value.name := by
      simpa using List.find?_some found
    have same : other = parameter :=
      List.inj_on_of_nodup_map distinct (List.mem_of_find?_eq_some found) member sameName
    rw [same]
  · rename_i absent
    have named := List.find?_eq_none.mp absent parameter member
    simp at named

/-- The name `nil` stands for itself if no parameter has it. -/
theorem received?_nil
    (unnamed : ∀ parameter ∈ parameters, parameter.value.name ≠ "nil") :
    received? parameters "nil" = some .nil := by
  have absent :
      parameters.find? (fun parameter => parameter.value.name == "nil") = none := by
    rw [List.find?_eq_none]
    intro parameter member
    simpa using unnamed parameter member
  simp [received?, absent]

/-- What was received still is when a parameter is added, unless it is named `nil`. -/
theorem received?_append
    {parameter : Blueprint.Parameter}
    (notNil : parameter.value.name ≠ "nil")
    (name : String)
    (term : Term)
    (found : received? parameters name = some term) :
    received? (parameters ++ [parameter]) name = some term := by
  simp only [received?, List.find?_append] at found ⊢
  split at found
  · rename_i known isKnown
    rw [isKnown]
    exact found
  · rename_i absent
    split at found
    · rename_i isNil
      subst isNil
      rw [absent, List.find?_singleton]
      simpa [notNil] using found
    · cases found

/-- The order of parameters with different names does not matter. -/
theorem received?_perm
    (distinct : (parameters.map (fun parameter => parameter.value.name)).Nodup)
    {others : List Blueprint.Parameter}
    (perm : parameters.Perm others) :
    received? parameters = received? others := by
  funext name
  unfold received?
  rw [List.find?_eq_find?_of_perm perm]
  rintro first ⟨firstMember, firstNamed⟩ second ⟨secondMember, secondNamed⟩
  have sameName : first.value.name = second.value.name := by
    rw [beq_iff_eq] at firstNamed secondNamed
    rw [firstNamed, secondNamed]
  exact List.inj_on_of_nodup_map distinct firstMember secondMember sameName

/-- A parameter that is used in what a name stands for is one of those received. -/
theorem exists_parameter_of_received?
    {name : String}
    {term : Term}
    (found : received? parameters name = some term)
    {identity : String}
    (uses : term.Uses identity) :
    ∃ parameter ∈ parameters, parameter.value.identity = identity := by
  simp only [received?] at found
  split at found
  · rename_i parameter isKnown
    cases found
    cases uses
    exact ⟨parameter, List.mem_of_find?_eq_some isKnown, rfl⟩
  · split at found
    · cases found
      cases uses
    · cases found

end Received

end Wiring
