import Wiring.Proofs.Emission

namespace Wiring.Draft

/-!
# What names denote

A draft binds every name once and no reserved name. Adding a parameter or a
statement under a fresh name therefore leaves alone what the other names denote:
what is laid out later cannot change the meaning of what was laid out before.
-/

/-- Every name is bound once, and no reserved name is bound. -/
structure WellNamed (draft : Draft) : Prop where
  distinct : draft.names.Nodup
  unreserved : ∀ name ∈ draft.names, name ∉ Identifier.reserved

/-- A name can be used in a draft, and it has this value. -/
def Denotes
    (draft : Draft)
    (name : String)
    (term : Term) : Prop :=
  (name = "nil" ∨ name ∈ draft.names) ∧ draft.term? name = some term

/-- Whatever a name denotes it still denotes later. -/
def GrowsTo (draft later : Draft) : Prop :=
  ∀ name term, draft.Denotes name term → later.Denotes name term

theorem GrowsTo.refl
    (draft : Draft) :
    draft.GrowsTo draft :=
  fun _ _ denotes => denotes

theorem GrowsTo.trans
    {draft middle later : Draft}
    (first : draft.GrowsTo middle)
    (second : middle.GrowsTo later) :
    draft.GrowsTo later :=
  fun name term denotes => second name term (first name term denotes)

@[simp] theorem denotes_remember
    {draft : Draft}
    {identity : String}
    {value : Value}
    {name : String}
    {term : Term} :
    (draft.remember identity value).Denotes name term ↔ draft.Denotes name term :=
  Iff.rfl

/-- Nothing is bound at first. -/
theorem empty_wellNamed :
    empty.WellNamed where
  distinct := List.nodup_nil
  unreserved := by simp [names, empty]

section Names

variable {draft : Draft}

/-- A parameter is bound by its name. -/
theorem name_mem_of_parameter
    {parameter : Blueprint.Parameter}
    (member : parameter ∈ draft.parameters) :
    parameter.value.name ∈ draft.names :=
  List.mem_append_left _ (List.mem_map_of_mem member)

/-- A statement binds its name. -/
theorem name_mem_of_statement
    {statement : Statement}
    (member : statement ∈ draft.statements)
    {name : String}
    (bound : statement.boundName? = some name) :
    name ∈ draft.names :=
  List.mem_append_right _ (List.mem_filterMap.mpr ⟨statement, member, bound⟩)

theorem mem_names_addParameter
    {parameter : Blueprint.Parameter}
    {name : String} :
    name ∈ (draft.addParameter parameter).names ↔
      name ∈ draft.names ∨ name = parameter.value.name := by
  simp only [names, addParameter, List.map_append, List.map_cons, List.map_nil,
    List.mem_append, List.mem_singleton]
  tauto

/-- The statements behind a construction bind nothing, so only its own name is added. -/
theorem names_addStatements
    {statement : Statement}
    {name : String}
    (bound : statement.boundName? = some name)
    {checks : List Statement}
    (guards : ∀ check ∈ checks, check.isGuard = true) :
    (draft.addStatements (statement :: checks)).names = draft.names ++ [name] := by
  have checksBindNothing : checks.filterMap Statement.boundName? = [] := by
    rw [List.filterMap_eq_nil_iff]
    intro check member
    exact (Statement.boundName?_of_isGuard (guards check member)).1
  simp [names, addStatements, bound, checksBindNothing]

end Names

namespace WellNamed

variable {draft : Draft}

/-- No reserved name is bound by a parameter. -/
theorem ne_of_reserved
    (wellNamed : draft.WellNamed)
    {name reserved : String}
    (isReserved : reserved ∈ Identifier.reserved)
    (member : name ∈ draft.names) :
    name ≠ reserved := by
  intro same
  exact wellNamed.unreserved name member (same ▸ isReserved)

/-- The parameters have different names. -/
theorem distinct_parameters
    (wellNamed : draft.WellNamed) :
    (draft.parameters.map (fun parameter => parameter.value.name)).Nodup :=
  (List.nodup_append.mp wellNamed.distinct).1

/-- A new parameter under a fresh name keeps the names apart. -/
theorem addParameter
    (wellNamed : draft.WellNamed)
    {parameter : Blueprint.Parameter}
    (unreserved : parameter.value.name ∉ Identifier.reserved)
    (unbound : parameter.value.name ∉ draft.names) :
    (draft.addParameter parameter).WellNamed where
  distinct := by
    have rearranged :
        (draft.addParameter parameter).names.Perm (parameter.value.name :: draft.names) := by
      simp only [names, Draft.addParameter, List.map_append, List.map_cons, List.map_nil,
        List.append_assoc, List.singleton_append]
      exact List.perm_middle
    rw [rearranged.nodup_iff]
    exact List.nodup_cons.mpr ⟨unbound, wellNamed.distinct⟩
  unreserved := by
    intro name member
    rcases mem_names_addParameter.mp member with known | isNew
    · exact wellNamed.unreserved name known
    · rw [isNew]
      exact unreserved

/-- A new statement under a fresh name keeps the names apart. -/
theorem addStatements
    (wellNamed : draft.WellNamed)
    {statement : Statement}
    {name : String}
    (bound : statement.boundName? = some name)
    {checks : List Statement}
    (guards : ∀ check ∈ checks, check.isGuard = true)
    (unreserved : name ∉ Identifier.reserved)
    (unbound : name ∉ draft.names) :
    (draft.addStatements (statement :: checks)).WellNamed where
  distinct := by
    rw [names_addStatements bound guards]
    exact List.nodup_append.mpr
      ⟨wellNamed.distinct, by simp, by
        intro known member new isNew same
        rw [List.mem_singleton] at isNew
        exact unbound (isNew ▸ same ▸ member)⟩
  unreserved := by
    rw [names_addStatements bound guards]
    intro other member
    rcases List.mem_append.mp member with known | isNew
    · exact wellNamed.unreserved other known
    · rw [List.mem_singleton.mp isNew]
      exact unreserved

end WellNamed

section Denotes

variable {draft : Draft} {name : String} {term : Term}

/-- A usable name is not one that every call may bind. -/
theorem Denotes.ne_reserved
    (wellNamed : draft.WellNamed)
    (denotes : draft.Denotes name term) :
    name ≠ "_" ∧ name ≠ "err" := by
  rcases denotes.1 with isNil | member
  · rw [isNil]
    decide
  · exact ⟨wellNamed.ne_of_reserved (by decide) member,
      wellNamed.ne_of_reserved (by decide) member⟩

/-- A name that no statement binds is received. -/
theorem term?_of_not_bound
    (unbound :
      ∀ statement ∈ draft.statements, name ∉ statement.targets) :
    draft.term? name = received? draft.parameters name := by
  have unfolded :
      valueAfter? (received? draft.parameters) (draft.statements.reverse ++ []) name =
        valueAfter? (received? draft.parameters) [] name :=
    valueAfter?_append_of_not_mem
      (fun statement member => unbound statement (List.mem_reverse.mp member)) []
  rwa [List.append_nil] at unfolded

/-- The name `nil` denotes `nil`. -/
theorem denotes_nil
    (wellNamed : draft.WellNamed) :
    draft.Denotes "nil" .nil := by
  have unbound :
      ∀ statement ∈ draft.statements, "nil" ∉ statement.targets := by
    intro statement member isTarget
    rcases Statement.mem_targets isTarget with isBlank | isFailure | bound
    · exact absurd isBlank (by decide)
    · exact absurd isFailure (by decide)
    · exact wellNamed.unreserved _ (name_mem_of_statement member bound) (by decide)
  refine ⟨.inl rfl, ?_⟩
  rw [term?_of_not_bound unbound]
  apply received?_nil
  intro parameter member
  exact wellNamed.ne_of_reserved (by decide) (name_mem_of_parameter member)

/-- The name of a parameter denotes the parameter. -/
theorem denotes_parameter
    (wellNamed : draft.WellNamed)
    {parameter : Blueprint.Parameter}
    (member : parameter ∈ draft.parameters) :
    draft.Denotes parameter.value.name (.parameter parameter.value.identity) := by
  have bound := name_mem_of_parameter member
  have unbound :
      ∀ statement ∈ draft.statements, parameter.value.name ∉ statement.targets := by
    intro statement listed isTarget
    rcases Statement.mem_targets isTarget with isBlank | isFailure | isBound
    · exact wellNamed.ne_of_reserved (by decide) bound isBlank
    · exact wellNamed.ne_of_reserved (by decide) bound isFailure
    · have apart := (List.nodup_append.mp wellNamed.distinct).2.2
      exact apart _ (List.mem_map_of_mem member) _
        (List.mem_filterMap.mpr ⟨statement, listed, isBound⟩) rfl
  refine ⟨.inr bound, ?_⟩
  rw [term?_of_not_bound unbound]
  exact received?_of_mem wellNamed.distinct_parameters member

/-- A new parameter leaves alone what the names denote, unless it is named `nil`. -/
theorem growsTo_addParameter
    {parameter : Blueprint.Parameter}
    (notNil : parameter.value.name ≠ "nil") :
    draft.GrowsTo (draft.addParameter parameter) := by
  rintro name term ⟨usable, unfolds⟩
  refine ⟨usable.imp_right (fun member => mem_names_addParameter.mpr (.inl member)), ?_⟩
  exact valueAfter?_mono (received?_append notNil) unfolds

/-- A construction under a fresh name leaves alone what the other names denote. -/
theorem growsTo_addStatements
    (wellNamed : draft.WellNamed)
    {statement : Statement}
    {bound : String}
    (binds : statement.boundName? = some bound)
    {checks : List Statement}
    (guards : ∀ check ∈ checks, check.isGuard = true)
    (unreserved : bound ∉ Identifier.reserved)
    (unbound : bound ∉ draft.names) :
    draft.GrowsTo (draft.addStatements (statement :: checks)) := by
  intro name term denotes
  have usable := denotes.1
  have notBound : name ≠ bound := by
    rintro rfl
    rcases usable with isNil | member
    · rw [isNil] at unreserved
      exact unreserved (by decide)
    · exact unbound member
  have untouched :
      ∀ newer ∈ (statement :: checks).reverse, name ∉ newer.targets := by
    intro newer member isTarget
    rw [List.mem_reverse] at member
    rcases List.mem_cons.mp member with isFirst | isCheck
    · subst isFirst
      rcases Statement.mem_targets isTarget with isBlank | isFailure | isBound
      · exact (denotes.ne_reserved wellNamed).1 isBlank
      · exact (denotes.ne_reserved wellNamed).2 isFailure
      · rw [binds, Option.some.injEq] at isBound
        exact notBound isBound.symm
    · rw [(Statement.boundName?_of_isGuard (guards newer isCheck)).2.1] at isTarget
      simp at isTarget
  refine ⟨?_, ?_⟩
  · rw [names_addStatements binds guards]
    exact usable.imp_right (List.mem_append_left [bound])
  · unfold term? addStatements
    rw [List.reverse_append, valueAfter?_append_of_not_mem untouched]
    exact denotes.2

/-- An emitted statement makes its name denote what the recipe makes of its inputs. -/
theorem denotes_of_emits
    {scope : Scope}
    {type : NamedType}
    {recipe : Recipe}
    {inputs : List Value}
    {value : Value}
    {statement : Statement}
    {checks : List Statement}
    (emits : scope.Emits draft type recipe inputs value statement checks)
    {terms : List Term}
    (denotes :
      List.Forall₂ (fun term input => draft.Denotes input.name term) terms inputs) :
    (draft.addStatements (statement :: checks)).Denotes value.name
      (recipe.construct terms) := by
  refine ⟨.inr ?_, ?_⟩
  · rw [names_addStatements emits.bound emits.checks]
    simp
  · obtain ⟨position, bound, given⟩ := emits.given
    have checksBindNothing :
        ∀ check ∈ checks.reverse, value.name ∉ check.targets := by
      intro check member
      rw [List.mem_reverse] at member
      rw [(Statement.boundName?_of_isGuard (emits.checks check member)).2.1]
      simp
    have read :
        List.Forall₂
          (fun operand term =>
            valueAfter? (received? draft.parameters) draft.statements.reverse operand.name =
              some term)
          statement.operands terms := by
      have readNames :
          List.Forall₂
            (fun name term =>
              valueAfter? (received? draft.parameters) draft.statements.reverse name =
                some term)
            (statement.operands.map Operand.name) terms := by
        rw [emits.operands]
        exact List.forall₂_map_left_iff.mpr
          (denotes.flip.imp (fun input term holds => holds.2))
      exact List.forall₂_map_left_iff.mp readNames
    unfold term? addStatements
    rw [List.reverse_append, List.reverse_cons, List.append_assoc,
      valueAfter?_append_of_not_mem checksBindNothing, List.singleton_append,
      valueAfter?_cons_of_idxOf? bound read]
    exact given terms

end Denotes

end Wiring.Draft
