import Wiring.Proofs.Faithful
import Wiring.Proofs.NameUse

namespace Wiring

/-!
# Generated functions are well scoped

While a tree is laid out, every new name avoids the names that are bound, set
aside or given to packages, every symbol that is written is one that the scan has
read, and every operand names a value that is there. Of the names that a tree
adds, only that of its value is still unread when the tree has been laid out,
because each step reads all of its inputs. The results are returned, so in the
end no name is left over.
-/

namespace Scope

variable {scope : Scope}

/-- A plain zero value of the universe block is written without its type. -/
theorem symbol?_of_builtinZero?
    {name : String}
    {zero : ZeroValue}
    (plain : builtinZero? name = some zero) :
    zero.symbol? = none := by
  simp only [builtinZero?] at plain
  repeat' split at plain
  all_goals cases plain
  all_goals rfl

/-- A zero value is written with the written form of its type, if with any. -/
theorem symbol_of_zeroValue
    {type : NamedType}
    {zero : ZeroValue}
    (given : scope.zeroValue type = .ok zero)
    {symbol : Symbol}
    (written : zero.symbol? = some symbol) :
    scope.symbol type.importPath type.name = .ok symbol := by
  simp only [zeroValue] at given
  split at given
  · cases given
    cases written
  · split at given
    · cases given
    · rename_i known isKnown
      have sameSymbol : symbol = known := by
        split at given
        · cases given
          exact (Option.some.inj written).symm
        · cases given
          exact (Option.some.inj written).symm
        · split at given
          · injection given with given
            cases plain : builtinZero? type.name with
            | none =>
                rw [plain, Option.getD_none] at given
                subst given
                exact (Option.some.inj written).symm
            | some constant =>
                rw [plain, Option.getD_some] at given
                rw [← given, symbol?_of_builtinZero? plain] at written
                cases written
          · cases given
            exact (Option.some.inj written).symm
        · cases given
          exact (Option.some.inj written).symm
      rw [sameSymbol]
      exact isKnown

/-- A zero value is written with the type it was asked for, if with any. -/
theorem reference_of_zeroValue
    {type : NamedType}
    {zero : ZeroValue}
    (given : scope.zeroValue type = .ok zero)
    {symbol : Symbol}
    (written : zero.symbol? = some symbol) :
    symbol.reference = type.reference :=
  (reference_of_symbol (symbol_of_zeroValue given written)).1

/-- A fresh name is not set aside and names no package. -/
theorem outside_of_fresh
    {draft : Draft}
    {name : String}
    (fresh : name ∉ scope.takenNames draft) :
    name ∉ scope.locals ∧ name ∉ scope.imports.names := by
  simp only [takenNames, List.mem_append, not_or] at fresh
  exact ⟨fresh.1.2, fresh.2⟩

end Scope

namespace Draft

/-- The names of the parameters. -/
def parameterNames (draft : Draft) : List String :=
  draft.parameters.map (fun parameter => parameter.value.name)

/-- A value with this name can be read at the end of a draft. -/
def Readable
    (draft : Draft)
    (name : String) : Prop :=
  name = "nil" ∨ name ∈ draft.names

/-- A readable name stays readable when names are added. -/
theorem Readable.mono
    {draft later : Draft}
    {name : String}
    (readable : draft.Readable name)
    (grown : draft.names ⊆ later.names) :
    later.Readable name :=
  readable.imp_right (fun member => grown member)

/-- What can be read is known at first or declared by a statement. -/
theorem Readable.mem_known
    {draft : Draft}
    {name : String}
    (readable : draft.Readable name) :
    name ∈ ("nil" :: "err" :: draft.parameterNames)
      ++ draft.statements.flatMap Statement.locals := by
  rw [Statement.flatMap_locals]
  rcases readable with isNil | member
  · simp [isNil]
  · rcases List.mem_append.mp member with isParameter | isBound
    · exact List.mem_append_left _
        (List.mem_cons_of_mem _ (List.mem_cons_of_mem _ isParameter))
    · exact List.mem_append_right _ isBound

/-- Everything in a draft keeps to the scoping rules, and no value is remembered without a name. -/
structure KeepsScope
    (scope : Scope)
    (root : Tree)
    (draft : Draft) : Prop where
  wellNamed : draft.WellNamed
  outside :
    ∀ name ∈ draft.names,
      name ∉ scope.locals ∧ name ∉ scope.imports.names
  received :
    ∀ parameter ∈ draft.parameters,
      parameter.type.symbol.reference ∈ Scope.mentioned scope.goal root
  written :
    ∀ statement ∈ draft.statements, ∀ symbol ∈ statement.symbols,
      symbol.reference ∈ Scope.mentioned scope.goal root
  readsBound : ReadsBound ("nil" :: "err" :: draft.parameterNames) draft.statements
  built :
    ∀ identity value,
      draft.built.get? identity = some value →
      draft.Readable value.name

/-- Nothing is laid out at first. -/
theorem empty_keepsScope
    (scope : Scope)
    (root : Tree) :
    empty.KeepsScope scope root where
  wellNamed := empty_wellNamed
  outside := by simp [names, empty]
  received := by simp [empty]
  written := by simp [empty]
  readsBound := trivial
  built := by simp [empty]

namespace KeepsScope

variable {scope : Scope} {root tree : Tree} {draft : Draft}

/-- A value that is supplied for the first time is received under a new name. -/
theorem receive
    (keeps : draft.KeepsScope scope root)
    (exposed : root.Exposed tree)
    (supplied : tree.isSupplied = true)
    {value : Value}
    {later : Draft}
    (laid : scope.layParameter tree.type tree.hoist draft = .ok (value, later)) :
    later.KeepsScope scope root ∧
      draft.names ⊆ later.names ∧
      later.Readable value.name := by
  obtain ⟨fresh, type, expression, expressionWritten, rfl⟩ := Scope.layParameter_ok laid
  obtain ⟨unreserved, unbound⟩ := Scope.not_mem_of_fresh fresh
  let parameter : Blueprint.Parameter :=
    { value, hoisted := tree.hoist, type := expression }
  have grown : draft.names ⊆ (draft.addParameter parameter).names :=
    fun name member => mem_names_addParameter.mpr (.inl member)
  refine ⟨?_, grown, .inr (mem_names_addParameter.mpr (.inr rfl))⟩
  exact {
    wellNamed := keeps.wellNamed.addParameter unreserved unbound
    outside := by
      intro name member
      rcases mem_names_addParameter.mp member with known | isNew
      · exact keeps.outside name known
      · rw [isNew]
        exact Scope.outside_of_fresh fresh
    received := by
      intro other member
      rcases List.mem_append.mp member with known | isNew
      · exact keeps.received other known
      · rw [List.mem_singleton.mp isNew, Scope.reference_of_typeExpr expressionWritten]
        exact Scope.mem_mentioned_of_exposed scope.goal exposed
          (by simp [Tree.mentions, supplied])
    written := keeps.written
    readsBound := by
      have sameNames :
          (draft.addParameter parameter).parameterNames =
            draft.parameterNames ++ [value.name] := by
        simp [parameterNames, Draft.addParameter, parameter]
      rw [sameNames]
      exact keeps.readsBound.mono
        (List.subset_append_left ("nil" :: "err" :: draft.parameterNames) [value.name])
    built := fun identity known found =>
      (keeps.built identity known found).mono grown }

/-- A constructed value is remembered under a name that can be read. -/
theorem remember
    (keeps : draft.KeepsScope scope root)
    {value : Value}
    (readable : draft.Readable value.name)
    (identity : String) :
    (draft.remember identity value).KeepsScope scope root where
  wellNamed := ⟨keeps.wellNamed.distinct, keeps.wellNamed.unreserved⟩
  outside := keeps.outside
  received := keeps.received
  written := keeps.written
  readsBound := keeps.readsBound
  built := by
    intro other known found
    rw [Draft.remember, Keyed.get?_insert] at found
    by_cases same : identity = other
    · rw [if_pos same] at found
      cases found
      exact readable
    · rw [if_neg same] at found
      exact keeps.built other known found

/-- A construction declares a new name and reads its inputs. -/
theorem addStatements
    (keeps : draft.KeepsScope scope root)
    (exposed : root.Exposed tree)
    (constructed : tree.isSupplied = false)
    {recipe : Recipe}
    (isRecipe : tree.origin = .recipe recipe)
    {inputs : List Value}
    (readable : ∀ input ∈ inputs, draft.Readable input.name)
    {zeros : List ZeroValue}
    (zerosMentioned :
      ∀ symbol ∈ zeros.filterMap ZeroValue.symbol?,
        symbol.reference ∈ Scope.mentioned scope.goal root)
    {value : Value}
    {statement : Statement}
    {checks : List Statement}
    (emits : scope.Emits draft tree.type recipe inputs value statement checks)
    (guards : ∀ check ∈ checks, check = .guard zeros) :
    (draft.addStatements (statement :: checks)).KeepsScope scope root ∧
      draft.names ⊆ (draft.addStatements (statement :: checks)).names ∧
      (draft.addStatements (statement :: checks)).Readable value.name := by
  obtain ⟨unreserved, unbound⟩ := Scope.not_mem_of_fresh emits.fresh
  have sameNames :
      (draft.addStatements (statement :: checks)).names = draft.names ++ [value.name] :=
    names_addStatements emits.bound emits.checks
  have grown : draft.names ⊆ (draft.addStatements (statement :: checks)).names :=
    sameNames ▸ List.subset_append_left _ _
  have declared : value.name ∈ (draft.addStatements (statement :: checks)).names := by
    simp [sameNames]
  refine ⟨?_, grown, .inr declared⟩
  exact {
    wellNamed :=
      keeps.wellNamed.addStatements emits.bound emits.checks unreserved unbound
    outside := by
      intro name member
      rw [sameNames] at member
      rcases List.mem_append.mp member with known | isNew
      · exact keeps.outside name known
      · rw [List.mem_singleton.mp isNew]
        exact Scope.outside_of_fresh emits.fresh
    received := keeps.received
    written := by
      intro other member symbol isWritten
      rcases List.mem_append.mp member with known | isNew
      · exact keeps.written other known symbol isWritten
      · rcases List.mem_cons.mp isNew with isStatement | isCheck
        · obtain ⟨callee, isCallee, mentioned, _⟩ := emits.written
          rw [isStatement, Statement.symbols_of_symbol? isCallee,
            List.mem_singleton] at isWritten
          rw [isWritten]
          exact Scope.mem_mentioned_of_exposed scope.goal exposed
            (by simpa [Tree.mentions, constructed, isRecipe] using mentioned)
        · rw [guards other isCheck] at isWritten
          exact zerosMentioned symbol isWritten
    readsBound := by
      refine readsBound_append.mpr ⟨keeps.readsBound, readsBound_of_forall ?_⟩
      intro other member name read
      rcases List.mem_cons.mp member with isStatement | isCheck
      · rw [isStatement, Statement.reads_of_boundName? emits.bound, emits.operands] at read
        obtain ⟨input, listed, rfl⟩ := List.mem_map.mp read
        exact (readable input listed).mem_known
      · rw [guards other isCheck, Statement.reads, List.mem_singleton] at read
        simp [read]
    built := fun identity known found =>
      (keeps.built identity known found).mono grown }

/-- A constructed node that is met for the first time keeps to the rules. -/
theorem build
    (keeps : draft.KeepsScope scope root)
    (coherent : root.Coherent)
    (exposed : root.Exposed tree)
    (constructed : tree.isSupplied = false)
    {recipe : Recipe}
    (isRecipe : tree.origin = .recipe recipe)
    {inputs : List Value}
    (readable :
      List.Forall₂ (fun _ input => draft.Readable input.name) tree.children inputs)
    {zeros : List ZeroValue}
    (zerosMentioned :
      ∀ symbol ∈ zeros.filterMap ZeroValue.symbol?,
        symbol.reference ∈ Scope.mentioned scope.goal root)
    {value : Value}
    {later : Draft}
    (laid : scope.layRecipe zeros tree.type recipe inputs draft = .ok (value, later)) :
    (later.remember tree.identity value).KeepsScope scope root ∧
      draft.names ⊆ later.names ∧
      later.Readable value.name := by
  have eachReadable : ∀ input ∈ inputs, draft.Readable input.name := by
    intro input member
    obtain ⟨child, listed, holds⟩ := readable.exists_of_mem_right member
    exact holds
  have arity : inputs.length = recipe.needs.length := by
    obtain ⟨known, isKnown, sameLength⟩ := coherent.recipe exposed constructed
    rw [isRecipe, Origin.recipe.injEq] at isKnown
    rw [isKnown, sameLength, readable.length_eq]
  have kept :
      later.KeepsScope scope root ∧
        draft.names ⊆ later.names ∧
        later.Readable value.name := by
    rcases Scope.layRecipe_ok_cases arity laid with
      ⟨statement, checks, rfl, carries, emits⟩ |
      ⟨rfl, ⟨inner, rfl, sameName, forwards⟩ | ⟨rfl, isNil, makesNil⟩⟩
    · have guards : ∀ check ∈ checks, check = .guard zeros := by
        rcases carries.checks (Scope.ne_of_fresh emits.fresh (by decide)) with
          rfl | ⟨rfl, unfailing⟩ <;> simp
      exact keeps.addStatements exposed constructed isRecipe eachReadable zerosMentioned
        emits guards
    · refine ⟨keeps, List.Subset.refl _, ?_⟩
      rw [sameName]
      exact eachReadable inner (by simp)
    · exact ⟨keeps, List.Subset.refl _, .inl isNil⟩
  exact ⟨kept.1.remember kept.2.2 tree.identity, kept.2⟩

end KeepsScope

end Draft

namespace Scope

section Runs

variable {scope : Scope} {zeros : List ZeroValue} {root : Tree}

/-- Laying out the children of a root keeps to the rules and gives their values readable names. -/
theorem layChildren_keepsScope
    (coherent : root.Coherent)
    (zerosMentioned :
      ∀ symbol ∈ zeros.filterMap ZeroValue.symbol?,
        symbol.reference ∈ mentioned scope.goal root)
    {draft : Draft}
    {values : List Value}
    (laid : scope.layEach zeros [] root.children Draft.empty = .ok (values, draft)) :
    draft.KeepsScope scope root ∧
      List.Forall₂ (fun _ value => draft.Readable value.name) root.children values := by
  refine
    layChildren_induct (Draft.KeepsScope scope root)
      (fun draft later => draft.names ⊆ later.names)
      (fun _ value draft => draft.Readable value.name)
      (fun _ => List.Subset.refl _) List.Subset.trans
      Draft.Readable.mono
      ?received ?receive ?built ?build (Draft.empty_keepsScope scope root) laid
  case received =>
    intro tree draft parameter exposed supplied keeps found
    exact .inr (Draft.name_mem_of_parameter (List.mem_of_find?_eq_some found))
  case receive =>
    intro tree draft value later exposed supplied keeps absent laid
    exact keeps.receive exposed supplied laid
  case built =>
    intro tree draft value exposed constructed keeps found
    exact keeps.built tree.identity value found
  case build =>
    intro tree recipe inputs draft value later exposed constructed isRecipe keeps readable laid
    exact keeps.build coherent exposed constructed isRecipe readable zerosMentioned laid

/-- What a list of trees leaves unread are names of its values, if each tree leaves its own. -/
theorem unread_layEach
    {constructing : List String}
    {trees : List Tree}
    (each :
      ∀ tree ∈ trees, ∀ {draft value later},
        scope.layTree zeros constructing tree draft = .ok (value, later) →
        ∀ name ∈ unread later.statements,
          name = value.name ∨ name ∈ unread draft.statements)
    {draft later : Draft}
    {values : List Value}
    (laid : scope.layEach zeros constructing trees draft = .ok (values, later)) :
    ∀ name ∈ unread later.statements,
      name ∈ values.map Value.name ∨ name ∈ unread draft.statements := by
  induction trees generalizing draft values with
  | nil =>
      cases laid
      exact fun name left => .inr left
  | cons tree rest inductionHypothesis =>
      obtain ⟨value, middle, others, first, remaining, rfl⟩ := layEach_cons_ok laid
      intro name left
      have fromRest :=
        inductionHypothesis
          (fun other member => each other (List.mem_cons_of_mem tree member))
          remaining name left
      rcases fromRest with isOther | leftBefore
      · exact .inl (List.mem_cons_of_mem value.name isOther)
      · rcases each tree (by simp) first name leftBefore with isFirst | leftAtFirst
        · exact .inl (by simp [isFirst])
        · exact .inr leftAtFirst

/-- Carrying out a recipe reads its inputs, so that only the new value is left unread. -/
theorem unread_layRecipe
    {type : NamedType}
    {recipe : Recipe}
    {inputs : List Value}
    (arity : inputs.length = recipe.needs.length)
    {draft later : Draft}
    {value : Value}
    (laid : scope.layRecipe zeros type recipe inputs draft = .ok (value, later)) :
    ∀ name ∈ unread later.statements,
      name = value.name ∨
        name ∈ unread draft.statements ∧ name ∉ inputs.map Value.name := by
  intro name left
  rcases layRecipe_ok_cases arity laid with
    ⟨statement, checks, rfl, carries, emits⟩ |
    ⟨rfl, ⟨inner, rfl, sameName, forwards⟩ | ⟨rfl, isNil, makesNil⟩⟩
  · have checked := carries.checks (ne_of_fresh emits.fresh (by decide))
    rcases mem_unread_append.mp left with ⟨leftBefore, notRead⟩ | leftNow
    · refine .inr ⟨leftBefore, ?_⟩
      intro isInput
      apply notRead
      rw [← emits.operands, ← Statement.reads_of_boundName? emits.bound] at isInput
      exact List.mem_flatMap.mpr ⟨statement, by simp, isInput⟩
    · exact .inl (emits.eq_of_mem_unread checked leftNow)
  · by_cases isInner : name = inner.name
    · exact .inl (isInner.trans sameName.symm)
    · exact .inr ⟨left, by simpa using isInner⟩
  · exact .inr ⟨left, by simp⟩

/-- Of the names that a tree adds only that of its value is left unread. -/
theorem unread_layTree
    (coherent : root.Coherent)
    (tree : Tree)
    (exposed : root.Exposed tree)
    {constructing : List String}
    {draft later : Draft}
    {value : Value}
    (laid : scope.layTree zeros constructing tree draft = .ok (value, later)) :
    ∀ name ∈ unread later.statements,
      name = value.name ∨ name ∈ unread draft.statements := by
  induction tree generalizing constructing draft later value with
  | node type origin hoist children inductionHypothesis =>
      rcases layTree_ok_cases laid with
        ⟨supplied, parameter, found, rfl, rfl⟩ |
        ⟨supplied, absent, received⟩ |
        ⟨constructed, found, rfl⟩ |
        ⟨constructed, absent, recipe, inputs, middle, last,
          isRecipe, below, carried, rfl⟩
      · exact fun name left => .inr left
      · obtain ⟨fresh, sameType, expression, written, rfl⟩ := layParameter_ok received
        exact fun name left => .inr left
      · exact fun name left => .inr left
      · obtain ⟨known, isKnown, sameLength⟩ := coherent.recipe exposed constructed
        rw [isRecipe, Origin.recipe.injEq] at isKnown
        have arity : inputs.length = recipe.needs.length := by
          rw [isKnown, sameLength, length_layEach below]
        intro name left
        -- What the children leave unread are their values, and the recipe reads all of these.
        rcases unread_layRecipe arity carried name left with isValue | ⟨leftBelow, notInput⟩
        · exact .inl isValue
        · have fromBelow :=
            unread_layEach
              (fun child member _ _ _ laidChild =>
                inductionHypothesis child member
                  (exposed.child constructed member) laidChild)
              below name leftBelow
          exact .inr (fromBelow.resolve_left notInput)

end Runs

end Scope

namespace Blueprint

variable {goal : Goal} {imports : ImportTable} {root : Tree} {draft : Draft}

/-- Putting a function together keeps the declared names, in another order. -/
theorem names_assembled_perm
    (scope : Scope)
    (results : List Value)
    (types : List TypeExpr)
    (draft : Draft) :
    (assembled scope results types draft).names.Perm draft.names := by
  unfold names Draft.names
  refine List.Perm.append ?_ (List.Perm.of_eq (Statement.flatMap_locals draft.statements))
  exact (List.mergeSort_perm draft.parameters Parameter.precedes).map _

/-- Apart from the added error result, a function writes mentioned symbols only. -/
theorem mem_symbols_assembled
    (keeps : draft.KeepsScope (Scope.ofTree goal imports root) root)
    {results : List Value}
    {types : List TypeExpr}
    (typesWritten : (Scope.ofTree goal imports root).resultTypes results = .ok types)
    {symbol : Symbol}
    (member :
      symbol ∈ (assembled (Scope.ofTree goal imports root) results types draft).symbols) :
    symbol = TypeExpr.error.symbol ∨ symbol.reference ∈ Scope.mentioned goal root := by
  rcases List.mem_append.mp member with inSignature | inBody
  · rcases List.mem_append.mp inSignature with ofParameter | ofResult
    · obtain ⟨parameter, listed, rfl⟩ := List.mem_map.mp ofParameter
      exact .inr (keeps.received parameter ((List.mergeSort_perm _ _).mem_iff.mp listed))
    · obtain ⟨type, listed, rfl⟩ := List.mem_map.mp ofResult
      rcases List.mem_append.mp listed with isWanted | isAdded
      · obtain ⟨⟨result, value⟩, paired, written⟩ :=
          List.exists_of_mem_mapM_ok typesWritten isWanted
        rw [Scope.reference_of_typeExpr written]
        exact .inr (Scope.mem_mentioned_of_result root (List.of_mem_zip paired).1)
      · split at isAdded
        · rw [List.mem_singleton.mp isAdded]
          exact .inl rfl
        · simp at isAdded
  · obtain ⟨statement, listed, isWritten⟩ := List.mem_flatMap.mp inBody
    exact .inr (keeps.written statement listed symbol isWritten)

/-- A function returns its results, and `nil` in an error slot that it adds. -/
theorem mem_returnedNames_assembled
    (scope : Scope)
    {results : List Value}
    (arity : results.length = scope.goal.results.length)
    (types : List TypeExpr)
    {name : String} :
    (name ∈ results.map Value.name →
        name ∈ (assembled scope results types draft).returnedNames) ∧
      (name ∈ (assembled scope results types draft).returnedNames →
        name ∈ results.map Value.name ∨ name = "nil") := by
  unfold returnedNames assembled
  rw [List.map_append, map_name_returnedOperands arity, List.mem_append]
  refine ⟨.inl, ?_⟩
  rintro (isResult | isAdded)
  · exact .inl isResult
  · split at isAdded
    · exact .inr (by simpa using isAdded)
    · simp at isAdded

/-- A function that is laid out over a coherent tree is well scoped. -/
theorem wellScoped_of_layOut
    (packaged : goal.importPath ≠ "")
    (coherent : root.Coherent)
    (arity : root.children.length = goal.results.length)
    {blueprint : Blueprint}
    (laid : layOut goal imports root = .ok blueprint) :
    blueprint.WellScoped imports := by
  obtain ⟨zeros, results, draft, types, zerosWritten, laidEach, typesWritten, rfl⟩ :=
    layOut_eq_ok_iff.mp laid
  have zerosMentioned :
      ∀ symbol ∈ zeros.filterMap ZeroValue.symbol?,
        symbol.reference ∈ Scope.mentioned goal root := by
    intro symbol member
    obtain ⟨zero, isZero, written⟩ := List.mem_filterMap.mp member
    obtain ⟨result, isResult, given⟩ := List.exists_of_mem_mapM_ok zerosWritten isZero
    rw [Scope.reference_of_zeroValue given written]
    exact Scope.mem_mentioned_of_result root (List.mem_filter.mp isResult).1
  obtain ⟨keeps, readable⟩ :=
    Scope.layChildren_keepsScope coherent zerosMentioned laidEach
  have sameNames :=
    names_assembled_perm (Scope.ofTree goal imports root) results types draft
  have resultArity : results.length = goal.results.length :=
    (Scope.length_layEach laidEach).trans arity
  have outside :
      ∀ name ∈ (assembled (Scope.ofTree goal imports root) results types draft).names,
        name ∉ (Scope.ofTree goal imports root).locals ∧
          name ∉ (Scope.ofTree goal imports root).imports.names :=
    fun name member => keeps.outside name (sameNames.mem_iff.mp member)
  exact {
    distinct := sameNames.nodup_iff.mpr keeps.wellNamed.distinct
    unreserved := by
      intro name member
      have allowed := keeps.wellNamed.unreserved name (sameNames.mem_iff.mp member)
      rw [← List.contains_iff_mem, ← Identifier.isReserved,
        Identifier.isReserved_iff] at allowed
      simp only [not_or, Bool.not_eq_true] at allowed
      exact ⟨allowed.2.2.1, allowed.2.2.2, allowed.1, allowed.2.1⟩
    hidesNoImport := by
      intro name member
      refine ⟨?_, ?_⟩
      · intro known
        exact (outside name member).2 (Scope.names_subset_ofTree goal imports root known)
      · rintro entry listed rfl
        exact (outside entry.name member).2 (ImportTable.name_mem_of_listed listed)
    hidesNoSymbol := by
      intro name member
      refine ⟨?_, ?_⟩
      · intro isGoal
        rw [isGoal] at member
        exact (outside _ member).1 (Scope.goal_name_mem_locals goal imports root)
      · rintro symbol isWritten own rfl
        rcases mem_symbols_assembled keeps typesWritten isWritten with isError | mentioned
        · rw [isError] at own
          exact packaged own.symm
        · exact (outside symbol.name member).1
            (Scope.name_mem_locals packaged imports mentioned own)
    readsBound := by
      have sameParameters :=
        (List.mergeSort_perm draft.parameters Parameter.precedes).symm.map
          (fun parameter => parameter.value.name)
      exact keeps.readsBound.mono
        (List.cons_subset_cons "nil" (List.cons_subset_cons "err" sameParameters.subset))
    returnsBound := by
      intro name returned
      rcases (mem_returnedNames_assembled _ resultArity types).2 returned with
        isResult | isNil
      · obtain ⟨value, listed, rfl⟩ := List.mem_map.mp isResult
        obtain ⟨child, isChild, valueReadable⟩ := readable.exists_of_mem_right listed
        rcases valueReadable with isNil | declared
        · exact .inl isNil
        · exact .inr (.inr (sameNames.mem_iff.mpr declared))
      · exact .inl isNil
    used := by
      intro name left
      apply (mem_returnedNames_assembled _ resultArity types).1
      have fromTrees :=
        Scope.unread_layEach
          (fun child member _ _ _ laidChild =>
            Scope.unread_layTree coherent child ⟨child, member, .self child⟩ laidChild)
          laidEach name left
      exact fromTrees.resolve_right (by simp [Draft.empty, unread]) }

end Blueprint

namespace Resolution

/--
The function for a resolved tree exists and is well scoped, whether or not the
tree is hoisted.

Its names are new: different from each other, not reserved, not the name of a
package that the enclosing file or the function imports, and not the name of the
function or of a symbol of its own package that it writes. It reads what it has
declared, and everything that it declares is read or returned.
-/
theorem ofTree_wellScoped
    {setting : Setting}
    (noGoals : setting.lookup.FindsNoGoal)
    (earlier : List (Nat × Goal))
    {limit : Nat}
    {goal : Goal}
    {root : Tree}
    (resolved :
      (resolveWithin limit setting goal (Memory.after setting earlier)).1 = .ok root)
    (packaged : goal.importPath ≠ "")
    {tree : Tree}
    (prepared : tree = root ∨ tree = root.hoisted)
    (imports : ImportTable) :
    ∃ blueprint,
      Blueprint.ofTree tree imports = .ok blueprint ∧
        blueprint.goal = goal ∧
        blueprint.WellScoped imports := by
  obtain ⟨coherent, arity, isLayOut⟩ := coherent_of_resolveWithin resolved prepared
  have exists_laid :
      ∃ blueprint, Blueprint.ofTree tree imports = .ok blueprint := by
    obtain ⟨children, rfl, resolves⟩ := resolveWithin_resolves resolved
    obtain ⟨plain, hoisted⟩ :=
      exists_ofTree
        ((Memory.after_holdsNoGoal noGoals earlier).resolveWithin noGoals limit goal)
        resolves imports
    rcases prepared with rfl | rfl
    · exact plain
    · exact hoisted
  obtain ⟨blueprint, laid⟩ := exists_laid
  have laidOut : Blueprint.layOut goal imports tree = .ok blueprint :=
    (isLayOut imports).symm.trans laid
  refine ⟨blueprint, laid, ?_, Blueprint.wellScoped_of_layOut packaged coherent arity laidOut⟩
  obtain ⟨zeros, results, draft, types, _, _, _, rfl⟩ :=
    Blueprint.layOut_eq_ok_iff.mp laidOut
  rfl

/-- The functions for the store are well scoped in a file that knows a package as `store`. -/
theorem ofTree_wellScoped_storage :
    Storage.setting.lookup.FindsNoGoal ∧
      Storage.job.goal.importPath ≠ "" ∧
      ∃ root plain hoisted,
        (resolveWithin 3 Storage.setting Storage.job.goal
          (Memory.after Storage.setting [])).1 = .ok root ∧
        Blueprint.ofTree root (ImportTable.ofImports [{ path := "q", name := "store" }]) =
          .ok plain ∧
        plain.WellScoped (ImportTable.ofImports [{ path := "q", name := "store" }]) ∧
        Blueprint.ofTree root.hoisted ImportTable.empty = .ok hoisted ∧
        hoisted.WellScoped ImportTable.empty := by
  have noGoals : Storage.setting.lookup.FindsNoGoal :=
    PackageSearch.lookup_findsNoGoal Storage.search
  have packaged : Storage.job.goal.importPath ≠ "" := by decide
  obtain ⟨root, resolved⟩ :
      ∃ root,
        (resolveWithin 3 Storage.setting Storage.job.goal
          (Memory.after Storage.setting [])).1 = .ok root :=
    ⟨_, rfl⟩
  obtain ⟨plain, laid, _, plainScoped⟩ :=
    ofTree_wellScoped noGoals [] resolved packaged (.inl rfl)
      (ImportTable.ofImports [{ path := "q", name := "store" }])
  obtain ⟨hoisted, hoistedLaid, _, hoistedScoped⟩ :=
    ofTree_wellScoped noGoals [] resolved packaged (.inr rfl) ImportTable.empty
  exact ⟨noGoals, packaged, root, plain, hoisted, resolved, laid, plainScoped,
    hoistedLaid, hoistedScoped⟩

end Resolution

end Wiring
