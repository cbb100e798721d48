import Wiring.Blueprint.Scope
import Wiring.Proofs.Coherence

namespace Wiring

/-!
# Terms

A term says how a value comes about: it is received as a parameter, returned by a
call, written as a literal, or `nil`. Trees have terms by their recipes alone. The
names, pointer levels and packages' local names of a generated function play no
part in them, so functions that are written differently can be compared.
-/

/-- How a value comes about. -/
inductive Term where
  /-- The generated function receives the value of an identity. -/
  | parameter (identity : String)
  /-- A function is called, and the result at a position is used. -/
  | call (callee : Reference) (position : Nat) (arguments : List Term)
  /-- The fields of a record literal are given these values, in order. -/
  | literal (type : Reference) (fields : List String) (values : List Term)
  | nil
  /-- Nothing says how the value comes about. -/
  | unknown
  deriving Repr

namespace Term

mutual

/-- The term with every parameter replaced by the term given for its identity. -/
def replace
    (replacement : String → Term) :
    Term →
    Term
  | .parameter identity => replacement identity
  | .call callee position arguments =>
      .call callee position (replaceEach replacement arguments)
  | .literal type fields values =>
      .literal type fields (replaceEach replacement values)
  | .nil => .nil
  | .unknown => .unknown

/-- The terms of a list with their parameters replaced. -/
def replaceEach
    (replacement : String → Term) :
    List Term →
    List Term
  | [] => []
  | term :: rest => replace replacement term :: replaceEach replacement rest

end

theorem replaceEach_eq_map
    (replacement : String → Term)
    (terms : List Term) :
    replaceEach replacement terms = terms.map (replace replacement) := by
  induction terms with
  | nil =>
      rfl
  | cons term rest inductionHypothesis =>
      simp [replaceEach, inductionHypothesis]

/-- The parameter of an identity is used somewhere in a term. -/
inductive Uses (identity : String) : Term → Prop where
  | parameter : Uses identity (.parameter identity)
  | argument
      {callee : Reference}
      {position : Nat}
      {arguments : List Term}
      {argument : Term}
      (member : argument ∈ arguments)
      (uses : Uses identity argument) :
      Uses identity (.call callee position arguments)
  | value
      {type : Reference}
      {fields : List String}
      {values : List Term}
      {value : Term}
      (member : value ∈ values)
      (uses : Uses identity value) :
      Uses identity (.literal type fields values)

end Term

namespace Recipe

/-- What a recipe makes of the values that it needs. -/
def construct
    (recipe : Recipe)
    (inputs : List Term) :
    Term :=
  match recipe with
  | .call function =>
      .call { importPath := function.importPath, name := function.name }
        function.leading.length inputs
  | .literal record =>
      .literal record.type.reference (record.fields.map Field.name) inputs
  | .forward _ =>
      inputs.headD .unknown
  | .noError =>
      .nil
  | .goal _ =>
      .unknown

/-- Replacing parameters in what is made is replacing them in the inputs. -/
theorem replace_construct
    (replacement : String → Term)
    (recipe : Recipe)
    (inputs : List Term) :
    (recipe.construct inputs).replace replacement =
      recipe.construct (inputs.map (Term.replace replacement)) := by
  cases recipe with
  | call function =>
      simp only [construct, Term.replace, Term.replaceEach_eq_map]
  | literal record =>
      simp only [construct, Term.replace, Term.replaceEach_eq_map]
  | forward synonym =>
      cases inputs with
      | nil =>
          simp [construct, Term.replace]
      | cons inner rest =>
          simp [construct]
  | noError =>
      simp only [construct, Term.replace]
  | goal whole =>
      simp only [construct, Term.replace]

/-- What is made uses every parameter that its inputs use. -/
theorem construct_uses
    {recipe : Recipe}
    (notGoal : ∀ goal, recipe ≠ .goal goal)
    {inputs : List Term}
    (arity : recipe.needs.length = inputs.length)
    {input : Term}
    (member : input ∈ inputs)
    {identity : String}
    (uses : input.Uses identity) :
    (recipe.construct inputs).Uses identity := by
  cases recipe with
  | call function =>
      exact .argument member uses
  | literal record =>
      exact .value member uses
  | forward synonym =>
      obtain ⟨inner, rfl⟩ : ∃ inner, inputs = [inner] :=
        List.length_eq_one_iff.mp arity.symm
      rw [List.mem_singleton] at member
      subst member
      exact uses
  | noError =>
      have noInputs : inputs = [] := List.length_eq_zero_iff.mp arity.symm
      rw [noInputs] at member
      simp at member
  | goal whole =>
      exact absurd rfl (notGoal whole)

end Recipe

namespace Tree

mutual

/--
How the value of a node comes about, when supplied nodes are received as
parameters and all others are made by their recipes.
-/
def term : Tree → Term
  | .node type origin hoist children =>
      if (Tree.node type origin hoist children).isSupplied then
        .parameter type.identity
      else
        match origin with
        | .recipe recipe => recipe.construct (termsOfEach children)
        | _ => .unknown

/-- How the values of a list of trees come about. -/
def termsOfEach : List Tree → List Term
  | [] => []
  | tree :: rest => term tree :: termsOfEach rest

end

theorem termsOfEach_eq_map
    (trees : List Tree) :
    termsOfEach trees = trees.map term := by
  induction trees with
  | nil =>
      rfl
  | cons tree rest inductionHypothesis =>
      simp [termsOfEach, inductionHypothesis]

/-- A supplied node is received as the parameter of its identity. -/
theorem term_of_isSupplied
    {tree : Tree}
    (supplied : tree.isSupplied = true) :
    tree.term = .parameter tree.identity := by
  cases tree with
  | node type origin hoist children =>
      simp only [term, supplied, if_true, identity_node]

/-- A constructed node is made by its recipe from its children. -/
theorem term_of_recipe
    {tree : Tree}
    (constructed : tree.isSupplied = false)
    {recipe : Recipe}
    (isRecipe : tree.origin = .recipe recipe) :
    tree.term = recipe.construct (tree.children.map term) := by
  cases tree with
  | node type origin hoist children =>
      rw [origin_node] at isRecipe
      subst isRecipe
      simp only [term, constructed, Bool.false_eq_true, if_false,
        termsOfEach_eq_map, children_node]

/-- Two nodes that are constructed alike have the same term. -/
theorem Coherent.term_eq
    {root node other : Tree}
    (coherent : root.Coherent)
    (exposed : root.Exposed node)
    (otherExposed : root.Exposed other)
    (constructed : node.isSupplied = false)
    (otherConstructed : other.isSupplied = false)
    (same : node.identity = other.identity) :
    node.term = other.term := by
  obtain ⟨recipe, isRecipe, arity⟩ := coherent.recipe exposed constructed
  obtain ⟨sameOrigin, sameChildren⟩ :=
    coherent.shared exposed otherExposed constructed otherConstructed same
  rw [term_of_recipe constructed isRecipe,
    term_of_recipe otherConstructed (sameOrigin ▸ isRecipe), sameChildren]

end Tree

end Wiring
