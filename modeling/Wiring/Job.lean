import Wiring.Blueprint.Draft
import Wiring.GeneratedFunction
import Wiring.Lookup.PackageSearch
import Wiring.Resolution
import Wiring.Tree.Hoisting

namespace Wiring

/-!
# Jobs

A job asks for one function: where it goes, what it returns, what it receives and
which needs are replaced by others. A valid job is resolved, hoisted if it says
so, and laid out; the first failure ends it.
-/

namespace Job

/-- A value that the generated function receives, computed once by the caller if `hoist` is set. -/
structure Param where
  need : Need
  hoist : Bool
  deriving Repr, DecidableEq

/-- Use one need wherever another is stated. -/
structure Redirect where
  replaced : Need
  replacement : Need
  deriving Repr, DecidableEq

end Job

/-- What to generate. -/
structure Job where
  name : String
  importPath : String
  package : Option String
  params : List Job.Param
  results : List Need
  redirects : List Job.Redirect
  hoist : Bool
  imports : List Import
  deriving Repr, DecidableEq

/-- What is wrong with a job before anything is resolved. -/
inductive JobProblem where
  | emptyName
  | invalidName (name : String)
  | invalidPackage (package : String)
  | emptyImportPath
  | noResults
  /-- The error slot stands before the last result. -/
  | misplacedError (position : Nat)
  | errorParam
  deriving Repr, DecidableEq

namespace JobProblem

/-- The wording of what is wrong with a job. -/
def message : JobProblem → String
  | .emptyName => "function name is empty"
  | .invalidName name => Text.quoted name ++ " is not a valid function name"
  | .invalidPackage package => Text.quoted package ++ " is not a valid package name"
  | .emptyImportPath => "target import path is empty"
  | .noResults => "no results requested"
  | .misplacedError position =>
      "error must be the last result (found at position " ++ toString position ++ ")"
  | .errorParam => "error cannot be a parameter"

end JobProblem

/-- Why a job produced no function; the identity is that of the function. -/
inductive JobError where
  | invalid (cause : JobProblem)
  | resolution (identity : String) (cause : ResolutionError)
  | blueprint (identity : String) (cause : BlueprintError)
  deriving Repr, DecidableEq

namespace JobError

/-- The wording of a failed job. -/
def message : JobError → String
  | .invalid cause => "invalid request: " ++ cause.message
  | .resolution identity cause => "unable to generate " ++ identity ++ ": " ++ cause.message
  | .blueprint identity cause => "unable to generate " ++ identity ++ ": " ++ cause.message

/-- The wordings of the errors behind a failed job, outermost first. -/
def causes : JobError → List String
  | .invalid cause => [cause.message]
  | .resolution _ cause => cause.message :: cause.causes
  | .blueprint _ cause => [cause.message]

end JobError

namespace Job

/-- The identity of the generated function. -/
def identity (job : Job) : String :=
  symbolIdentity job.importPath job.name

/-- The package clause: the one that is given, or the one assumed of the import path. -/
def packageName (job : Job) : String :=
  job.package.getD (ImportPath.assumedPackageName job.importPath)

/-- A search of packages that sees what the package of the generated function sees. -/
def search
    (job : Job)
    (packages : PackageIndex) :
    PackageSearch where
  packages
  viewpoint := some job.importPath

/-- The first thing that is wrong with a job, if any. -/
def problem? (job : Job) : Option JobProblem :=
  if job.name = "" then
    some .emptyName
  else if Identifier.isValid job.name = false then
    some (.invalidName job.name)
  else
    match job.package.filter (fun package => !Identifier.isValid package) with
    | some package =>
        some (.invalidPackage package)
    | none =>
        if job.importPath = "" then
          some .emptyImportPath
        else if job.results.all Need.isError then
          some .noResults
        else
          match job.results.dropLast.findIdx? Need.isError with
          | some position =>
              some (.misplacedError position)
          | none =>
              if job.params.any (fun param => param.need.isError) then
                some .errorParam
              else
                none

/-- Accept a job in which nothing is wrong. -/
def validate (job : Job) : Except JobProblem Unit :=
  match job.problem? with
  | some problem => .error problem
  | none => .ok ()

/-- The replacements of a job; of two for one identity the later counts. -/
def substitutions (job : Job) : Substitutions :=
  Substitutions.ofPairs
    (job.redirects.map fun redirect => (redirect.replaced, redirect.replacement))

/-- The identities that a job's caller supplies; of two params for one identity the later counts. -/
def supplied (job : Job) : Supplied :=
  Supplied.ofPairs (job.params.map fun param => (param.need, param.hoist))

/-- The function that a job asks for. -/
def goal (job : Job) : Goal where
  importPath := job.importPath
  name := job.name
  package := job.packageName
  results := job.results

/-- The tree that is laid out: hoisted if the job says so. -/
def prepare
    (job : Job)
    (tree : Tree) :
    Tree :=
  if job.hoist then tree.hoisted else tree

/-- The blueprint of a job that has been resolved into a tree. -/
def layOut
    (job : Job)
    (tree : Tree) :
    Except JobError Blueprint :=
  match Blueprint.ofTree (job.prepare tree) (ImportTable.ofImports job.imports) with
  | .error failure => .error (.blueprint job.identity failure)
  | .ok blueprint => .ok blueprint

/-- The blueprint of a job, with any lookup and a limit on the depth of its tree. -/
def blueprintWithin
    (limit : Nat)
    (job : Job)
    (lookup : Lookup) :
    Except JobError Blueprint :=
  match job.validate with
  | .error problem =>
      .error (.invalid problem)
  | .ok () =>
      match (Resolution.resolveWithin
          limit
          { lookup, substitutions := job.substitutions, supplied := job.supplied }
          job.goal
          Resolution.Memory.empty).1 with
      | .error failure =>
          .error (.resolution job.identity failure)
      | .ok tree =>
          job.layOut tree

/-- One level more than there are identities that a job can meet in a catalog. -/
def depthLimit
    (job : Job)
    (catalog : Catalog) :
    Nat :=
  Resolution.depthLimit catalog job.substitutions job.goal Resolution.Memory.empty

/-- The blueprint of a job. -/
def blueprint
    (job : Job)
    (catalog : Catalog) :
    Except JobError Blueprint :=
  job.blueprintWithin (job.depthLimit catalog) catalog.lookup

/-- Generate the function that a job asks for. -/
def generate
    (job : Job)
    (catalog : Catalog) :
    Except JobError GeneratedFunction :=
  match job.blueprint catalog with
  | .error failure => .error failure
  | .ok blueprint => .ok (GeneratedFunction.ofBlueprint blueprint)

end Job

end Wiring
