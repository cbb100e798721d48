import Wiring.Job
import Wiring.Manifest.Need

namespace Wiring

/-!
# Jobs in manifests

A manifest is a job written as JSON. Only the name, the target path and the results
have to be given.
-/

namespace Import

/-- The members of an import in order. -/
def memberNames : List String :=
  ["path", "alias"]

/-- Write an import. -/
def toJson (entry : Import) : Json :=
  .object [
    ("path", .string entry.path),
    ("alias", .string entry.name)]

/-- Read an import. -/
def ofJson? (json : Json) : Option Import :=
  match json.slots? memberNames with
  | some [path, name] => do
      let path ← Json.required Json.asString? path
      let name ← Json.required Json.asString? name
      return { path, name }
  | _ =>
      none

end Import

namespace Job

namespace Param

/-- The members of a param in order. -/
def memberNames : List String :=
  ["dependency", "hoist"]

/-- Write a param. -/
def toJson (param : Param) : Json :=
  .object [
    ("dependency", param.need.toJson),
    ("hoist", .bool param.hoist)]

/-- Read a param; it is not hoisted unless it says so. -/
def ofJson? (json : Json) : Option Param :=
  match json.slots? memberNames with
  | some [need, hoist] => do
      let need ← Json.required Need.ofJson? need
      let hoist ← Json.defaulting false Json.asBool? hoist
      return { need, hoist }
  | _ =>
      none

end Param

namespace Redirect

/-- The members of a redirect in order. -/
def memberNames : List String :=
  ["from", "to"]

/-- Write a redirect. -/
def toJson (redirect : Redirect) : Json :=
  .object [
    ("from", redirect.replaced.toJson),
    ("to", redirect.replacement.toJson)]

/-- Read a redirect. -/
def ofJson? (json : Json) : Option Redirect :=
  match json.slots? memberNames with
  | some [replaced, replacement] => do
      let replaced ← Json.required Need.ofJson? replaced
      let replacement ← Json.required Need.ofJson? replacement
      return { replaced, replacement }
  | _ =>
      none

end Redirect

/-- The members of a job in order. -/
def memberNames : List String :=
  ["name", "target", "package", "params", "results", "aliases", "hoist", "imports"]

/-- Write a job. -/
def toJson (job : Job) : Json :=
  .object [
    ("name", .string job.name),
    ("target", .string job.importPath),
    ("package", Json.ofOption .string job.package),
    ("params", Json.ofList Param.toJson job.params),
    ("results", Json.ofList Need.toJson job.results),
    ("aliases", Json.ofList Redirect.toJson job.redirects),
    ("hoist", .bool job.hoist),
    ("imports", Json.ofList Import.toJson job.imports)]

/-- Read a job; only its name, target path and results have to be given. -/
def ofJson? (json : Json) : Option Job :=
  match json.slots? memberNames with
  | some [name, importPath, package, params, results, redirects, hoist, imports] => do
      let name ← Json.required Json.asString? name
      let importPath ← Json.required Json.asString? importPath
      let package ← Json.defaulting none (Json.asOption? Json.asString?) package
      let params ← Json.defaulting [] (Json.asListOf? Param.ofJson?) params
      let results ← Json.required (Json.asListOf? Need.ofJson?) results
      let redirects ← Json.defaulting [] (Json.asListOf? Redirect.ofJson?) redirects
      let hoist ← Json.defaulting false Json.asBool? hoist
      let imports ← Json.defaulting [] (Json.asListOf? Import.ofJson?) imports
      return { name, importPath, package, params, results, redirects, hoist, imports }
  | _ =>
      none

end Job

end Wiring
