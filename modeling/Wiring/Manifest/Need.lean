import Wiring.Json
import Wiring.Need

namespace Wiring

/-!
# Types and needs in manifests

Types, fields and records are written as objects with every member, and read from
objects or from arrays in member order. Kinds and needs are choices, written by
their tags. Reading does not check what is read: a name may start with a star, and
a record keeps the kind that its type is given.
-/

namespace Kind

/-- The tag of a kind. -/
def tag : Kind → String
  | .unknown => "Unknown"
  | .builtin => "Builtin"
  | .struct => "Struct"
  | .interface => "Interface"
  | .func => "Func"
  | .map => "Map"
  | .slice => "Slice"
  | .array => "Array"
  | .chan => "Chan"

/-- All kinds. -/
def all : List Kind :=
  [.unknown, .builtin, .struct, .interface, .func, .map, .slice, .array, .chan]

/-- The kind with a tag. -/
def ofTag? (text : String) : Option Kind :=
  all.find? (fun kind => kind.tag == text)

/-- Write a kind. -/
def toJson (kind : Kind) : Json :=
  .string kind.tag

/-- Read a kind. -/
def ofJson? (json : Json) : Option Kind :=
  match json.asTagged? with
  | some (.plain tag) => ofTag? tag
  | _ => none

end Kind

namespace NamedType

/-- The members of a type in order. -/
def memberNames : List String :=
  ["import", "name", "pointer", "kind"]

/-- Write a type. -/
def toJson (type : NamedType) : Json :=
  .object [
    ("import", .string type.importPath),
    ("name", .string type.name),
    ("pointer", .bool type.pointer),
    ("kind", type.kind.toJson)]

/-- Read a type; the kind may be left out. -/
def ofJson? (json : Json) : Option NamedType :=
  match json.slots? memberNames with
  | some [importPath, name, pointer, kind] => do
      let importPath ← Json.required Json.asString? importPath
      let name ← Json.required Json.asString? name
      let pointer ← Json.required Json.asBool? pointer
      let kind ← Json.defaulting .unknown Kind.ofJson? kind
      return { importPath, name, pointer, kind }
  | _ =>
      none

end NamedType

namespace Field

/-- The members of a field in order. -/
def memberNames : List String :=
  ["name", "ty"]

/-- Write a field. -/
def toJson (field : Field) : Json :=
  .object [
    ("name", .string field.name),
    ("ty", field.type.toJson)]

/-- Read a field. -/
def ofJson? (json : Json) : Option Field :=
  match json.slots? memberNames with
  | some [name, type] => do
      let name ← Json.required Json.asString? name
      let type ← Json.required NamedType.ofJson? type
      return { name, type }
  | _ =>
      none

end Field

namespace Record

/-- The members of a record in order. -/
def memberNames : List String :=
  ["ty", "fields"]

/-- Write a record. -/
def toJson (record : Record) : Json :=
  .object [
    ("ty", record.type.toJson),
    ("fields", Json.ofList Field.toJson record.fields)]

/-- Read a record. -/
def ofJson? (json : Json) : Option Record :=
  match json.slots? memberNames with
  | some [type, fields] => do
      let type ← Json.required NamedType.ofJson? type
      let fields ← Json.required (Json.asListOf? Field.ofJson?) fields
      return { type, fields }
  | _ =>
      none

end Record

namespace Need

/-- Write a need. -/
def toJson : Need → Json
  | .named type => .object [("Type", type.toJson)]
  | .record listed => .object [("Struct", listed.toJson)]
  | .error => .string "Error"

/-- Read a need. -/
def ofJson? (json : Json) : Option Need :=
  match json.asTagged? with
  | some (.content tag value) =>
      if tag = "Type" then
        (NamedType.ofJson? value).map .named
      else if tag = "Struct" then
        (Record.ofJson? value).map .record
      else
        none
  | some (.plain tag) =>
      if tag = "Error" then
        some .error
      else
        none
  | none =>
      none

end Need

end Wiring
