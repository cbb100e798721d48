import Wiring.NamedType

namespace Wiring

/-!
# Needs

A need asks for one value: of a named type, of a record whose fields are listed
with the need, or of the error slot at the end of a result list.
-/

/-- A named field of a record. -/
structure Field where
  name : String
  type : NamedType
  deriving Repr, DecidableEq

/-- A record type together with the fields to fill in. -/
structure Record where
  type : NamedType
  fields : List Field
  deriving Repr, DecidableEq

namespace Record

/-- A record of struct kind with the given fields. -/
def ofFields
    (type : NamedType)
    (fields : List Field) :
    Record :=
  { type := type.withKind .struct, fields }

end Record

/-- A value that is asked for. -/
inductive Need where
  | named (type : NamedType)
  | record (listed : Record)
  | error
  deriving Repr, DecidableEq

namespace Need

/-- The need for a value of a type, which for the `error` type is the error slot. -/
def ofType (type : NamedType) : Need :=
  if type.isError then
    .error
  else
    .named type

/-- The type of the value that is asked for. -/
def wanted : Need → NamedType
  | .named type => type
  | .record listed => listed.type
  | .error => NamedType.error

/-- The identity of the wanted type. -/
def identity (need : Need) : String :=
  need.wanted.identity

/-- The import path of the wanted type. -/
def importPath (need : Need) : String :=
  need.wanted.importPath

/-- The unqualified name of the wanted type with its star. -/
def typeName (need : Need) : String :=
  need.wanted.typeName

/-- The identity of the wanted type with its star. -/
def display (need : Need) : String :=
  need.wanted.display

/-- Whether the error slot is asked for; a record is not the error slot, whatever its type. -/
def isError : Need → Bool
  | .named type => type.isError
  | .record _ => false
  | .error => true

@[simp] theorem identity_error :
    Need.error.identity = "error" := by
  decide

end Need

end Wiring
