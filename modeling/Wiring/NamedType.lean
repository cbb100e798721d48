namespace Wiring

/-!
# Named types

A named type is a Go type given by import path and name, together with whether
a pointer to it is meant and what shape its values have. Two types share one
identity when they agree in import path and name, whatever their pointer mark and
kind.
-/

/--
The shape of a type's values.

The shape decides how a value is passed where another type is expected, and
which zero value an early return uses.
-/
inductive Kind where
  | unknown
  | builtin
  | struct
  | interface
  | func
  | map
  | slice
  | array
  | chan
  deriving Repr, DecidableEq

namespace Kind

/-- Whether values of this kind accept pointers without coercion. -/
def isInterface : Kind → Bool
  | .interface => true
  | _ => false

/-- Whether the zero value of this kind is `nil`. -/
def isNilable : Kind → Bool
  | .interface | .func | .map | .slice | .chan => true
  | _ => false

end Kind

/--
A type as it is named in signatures.

The import path is empty for the types of the universe block. The name carries
no pointer star; the pointer mark does.
-/
structure NamedType where
  importPath : String
  name : String
  pointer : Bool
  kind : Kind
  deriving Repr, DecidableEq

namespace NamedType

/-- The type that an import path and a text denote; one leading star marks a pointer. -/
def ofText
    (importPath text : String) :
    NamedType :=
  match text.toList with
  | '*' :: name =>
      { importPath, name := String.ofList name, pointer := true, kind := .unknown }
  | _ =>
      { importPath, name := text, pointer := false, kind := .unknown }

/-- The same type with another kind. -/
def withKind
    (type : NamedType)
    (kind : Kind) :
    NamedType :=
  { type with kind }

/-- A type of the universe block. -/
def builtin (text : String) : NamedType :=
  (ofText "" text).withKind .builtin

/-- The `error` interface of the universe block. -/
def error : NamedType :=
  builtin "error"

/-- The pointer to the same type. -/
def toPointer (type : NamedType) : NamedType :=
  { type with pointer := true }

/-- The text that identifies a type: its name, behind the quoted import path if there is one. -/
def identity (type : NamedType) : String :=
  if type.importPath = "" then
    type.name
  else
    "\"" ++ type.importPath ++ "\"." ++ type.name

/-- A star for pointers and nothing for values. -/
def star (type : NamedType) : String :=
  if type.pointer then "*" else ""

/-- The unqualified name with its star. -/
def typeName (type : NamedType) : String :=
  type.star ++ type.name

/-- The identity with its star. -/
def display (type : NamedType) : String :=
  type.star ++ type.identity

/-- Whether the type belongs to the universe block, by its import path or by its kind. -/
def isBuiltin (type : NamedType) : Bool :=
  type.importPath == "" || type.kind == .builtin

/-- Whether the type is the `error` interface itself. -/
def isError (type : NamedType) : Bool :=
  type.importPath == "" && type.name == "error" && !type.pointer

/-- Whether two types agree in import path and name. -/
def sameType
    (type other : NamedType) :
    Bool :=
  type.importPath == other.importPath && type.name == other.name

@[simp] theorem identity_withKind
    (type : NamedType)
    (kind : Kind) :
    (type.withKind kind).identity = type.identity :=
  rfl

@[simp] theorem identity_toPointer
    (type : NamedType) :
    type.toPointer.identity = type.identity :=
  rfl

@[simp] theorem isError_withKind
    (type : NamedType)
    (kind : Kind) :
    (type.withKind kind).isError = type.isError :=
  rfl

end NamedType

end Wiring
