import Wiring.NamedType

namespace Wiring

/-!
# Values and operands

Generated code passes values by name. Where the type of a value and the type that
is wanted differ in pointer level, the operand takes the address of the value or
follows it.
-/

/-- What is done to a value where it is used. -/
inductive Adjustment where
  | unchanged
  | address
  | dereference
  deriving Repr, DecidableEq

/-- A named value of a known type: a parameter, a local binding, or `nil`. -/
structure Value where
  name : String
  type : NamedType
  deriving Repr, DecidableEq

/-- A use of a value. -/
structure Operand where
  adjustment : Adjustment
  name : String
  deriving Repr, DecidableEq

namespace Adjustment

/-- The operator that is written in front of the name. -/
def operator : Adjustment → String
  | .unchanged => ""
  | .address => "&"
  | .dereference => "*"

/--
How a value of the held type is passed where another type is wanted.

A pointer is made of a value and a value of a pointer. An interface takes
pointers as they are, and the address of a plain value.
-/
def between
    (held wanted : NamedType) :
    Adjustment :=
  if held.sameType wanted && held.pointer == wanted.pointer then
    .unchanged
  else if wanted.pointer && !held.pointer then
    .address
  else if !wanted.pointer && held.pointer && !wanted.kind.isInterface then
    .dereference
  else if wanted.kind.isInterface && !held.kind.isInterface && !held.pointer then
    .address
  else
    .unchanged

end Adjustment

namespace Operand

/-- The written form of an operand. -/
def text (operand : Operand) : String :=
  operand.adjustment.operator ++ operand.name

end Operand

namespace Value

/-- The value of the error slot when nothing has failed. -/
def nilError : Value where
  name := "nil"
  type := NamedType.error

/-- The identity of the type of a value. -/
def identity (held : Value) : String :=
  held.type.identity

/-- The operand that passes a value where a type is wanted. -/
def passedAs
    (held : Value)
    (wanted : NamedType) :
    Operand where
  adjustment := Adjustment.between held.type wanted
  name := held.name

end Value

end Wiring
