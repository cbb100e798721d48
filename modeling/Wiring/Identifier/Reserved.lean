namespace Wiring.Identifier

/-!
# Reserved names

Names that generated code must not bind: the keywords of Go, the identifiers its
universe block declares, the blank identifier, and `err`, which every failing
call binds.
-/

/-- The keywords of the language. -/
def keywords : List String :=
  ["break", "case", "chan", "const", "continue", "default", "defer", "else",
   "fallthrough", "for", "func", "go", "goto", "if", "import", "interface",
   "map", "package", "range", "return", "select", "struct", "switch", "type",
   "var"]

/-- Identifiers declared in the universe block. -/
def predeclared : List String :=
  ["any", "append", "bool", "byte", "cap", "clear", "close", "comparable",
   "complex", "complex128", "complex64", "copy", "delete", "error", "false",
   "float32", "float64", "imag", "int", "int16", "int32", "int64", "int8",
   "iota", "len", "make", "max", "min", "new", "nil", "panic", "print",
   "println", "real", "recover", "rune", "string", "true", "uint", "uint16",
   "uint32", "uint64", "uint8", "uintptr"]

/-- Every name that a generated binding must avoid. -/
def reserved : List String :=
  "err" :: "_" :: keywords ++ predeclared

/-- Whether a name is a keyword. -/
def isKeyword (name : String) : Bool :=
  keywords.contains name

/-- Whether a name is declared in the universe block. -/
def isPredeclared (name : String) : Bool :=
  predeclared.contains name

/-- Whether a generated binding must avoid a name. -/
def isReserved (name : String) : Bool :=
  reserved.contains name

/-- The reserved names are the two special ones, the keywords and the universe block. -/
theorem isReserved_iff
    (name : String) :
    isReserved name = true ↔
      name = "err" ∨ name = "_" ∨ isKeyword name = true ∨ isPredeclared name = true := by
  simp only [isReserved, reserved, isKeyword, isPredeclared, List.contains_iff_mem,
    List.cons_append, List.mem_cons, List.mem_append]

end Wiring.Identifier
