import Wiring.ImportPath

namespace Wiring

/-!
# Imports

An import names a package inside a file. The rendered import block lists standard
library packages before all others, with a blank line between the two groups.
-/

/-- A package path with the name that the package has inside a file. -/
structure Import where
  path : String
  name : String
  deriving Repr, DecidableEq

namespace Import

/-- Whether the imported package belongs to the standard library. -/
def isStandard (entry : Import) : Bool :=
  ImportPath.isStandard entry.path

/--
Whether the name has to be written out.

Outside the standard library it always is, because the package may declare
another name than its path suggests.
-/
def needsName (entry : Import) : Bool :=
  !entry.isStandard || entry.name != ImportPath.lastSegment entry.path

/-- One line of an import block without its indentation. -/
def line (entry : Import) : String :=
  let path := "\"" ++ entry.path ++ "\""
  if entry.needsName then
    entry.name ++ " " ++ path
  else
    path

/-- Standard library first, then by path. -/
def precedes
    (left right : Import) :
    Bool :=
  if left.isStandard = right.isStandard then
    left.path ≤ right.path
  else
    left.isStandard

/-- The lines of a group, indented. -/
def indentedLines (entries : List Import) : String :=
  String.join (entries.map fun entry => "\t" ++ entry.line ++ "\n")

/--
The import block of a list of imports, or nothing for the empty list.

A blank line stands before the first import from outside the standard library,
unless it is the first of all.
-/
def block (entries : List Import) : String :=
  if entries.isEmpty then
    ""
  else
    let standard := entries.takeWhile isStandard
    let others := entries.dropWhile isStandard
    let separator := if standard.isEmpty || others.isEmpty then "" else "\n"
    "import (\n" ++ indentedLines standard ++ separator ++ indentedLines others ++ ")\n"

end Import

end Wiring
