import Wiring.Identifier.Casing
import Wiring.Text.Lowercase

namespace Wiring.ImportPath

/-!
# Import paths

An import path is a slash-separated text. Two facts are read off it: whether it
belongs to the standard library, and the package name it is assumed to declare.
-/

/-- The parts of a text between slashes; a text without slashes is one part. -/
def segments : List Char → List (List Char)
  | [] =>
      [[]]
  | c :: rest =>
      if c = '/' then
        [] :: segments rest
      else
        match segments rest with
        | [] => [[c]]
        | first :: others => (c :: first) :: others

/-- The part after the last slash. -/
def lastSegment (path : String) : String :=
  String.ofList ((segments path.toList).getLastD [])

/-- Whether a path belongs to the standard library: its first part has no dot. -/
def isStandard (path : String) : Bool :=
  !((segments path.toList).headD []).contains '.'

/-- Whether a part names a major version: a `v` and one or more digits. -/
def isMajorVersion : List Char → Bool
  | 'v' :: digits => !digits.isEmpty && digits.all Char.isDigit
  | _ => false

/--
The part that names the package, looking from the end of the path.

Empty parts do not count, and a major version gives way to the part before it.
-/
def namingSegment (parts : List (List Char)) : List Char :=
  match parts.reverse.filter (fun part => !part.isEmpty) with
  | [] =>
      []
  | [last] =>
      last
  | last :: previous :: _ =>
      if isMajorVersion last then previous else last

/-- A part without its version suffix: a final `.v` followed by one or more digits. -/
def dropVersion (part : List Char) : List Char :=
  match part.reverse.takeWhile Char.isDigit, part.reverse.dropWhile Char.isDigit with
  | _ :: _, 'v' :: '.' :: stem => stem.reverse
  | _, _ => part

/-- A part without a leading `go-`. -/
def dropLeadingTag : List Char → List Char
  | 'g' :: 'o' :: '-' :: rest => rest
  | part => part

/-- A part without a trailing `-go`. -/
def dropTrailingTag (part : List Char) : List Char :=
  match part.reverse with
  | 'o' :: 'g' :: '-' :: stem => stem.reverse
  | _ => part

/--
The package name that a path is assumed to declare.

The naming part loses its version, its language tags and everything that no
identifier may hold, and is lowered; `pkg` is put in front of a name that would
be empty or start with a digit.
-/
def assumedPackageName (path : String) : String :=
  let part := namingSegment (segments path.toList)
  let stem := dropTrailingTag (dropLeadingTag (dropVersion part))
  let name := String.ofList (Text.lowercase (Identifier.sanitizeChars stem))
  if name.isEmpty || Identifier.startsWithDigit name then
    "pkg" ++ name
  else
    name

end Wiring.ImportPath
