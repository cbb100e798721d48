import Wiring.Identifier.Reserved
import Wiring.Unicode.LetterCase
import Wiring.Unicode.Numeric

namespace Wiring.Identifier

/-!
# Spelling of identifiers

Which characters an identifier may hold, which texts are identifiers, and which
identifiers are visible outside their package.
-/

/-- Whether a character may stand inside an identifier. -/
def isBodyChar (c : Char) : Bool :=
  Unicode.isAlphanumeric c || c == '_'

/-- Whether a character may start an identifier. -/
def isStartChar (c : Char) : Bool :=
  Unicode.isAlphabetic c || c == '_'

/-- The characters of a text that may stand inside an identifier, in order. -/
def sanitizeChars (text : List Char) : List Char :=
  text.filter isBodyChar

/-- A text without the characters that cannot stand inside an identifier. -/
def sanitize (text : String) : String :=
  String.ofList (sanitizeChars text.toList)

/-- Whether a text can be declared as a name: well spelled, and no keyword. -/
def isValid (text : String) : Bool :=
  match text.toList with
  | [] =>
      false
  | first :: rest =>
      isStartChar first && rest.all isBodyChar && !isKeyword text

/-- Whether a name is visible outside its package: its first character is a capital. -/
def isExported (name : String) : Bool :=
  match name.toList with
  | [] => false
  | first :: _ => Unicode.isUppercase first

end Wiring.Identifier
