import Wiring.Identifier.Spelling
import Wiring.Unicode.CaseMapping

namespace Wiring.Identifier

/-!
# Camel case

Names of values are the names of their types with the leading capitals lowered.
A run of capitals is one initialism: it is lowered as a unit, except that its last
capital stays when a small letter follows, because it starts the next word.
-/

/-- How many of the leading capitals are lowered, given how many there are and what follows. -/
def loweredCapitals
    (capitals : Nat)
    (rest : List Char) :
    Nat :=
  match rest with
  | [] =>
      capitals
  | next :: _ =>
      if 1 < capitals ∧ Unicode.isLowercase next = true then
        capitals - 1
      else
        capitals

/-- The lower-camel form of the characters of an identifier. -/
def lowerCamelChars (text : List Char) : List Char :=
  let lowered :=
    loweredCapitals
      (text.takeWhile Unicode.isUppercase).length
      (text.dropWhile Unicode.isUppercase)
  (text.take lowered).flatMap Unicode.toLowercase ++ text.drop lowered

/-- The lower-camel form of a text, after removing what no identifier may hold. -/
def lowerCamel (text : String) : String :=
  String.ofList (lowerCamelChars (sanitizeChars text.toList))

/-- A text with its first character in capital form. -/
def upperFirst (text : String) : String :=
  match text.toList with
  | [] =>
      ""
  | first :: rest =>
      String.ofList (Unicode.toUppercase first ++ rest)

/-- Whether the first character of a text is a decimal digit. -/
def startsWithDigit (text : String) : Bool :=
  match text.toList with
  | [] => false
  | first :: _ => first.isDigit

end Wiring.Identifier
