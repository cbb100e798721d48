import Wiring.Unicode.CaseMapping
import Wiring.Unicode.LetterCase

namespace Wiring.Text

/-!
# Lowercase text

Texts are lowered character by character, with one exception: a capital sigma at
the end of a word becomes the final form of the letter. A word ends where a cased
letter stands before the sigma and none after it, case-ignorable characters being
passed over on both sides.
-/

/-- Whether the first character that is not case-ignorable is cased. -/
def startsCased (text : List Char) : Bool :=
  match text.dropWhile Unicode.isCaseIgnorable with
  | [] => false
  | c :: _ => Unicode.isCased c

/--
The small form of a text whose preceding characters are given last first.

Only the capital sigma looks at its neighbours.
-/
def lowercaseAfter : List Char → List Char → List Char
  | _, [] => []
  | before, c :: after =>
      let lowered :=
        if c = 'Σ' then
          if startsCased before && !startsCased after then ['ς'] else ['σ']
        else
          Unicode.toLowercase c
      lowered ++ lowercaseAfter (c :: before) after

/-- The small form of a text. -/
def lowercase (text : List Char) : List Char :=
  lowercaseAfter [] text

end Wiring.Text
