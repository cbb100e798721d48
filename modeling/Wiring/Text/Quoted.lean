import Wiring.Unicode.Printable

namespace Wiring.Text

/-!
# Quoted text

Names that appear inside messages are written between double quotes. Quotes and
backslashes are escaped, the usual control characters have short escapes, and a
character without a visible form of its own is written by its code point.
-/

/-- A code point written in lowercase hexadecimal between braces. -/
def codePointEscape (c : Char) : List Char :=
  ['\\', 'u', '\x7b'] ++ Nat.toDigits 16 c.toNat ++ ['\x7d']

/-- The written form of one character between double quotes. -/
def quoteChar (c : Char) : List Char :=
  match c with
  | '"' => ['\\', '"']
  | '\\' => ['\\', '\\']
  | '\n' => ['\\', 'n']
  | '\r' => ['\\', 'r']
  | '\t' => ['\\', 't']
  | '\x00' => ['\\', '0']
  | other =>
      if Unicode.isPrintable other then
        [other]
      else
        codePointEscape other

/-- A text between double quotes, with every character in its written form. -/
def quoted (text : String) : String :=
  String.ofList ('"' :: text.toList.flatMap quoteChar ++ ['"'])

end Wiring.Text
