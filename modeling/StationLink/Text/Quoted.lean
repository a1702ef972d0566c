import StationLink.Text.Extending
import StationLink.Text.Unprintable

namespace StationLink.Text

/-!
# Quoted text

A text in an error message stands between double quotes. Quotes, backslashes
and the usual control characters are written with a backslash; other characters
that are unprintable or would join their neighbour are written by number.
-/

/-- The lower-case hexadecimal digits of a number. -/
def hexDigits (value : Nat) : List Char :=
  Nat.toDigits 16 value

/-- One character as it is written between quotes. -/
def quoteChar : Char → List Char
  | '\x00' => ['\\', '0']
  | '\t' => ['\\', 't']
  | '\r' => ['\\', 'r']
  | '\n' => ['\\', 'n']
  | '"' => ['\\', '"']
  | '\\' => ['\\', '\\']
  | char =>
      if isExtending char || isUnprintable char then
        ['\\', 'u', '\x7b'] ++ hexDigits char.toNat ++ ['\x7d']
      else
        [char]

/-- A text between quotes. -/
def quote (text : String) : String :=
  String.ofList ('"' :: text.toList.flatMap quoteChar ++ ['"'])

end StationLink.Text
