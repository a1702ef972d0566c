import StationLink.Json.Value
import StationLink.Text.Hex

namespace StationLink.Json

/-!
# Printing JSON text

`Json.render` writes a value on one line without blanks. In texts only the
quotation mark, the backslash and control characters are escaped. A value that
has no content of its own is written in the shortest form that is read as such
a value: minus zero for a number that is no plain integer, half of a surrogate
pair for a text that is not Unicode.
-/

/-- A character as it stands in a text. -/
def escape (char : Char) : List Char :=
  if char = '"' ∨ char = '\\' then
    ['\\', char]
  else if char.toNat < 0x20 then
    "\\u00".toList
      ++ [Text.lowerHexDigit (char.toNat / 16), Text.lowerHexDigit (char.toNat % 16)]
  else
    [char]

/-- A text in quotation marks, in front of other characters. -/
def printText (content : Option String) (rest : List Char) : List Char :=
  match content with
  | some content => '"' :: (content.toList.flatMap escape ++ '"' :: rest)
  | none => "\"\\ud800\"".toList ++ rest

mutual

/-- A value in front of other characters. -/
def print (value : Json) (rest : List Char) : List Char :=
  match value with
  | .null => "null".toList ++ rest
  | .boolean true => "true".toList ++ rest
  | .boolean false => "false".toList ++ rest
  | .integer value => (toString value).toList ++ rest
  | .inexact => "-0".toList ++ rest
  | .text content => printText content rest
  | .array [] => '[' :: ']' :: rest
  | .array (item :: items) => '[' :: print item (printItems items rest)
  | .object [] => '\x7b' :: '\x7d' :: rest
  | .object ((name, value) :: members) =>
      '\x7b' :: printText name (':' :: print value (printMembers members rest))

/-- Further items of an array and its end. -/
def printItems (items : List Json) (rest : List Char) : List Char :=
  match items with
  | [] => ']' :: rest
  | item :: items => ',' :: print item (printItems items rest)

/-- Further members of an object and its end. -/
def printMembers (members : List (Option String × Json)) (rest : List Char) : List Char :=
  match members with
  | [] => '\x7d' :: rest
  | (name, value) :: members =>
      ',' :: printText name (':' :: print value (printMembers members rest))

end

/-- The text of a value. -/
def render (value : Json) : String :=
  String.ofList (print value [])

end StationLink.Json
