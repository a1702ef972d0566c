namespace StationLink

/-!
# JSON values

Settings and records are read and written as JSON text. A value keeps
everything that the rules for reading records look at: members stay in the
order written and may repeat, a text that is not Unicode is present but has no
content, and a number is either a plain integer or some other number.
-/

/-- A JSON value as written. -/
inductive Json where
  | null
  | boolean (value : Bool)
  /-- A number without fraction and exponent. -/
  | integer (value : Int)
  /-- Any other number. -/
  | inexact
  /-- A text; none if its escapes do not spell Unicode characters. -/
  | text (content : Option String)
  | array (items : List Json)
  /-- Members in order; a name may repeat. -/
  | object (members : List (Option String × Json))
  deriving Repr

namespace Json

/-- Names with their values. -/
abbrev Members : Type :=
  List (String × Json)

/-- A text. -/
def ofText (content : String) : Json :=
  .text (some content)

/-- A natural number. -/
def ofNat (value : Nat) : Json :=
  .integer value

/-- A number of one byte. -/
def ofByte (value : UInt8) : Json :=
  ofNat value.toNat

/-- A number of two bytes. -/
def ofWord (value : UInt16) : Json :=
  ofNat value.toNat

/-- A value or null. -/
def ofOptional {α : Type} (encode : α → Json) : Option α → Json
  | some value => encode value
  | none => .null

/-- An array of values of one kind. -/
def ofList {α : Type} (encode : α → Json) (items : List α) : Json :=
  .array (items.map encode)

/-- An object with given members. -/
def ofMembers (members : Members) : Json :=
  .object (members.map fun member => (some member.1, member.2))

/-- A choice that holds a record. -/
def ofChoice (name : String) (members : Members) : Json :=
  ofMembers [(name, ofMembers members)]

end Json

end StationLink
