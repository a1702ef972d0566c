import StationLink.Coded
import StationLink.Json.Value

namespace StationLink.Json

/-!
# Reading records

A record is written as an object, or as an array of its fields in declared
order. In an object unknown members are ignored and a known one may occur only
once. Fields that are not written take their default if they have one. In an
array there may be no more items than fields.

`Decoder` reads one value; `record` reads the fields of a record one after
another with `required` and `withDefault`. A choice is written as its name, or
as an object whose only member has that name and holds what belongs to it
(`asChoice`).
-/

/-- A reading of JSON values of one kind. -/
abbrev Decoder (α : Type) : Type :=
  Json → Option α

/-- The fields of a record that have not been read, in declared order. -/
abbrev Fields : Type :=
  List (Option Json)

/-- A reading of the fields of a record from first to last. -/
abbrev FieldReader (α : Type) : Type :=
  StateT Fields Option α

/-- Any text. -/
def asText : Decoder String
  | .text content => content
  | _ => none

/-- Yes or no. -/
def asFlag : Decoder Bool
  | .boolean value => some value
  | _ => none

/-- A whole number below a bound. -/
def asNatBelow (bound : Nat) : Decoder Nat
  | .integer value => if 0 ≤ value ∧ value.toNat < bound then some value.toNat else none
  | _ => none

/-- A number of one byte. -/
def asByte : Decoder UInt8 := fun json =>
  (asNatBelow 256 json).map Nat.toUInt8

/-- A number of two bytes. -/
def asWord : Decoder UInt16 := fun json =>
  (asNatBelow 65536 json).map Nat.toUInt16

/-- A number of eight bytes. -/
def asSize : Decoder Nat :=
  asNatBelow 0x10000000000000000

/-- An array of values of one kind. -/
def asList {α : Type} (item : Decoder α) : Decoder (List α)
  | .array items => items.mapM item
  | _ => none

/-- A value, or nothing. -/
def asOptional {α : Type} (decoder : Decoder α) : Decoder (Option α)
  | .null => some none
  | json => (decoder json).map some

/-- A value of a closed vocabulary, by its name; the name may be the only member of an object. -/
def asNamed {α : Type} (values : List α) (name : α → String) : Decoder α
  | .text (some content) => values.find? fun value => name value == content
  | .object [(some content, .null)] => values.find? fun value => name value == content
  | _ => none

/-- A value of a coded vocabulary, by its name. -/
def asCoded (α : Type) [Coded α] : Decoder α :=
  asNamed Coded.all Coded.name

/-- A value of a coded vocabulary, by its name. -/
def ofCoded {α : Type} [Coded α] (value : α) : Json :=
  ofText (Coded.name value)

/--
A choice: its name alone, or an object whose only member has its name. What is
written for the choice is handed on, a bare name as nothing.
-/
def asChoice {α : Type} (select : String → Option Json → Option α) : Decoder α
  | .text (some name) => select name none
  | .object [(some name, content)] => select name (some content)
  | _ => none

/-- A choice that holds nothing may be written with a null. -/
def holdsNothing {α : Type} (value : α) : Option Json → Option α
  | none => some value
  | some .null => some value
  | some _ => none

/-- The only member of a given name, if there is one; fails if there are several. -/
def member? (members : List (Option String × Json)) (name : String) : Option (Option Json) :=
  match members.filter fun member => member.1 == some name with
  | [] => some none
  | [(_, value)] => some (some value)
  | _ => none

/-- The fields of given names that a record is written with. -/
def fields? (names : List String) : Decoder Fields
  | .object members =>
      if members.all fun member => member.1.isSome then
        names.mapM (member? members)
      else
        none
  | .array items =>
      if items.length ≤ names.length then
        some (items.map some ++ List.replicate (names.length - items.length) none)
      else
        none
  | _ => none

/-- Read the next field, which has to be written. -/
def required {α : Type} (decoder : Decoder α) : FieldReader α
  | some json :: rest => (decoder json).map fun value => (value, rest)
  | _ => none

/-- Read the next field, which has a default. -/
def withDefault {α : Type} (default : α) (decoder : Decoder α) : FieldReader α
  | some json :: rest => (decoder json).map fun value => (value, rest)
  | none :: rest => some (default, rest)
  | [] => none

/-- A record with fields of given names in declared order. -/
def record {α : Type} (names : List String) (reader : FieldReader α) : Decoder α := fun json => do
  let fields ← fields? names json
  reader.run' fields

/-- A record that has to be written with the names of its fields. -/
def namedRecord {α : Type} (names : List String) (reader : FieldReader α) : Decoder α
  | .object members => record names reader (.object members)
  | _ => none

end StationLink.Json
