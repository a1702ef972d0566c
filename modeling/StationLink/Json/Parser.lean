import StationLink.Json.Token
import StationLink.Json.Value

namespace StationLink.Json

/-!
# Reading JSON text

Tokens are put together one at a time. `Partial` is what has been read so far:
the arrays and objects that are still open, innermost first, and what may come
next. Nesting is bounded by nothing but the text. `Json.parse?` accepts a text
that is exactly one value, surrounded by white space at most.
-/

/-- An array or object whose end has not been read. -/
inductive Open where
  /-- Items read so far, last first. -/
  | array (items : List Json)
  /-- Members read so far, last first, and the name of the member being read. -/
  | object (members : List (Option String × Json)) (name : Option String)
  deriving Repr

/-- What may come next in the innermost open array or object. -/
inductive Expected where
  /-- A value. -/
  | value
  /-- A value, or the end of an array that is still empty. -/
  | firstItem
  /-- A name. -/
  | name
  /-- A name, or the end of an object that is still empty. -/
  | firstName
  /-- The colon behind a name. -/
  | colon
  /-- A comma, or the end of the array or object. -/
  | more
  deriving Repr, DecidableEq

/-- A value read in part. -/
inductive Partial where
  | reading (opened : List Open) (expected : Expected)
  | complete (value : Json)
  deriving Repr

namespace Partial

/-- Nothing has been read. -/
def start : Partial := .reading [] .value

/-- A value has been read; it belongs to the innermost open array or object. -/
def add (value : Json) : List Open → Partial
  | [] => .complete value
  | .array items :: outer => .reading (.array (value :: items) :: outer) .more
  | .object members name :: outer =>
      .reading (.object ((name, value) :: members) none :: outer) .more

/-- The end of an array or object has been read. -/
def close : List Open → Bool → Option Partial
  | .array items :: outer, true => some (add (.array items.reverse) outer)
  | .object members _ :: outer, false => some (add (.object members.reverse) outer)
  | _, _ => none

/-- A value, or the beginning of one, has been read. -/
def begin (opened : List Open) : Token → Option Partial
  | .null => some (add .null opened)
  | .boolean value => some (add (.boolean value) opened)
  | .integer value => some (add (.integer value) opened)
  | .inexact => some (add .inexact opened)
  | .text content => some (add (.text content) opened)
  | .beginArray => some (.reading (.array [] :: opened) .firstItem)
  | .beginObject => some (.reading (.object [] none :: opened) .firstName)
  | _ => none

/-- The name of a member has been read. -/
def named (opened : List Open) (name : Option String) : Option Partial :=
  match opened with
  | .object members _ :: outer => some (.reading (.object members name :: outer) .colon)
  | _ => none

/-- Take in a token, unless it cannot come next. -/
def step (state : Partial) (token : Token) : Option Partial :=
  match state with
  | .complete _ => none
  | .reading opened expected =>
      match expected, token with
      | .value, token => begin opened token
      | .firstItem, .endArray => close opened true
      | .firstItem, token => begin opened token
      | .name, .text name => named opened name
      | .firstName, .text name => named opened name
      | .firstName, .endObject => close opened false
      | .colon, .colon => some (.reading opened .value)
      | .more, .comma =>
          match opened with
          | .array _ :: _ => some (.reading opened .value)
          | .object .. :: _ => some (.reading opened .name)
          | [] => none
      | .more, .endArray => close opened true
      | .more, .endObject => close opened false
      | _, _ => none

/-- The value, if it has been read completely. -/
def value? : Partial → Option Json
  | .complete value => some value
  | .reading .. => none

end Partial

/-- The value that a text spells. -/
def parse? (text : String) : Option Json := do
  let tokens ← scan text.toList
  let state ← tokens.foldlM Partial.step Partial.start
  state.value?

end StationLink.Json
