namespace StationLink

/-!
# Coded vocabularies

Many fields of a station message hold one value of a small closed vocabulary,
written as a single byte. A `Coded` type lists its values in order and gives
each a byte and a name. Bytes of distinct values differ, so `Coded.ofCode?`
undoes `Coded.code` (`Coded.ofCode?_code`) and accepts nothing else
(`Coded.code_of_ofCode?`).
-/

/-- A closed vocabulary whose values are written as one byte each. -/
class Coded (α : Type) where
  /-- What a value of the vocabulary is called in error texts. -/
  label : String
  /-- Every value, in the order of presentation. -/
  all : List α
  /-- The byte that stands for a value. -/
  code : α → UInt8
  /-- The name of a value in settings and reports. -/
  name : α → String
  mem_all : ∀ value, value ∈ all
  code_injective : ∀ one other, code one = code other → one = other

namespace Coded

variable {α : Type} [Coded α]

/-- The value that a byte stands for, if any. -/
def ofCode? (byte : UInt8) : Option α :=
  (all : List α).find? fun value => code value == byte

/-- The value of a given name, if any. -/
def ofName? (text : String) : Option α :=
  (all : List α).find? fun value => name value == text

theorem code_of_ofCode?
    {byte : UInt8}
    {value : α}
    (found : ofCode? byte = some value) :
    code value = byte := by
  simpa using List.find?_some found

@[simp] theorem ofCode?_code (value : α) : ofCode? (code value) = some value := by
  cases found : (ofCode? (code value) : Option α) with
  | none =>
      have absent := List.find?_eq_none.mp found value (mem_all value)
      simp at absent
  | some other =>
      rw [code_injective other value (code_of_ofCode? found)]

theorem ofCode?_eq_some_iff
    {byte : UInt8}
    {value : α} :
    ofCode? byte = some value ↔ code value = byte :=
  ⟨code_of_ofCode?, fun same => same ▸ ofCode?_code value⟩

end Coded

end StationLink
