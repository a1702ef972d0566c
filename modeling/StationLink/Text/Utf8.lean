namespace StationLink.Text

/-!
# Text as bytes

Messages carry text as UTF-8. `utf8` writes a text and `ofUtf8?` reads one,
refusing bytes that are not well-formed. The two undo each other, so a text has
exactly one written form (`ofUtf8?_eq_some_iff`).
-/

/-- The UTF-8 bytes of a text. -/
def utf8 (text : String) : List UInt8 :=
  text.toByteArray.data.toList

/-- The text that UTF-8 bytes spell, if they are well-formed. -/
def ofUtf8? (bytes : List UInt8) : Option String :=
  String.fromUTF8? ⟨bytes.toArray⟩

@[simp] theorem ofUtf8?_utf8 (text : String) : ofUtf8? (utf8 text) = some text := by
  have valid : text.toByteArray.IsValidUTF8 := text.isValidUTF8
  simp [ofUtf8?, utf8, String.fromUTF8?, String.fromUTF8, valid]

theorem utf8_of_ofUtf8?
    {bytes : List UInt8}
    {text : String}
    (read : ofUtf8? bytes = some text) :
    utf8 text = bytes := by
  unfold ofUtf8? String.fromUTF8? at read
  split at read
  · cases read
    simp [utf8, String.fromUTF8]
  · cases read

/-- Bytes are read as a text exactly if they are its encoding. -/
theorem ofUtf8?_eq_some_iff
    {bytes : List UInt8}
    {text : String} :
    ofUtf8? bytes = some text ↔ utf8 text = bytes :=
  ⟨utf8_of_ofUtf8?, fun same => same ▸ ofUtf8?_utf8 text⟩

/-- Different texts have different encodings. -/
theorem utf8_injective : Function.Injective utf8 := by
  intro one other same
  have read := congrArg ofUtf8? same
  rw [ofUtf8?_utf8, ofUtf8?_utf8] at read
  exact Option.some.inj read

end StationLink.Text
