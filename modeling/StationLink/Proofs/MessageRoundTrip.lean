import StationLink.Proofs.MessageReader

namespace StationLink

/-!
# Reading what was written

A command or event that can be written is read back from its bytes as it was,
but for the station, which does not travel on the link.
-/

namespace Message

namespace Reader

/-! ## Fields -/

theorem byte_cons
    (first : UInt8)
    (rest : List UInt8) :
    byte (first :: rest) = .ok (first, rest) :=
  rfl

theorem bytes_append
    {front : List UInt8}
    {count : Nat}
    (sized : front.length = count)
    (rest : List UInt8) :
    bytes count (front ++ rest) = .ok (front, rest) := by
  subst count
  have enough : ¬ (front ++ rest).length < front.length := by
    rw [List.length_append]
    omega
  rw [bytes, if_neg enough, List.take_left, List.drop_left]

theorem asText_utf8
    (what text : String)
    (input : List UInt8) :
    asText what (Text.utf8 text) input = .ok (text, input) := by
  unfold asText
  rw [Text.ofUtf8?_utf8]
  rfl

theorem text_utf8
    (what content : String) :
    text what (Text.utf8 content) = .ok (content, []) :=
  (bind_of_ok rfl).trans (asText_utf8 what content [])

/-- A name is read back from its length and its encoding. -/
theorem control_cons
    {name : String}
    (short : (Text.utf8 name).length ≤ 255)
    (rest : List UInt8) :
    control ((Text.utf8 name).length.toUInt8 :: (Text.utf8 name ++ rest)) =
      .ok (name, rest) := by
  have sized : (Text.utf8 name).length = (Text.utf8 name).length.toUInt8.toNat := by
    rw [Nat.toUInt8_eq, UInt8.toNat_ofNat']
    omega
  refine (bind_of_ok (byte_cons _ _)).trans ?_
  refine (bind_of_ok (bytes_append sized rest)).trans ?_
  exact asText_utf8 "control name" name rest

/-- A value is read back from its code. -/
theorem coded_cons
    {α : Type}
    [Coded α]
    (value : α)
    (rest : List UInt8) :
    coded α (Coded.code value :: rest) = .ok (value, rest) := by
  refine (bind_of_ok (byte_cons _ _)).trans ?_
  simp only [Coded.ofCode?_code]
  rfl

theorem flag_cons
    (value : Bool)
    (rest : List UInt8) :
    flag (Message.flag value :: rest) = .ok (value, rest) := by
  cases value <;> rfl

theorem operation_cons
    {α : Type}
    [Coded α]
    (messageClass : UInt8)
    (code : α)
    (rest : List UInt8) :
    operation α messageClass (messageClass :: Coded.code code :: rest) =
      .ok (code, rest) := by
  refine (bind_of_ok (byte_cons _ _)).trans ?_
  refine (bind_of_ok (byte_cons _ _)).trans ?_
  simp only [if_true, Coded.ofCode?_code]
  rfl

end Reader

/-- A message that can be written has a short control name and fits into a train. -/
theorem write_eq_ok
    {messageClass code : UInt8}
    {control : String}
    {fields message : List UInt8}
    (written : write messageClass code control fields = .ok message) :
    (Text.utf8 control).length ≤ 255 ∧ message.length ≤ maxTrainBytes ∧
      message =
        messageClass :: code :: (Text.utf8 control).length.toUInt8 ::
          (Text.utf8 control ++ fields) := by
  by_cases short : (Text.utf8 control).length ≤ 255
  · simp only [write, header, if_pos short, bind, Except.bind, checkSize,
      List.cons_append] at written
    split at written
    · next fits =>
        cases written
        exact ⟨short, fits, rfl⟩
    · cases written
  · simp only [write, header, if_neg short, bind, Except.bind] at written
    cases written

end Message

open Message

/-! ## Commands -/

/-- The last field of the kind is a text, which takes all bytes to the end. -/
def CommandKind.endsInText : CommandKind → Bool
  | .program .. | .text .. => true
  | _ => false

/-- The fields of a command kind spell it; only a text minds what is behind them. -/
theorem CommandKind.read_fields
    (kind : CommandKind)
    {rest : List UInt8}
    (atEnd : kind.endsInText = true → rest = []) :
    CommandKind.read kind.code (kind.fields ++ rest) = .ok (kind, rest) := by
  cases kind with
  | led color mode =>
      refine (Reader.bind_of_ok (Reader.coded_cons color _)).trans ?_
      exact Reader.bind_of_ok (Reader.coded_cons mode rest)
  | program slot label =>
      rw [atEnd rfl, List.append_nil]
      refine (Reader.bind_of_ok (Reader.byte_cons slot _)).trans ?_
      exact Reader.bind_of_ok (Reader.text_utf8 "program text" label)
  | text row column erase content =>
      rw [atEnd rfl, List.append_nil]
      refine (Reader.bind_of_ok (Reader.byte_cons row _)).trans ?_
      refine (Reader.bind_of_ok (Reader.byte_cons column _)).trans ?_
      refine (Reader.bind_of_ok (Reader.coded_cons erase _)).trans ?_
      exact Reader.bind_of_ok (Reader.text_utf8 "display text" content)
  | ring pattern =>
      exact Reader.bind_of_ok (Reader.coded_cons pattern rest)
  | beep tone =>
      exact Reader.bind_of_ok (Reader.byte_cons tone rest)
  | timer running =>
      exact Reader.bind_of_ok (Reader.flag_cons running rest)
  | echo enabled =>
      exact Reader.bind_of_ok (Reader.flag_cons enabled rest)
  | scroll direction =>
      exact Reader.bind_of_ok (Reader.coded_cons direction rest)
  | keypadMode mode =>
      exact Reader.bind_of_ok (Reader.coded_cons mode rest)
  | offHook | onHook | ringOff | identify =>
      rfl

/-- A command is read from its bytes; only a text minds what is behind them. -/
theorem Command.read_append
    {command : Command}
    {message rest : List UInt8}
    (written : command.encode = .ok message)
    (atEnd : command.kind.endsInText = true → rest = []) :
    Command.read (message ++ rest) = .ok (command.withStation "", rest) := by
  obtain ⟨short, _, shape⟩ := write_eq_ok written
  rw [shape]
  simp only [List.cons_append, List.append_assoc]
  refine (Reader.bind_of_ok (Reader.operation_cons commandClass _ _)).trans ?_
  refine (Reader.bind_of_ok (Reader.control_cons short _)).trans ?_
  exact Reader.bind_of_ok (CommandKind.read_fields command.kind atEnd)

/-- A command is read back as it was written, at a station not yet known. -/
theorem Command.decode_of_encode
    {command : Command}
    {message : List UInt8}
    (written : command.encode = .ok message) :
    Command.decode message = .ok (command.withStation "") := by
  have spelled := Command.read_append written (fun _ => rfl)
  rw [List.append_nil] at spelled
  exact Reader.run'_eq_ok_iff.mpr ⟨[], spelled⟩

/-! ## Events -/

/-- An event that makes sense is written as a code and fields that spell its kind. -/
theorem Event.exists_write_of_encode
    {event : Event}
    {message : List UInt8}
    (makesSense : event.kind.isUnknown = false)
    (written : event.encode = .ok message) :
    ∃ code fields,
      Message.write eventClass (Coded.code code) event.control fields = .ok message ∧
        EventKind.read code fields = .ok (event.kind, []) := by
  obtain ⟨station, control, kind⟩ := event
  cases kind with
  | offHook => exact ⟨.offHook, [], written, rfl⟩
  | onHook => exact ⟨.onHook, [], written, rfl⟩
  | keyPress => exact ⟨.keyPress, [], written, rfl⟩
  | keyRelease => exact ⟨.keyRelease, [], written, rfl⟩
  | menuExit => exact ⟨.menuExit, [], written, rfl⟩
  | padPress digit => exact ⟨.padPress, [digit], written, rfl⟩
  | padRelease digit => exact ⟨.padRelease, [digit], written, rfl⟩
  | menuItem item => exact ⟨.menuItem, [item], written, rfl⟩
  | programResult slot ok =>
      refine ⟨.programResult, [slot, Message.flag ok], written, ?_⟩
      refine (Reader.bind_of_ok (Reader.byte_cons slot _)).trans ?_
      exact Reader.bind_of_ok (Reader.flag_cons ok [])
  | unknown first second data => cases makesSense
  | up => cases written
  | lost => cases written

/-- An event that was read is what its message is decoded as. -/
theorem Event.decode_of_read
    {event : Event}
    {message rest : List UInt8}
    (read : Event.read message = .ok (event, rest)) :
    Event.decode message = event := by
  have decoded := Reader.run'_eq_ok_iff.mpr ⟨rest, read⟩
  rw [decode, decoded]

/-- An event that makes sense is read back as it was, at a station not yet known. -/
theorem Event.decode_of_encode
    {event : Event}
    {message : List UInt8}
    (makesSense : event.kind.isUnknown = false)
    (written : event.encode = .ok message) :
    Event.decode message = event.withStation "" := by
  obtain ⟨code, fields, writes, spells⟩ := exists_write_of_encode makesSense written
  obtain ⟨short, _, shape⟩ := write_eq_ok writes
  have spelled : Event.read message = .ok (event.withStation "", []) := by
    rw [shape]
    refine (Reader.bind_of_ok (Reader.operation_cons eventClass code _)).trans ?_
    refine (Reader.bind_of_ok (Reader.control_cons short _)).trans ?_
    exact Reader.bind_of_ok spells
  exact decode_of_read spelled

end StationLink
