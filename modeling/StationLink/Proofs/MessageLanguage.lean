import StationLink.Proofs.MessageRoundTrip

namespace StationLink

/-!
# What is read was written

A reader of a field succeeds on the bytes that are written for its result, with
anything behind them, and on no others. Field by field this determines which
bytes are messages. A command is read from exactly the bytes that begin with its
own, and if it ends in a text nothing may follow them
(`Command.decode_eq_ok_iff_encode`). An event keeps enough of the bytes it is
read from to be written again and read once more as the same event
(`Event.decode_lossless`).
-/

namespace Message

namespace Reader

variable {α β : Type} {input rest : List UInt8}

/-! ## Fields -/

/-- A byte is read from an input that begins with it. -/
theorem byte_eq_ok_iff
    {value : UInt8} :
    byte input = .ok (value, rest) ↔ input = value :: rest := by
  constructor
  · intro read
    cases input with
    | nil =>
        cases read
    | cons first others =>
        cases read
        rfl
  · rintro rfl
    exact byte_cons value rest

/-- Some bytes are read from an input that begins with so many. -/
theorem bytes_eq_ok_iff
    {count : Nat}
    {front : List UInt8} :
    bytes count input = .ok (front, rest) ↔ front.length = count ∧ input = front ++ rest := by
  constructor
  · intro read
    by_cases short : input.length < count
    · simp only [bytes, if_pos short] at read
      cases read
    · simp only [bytes, if_neg short] at read
      cases read
      exact ⟨List.length_take_of_le (Nat.le_of_not_lt short), (List.take_append_drop _ _).symm⟩
  · rintro ⟨sized, rfl⟩
    exact bytes_append sized rest

/-- Bytes are read as the text that they encode. -/
theorem asText_eq_ok_iff
    {what text : String}
    {bytes : List UInt8} :
    asText what bytes input = .ok (text, rest) ↔ bytes = Text.utf8 text ∧ input = rest := by
  constructor
  · intro read
    cases spelled : Text.ofUtf8? bytes with
    | none =>
        simp only [asText, spelled] at read
        cases read
    | some found =>
        simp only [asText, spelled] at read
        obtain ⟨rfl, same⟩ := pure_eq_ok_iff.mp read
        exact ⟨(Text.ofUtf8?_eq_some_iff.mp spelled).symm, same⟩
  · rintro ⟨rfl, rfl⟩
    exact asText_utf8 what text input

/-- A text is read from an input that is its encoding to the end. -/
theorem text_eq_ok_iff
    {what content : String} :
    text what input = .ok (content, rest) ↔ input = Text.utf8 content ∧ rest = [] := by
  constructor
  · intro read
    obtain ⟨bytes, _, isAll, spelled⟩ := exists_of_bind read
    cases isAll
    obtain ⟨same, nothing⟩ := asText_eq_ok_iff.mp spelled
    exact ⟨same, nothing.symm⟩
  · rintro ⟨rfl, rfl⟩
    exact text_utf8 what content

/-- A name is read from an input that begins with its length and its encoding. -/
theorem control_eq_ok_iff
    {name : String} :
    control input = .ok (name, rest) ↔
      (Text.utf8 name).length ≤ 255 ∧
        input = (Text.utf8 name).length.toUInt8 :: (Text.utf8 name ++ rest) := by
  constructor
  · intro read
    obtain ⟨length, behind, readsLength, read⟩ := exists_of_bind read
    obtain ⟨bytes, _, readsBytes, spelled⟩ := exists_of_bind read
    obtain ⟨sized, rfl⟩ := bytes_eq_ok_iff.mp readsBytes
    obtain ⟨rfl, rfl⟩ := asText_eq_ok_iff.mp spelled
    have isLength : (Text.utf8 name).length.toUInt8 = length := by
      rw [sized]
      exact UInt8.ofNat_toNat
    -- A byte can say no length that is longer than a control name may be.
    have isByte : length.toNat < 256 := length.toNat_lt
    rw [isLength]
    exact ⟨by omega, byte_eq_ok_iff.mp readsLength⟩
  · rintro ⟨short, rfl⟩
    exact control_cons short rest

/-- A value is read from an input that begins with its code. -/
theorem coded_eq_ok_iff
    [Coded α]
    {value : α} :
    coded α input = .ok (value, rest) ↔ input = Coded.code value :: rest := by
  constructor
  · intro read
    obtain ⟨code, behind, readsCode, read⟩ := exists_of_bind read
    cases found : (Coded.ofCode? code : Option α) with
    | none =>
        simp only [found] at read
        cases read
    | some known =>
        simp only [found] at read
        obtain ⟨rfl, rfl⟩ := pure_eq_ok_iff.mp read
        rw [Coded.ofCode?_eq_some_iff.mp found]
        exact byte_eq_ok_iff.mp readsCode
  · rintro rfl
    exact coded_cons value rest

/-- A flag is read from an input that begins with its byte. -/
theorem flag_eq_ok_iff
    {value : Bool} :
    flag input = .ok (value, rest) ↔ input = Message.flag value :: rest := by
  constructor
  · intro read
    obtain ⟨code, behind, readsCode, read⟩ := exists_of_bind read
    rw [byte_eq_ok_iff.mp readsCode]
    split at read
    · next isNo =>
        obtain ⟨rfl, rfl⟩ := pure_eq_ok_iff.mp read
        rw [isNo]
        rfl
    · split at read
      · next isYes =>
          obtain ⟨rfl, rfl⟩ := pure_eq_ok_iff.mp read
          rw [isYes]
          rfl
      · cases read
  · rintro rfl
    exact flag_cons value rest

/-- An operation is read from an input that begins with its class and its code. -/
theorem operation_eq_ok_iff
    [Coded α]
    {messageClass : UInt8}
    {code : α} :
    operation α messageClass input = .ok (code, rest) ↔
      input = messageClass :: Coded.code code :: rest := by
  constructor
  · intro read
    obtain ⟨first, _, readsFirst, read⟩ := exists_of_bind read
    obtain ⟨second, _, readsSecond, read⟩ := exists_of_bind read
    rw [byte_eq_ok_iff.mp readsFirst, byte_eq_ok_iff.mp readsSecond]
    split at read
    · next sameClass =>
        cases found : (Coded.ofCode? second : Option α) with
        | none =>
            simp only [found] at read
            cases read
        | some known =>
            simp only [found] at read
            obtain ⟨rfl, rfl⟩ := pure_eq_ok_iff.mp read
            rw [sameClass, Coded.ofCode?_eq_some_iff.mp found]
    · cases read
  · rintro rfl
    exact operation_cons messageClass code rest

/-- A message of a class is its operation, its control name and what its fields spell. -/
theorem header_bind_eq_ok_iff
    [Coded α]
    {messageClass : UInt8}
    {fields : α → String → Reader β}
    {value : β} :
    (do
        let code ← operation α messageClass
        let name ← control
        fields code name : Reader β) input = .ok (value, rest) ↔
      ∃ code name behind,
        (Text.utf8 name).length ≤ 255 ∧
          input = messageClass :: Coded.code code :: (Text.utf8 name).length.toUInt8 ::
            (Text.utf8 name ++ behind) ∧
          fields code name behind = .ok (value, rest) := by
  simp only [bind_eq_ok_iff, operation_eq_ok_iff, control_eq_ok_iff]
  constructor
  · rintro ⟨code, _, rfl, name, behind, ⟨short, rfl⟩, spelled⟩
    exact ⟨code, name, behind, short, rfl, spelled⟩
  · rintro ⟨code, name, behind, short, rfl, spelled⟩
    exact ⟨code, _, rfl, name, behind, ⟨short, rfl⟩, spelled⟩

end Reader

/-- Bytes that a train can carry begin with a message that can be written. -/
theorem exists_write_of_shape
    {messageClass code : UInt8}
    {control : String}
    {fields rest message : List UInt8}
    (short : (Text.utf8 control).length ≤ 255)
    (shape :
      message = messageClass :: code :: (Text.utf8 control).length.toUInt8 ::
        (Text.utf8 control ++ (fields ++ rest)))
    (fits : message.length ≤ maxTrainBytes) :
    ∃ written,
      write messageClass code control fields = .ok written ∧ message = written ++ rest := by
  let start := messageClass :: code :: (Text.utf8 control).length.toUInt8 :: Text.utf8 control
  have isStart : header messageClass code control = .ok start := if_pos short
  have goesOn : message = (start ++ fields) ++ rest := by
    simp only [shape, start, List.cons_append, List.append_assoc]
  have startFits : (start ++ fields).length ≤ maxTrainBytes := by
    rw [goesOn, List.length_append] at fits
    omega
  refine ⟨start ++ fields, ?_, goesOn⟩
  simp only [write, isStart, bind, Except.bind, checkSize, if_pos startFits]

end Message

open Message

/-! ## Commands -/

/-- What spells a command kind begins with its fields, and nothing is behind a text. -/
theorem CommandKind.fields_of_read
    {code : CommandCode}
    {kind : CommandKind}
    {input rest : List UInt8}
    (read : CommandKind.read code input = .ok (kind, rest)) :
    kind.code = code ∧ input = kind.fields ++ rest ∧
      (kind.endsInText = true → rest = []) := by
  cases code with
  | led =>
      obtain ⟨color, _, readsColor, read⟩ := Reader.exists_of_bind read
      obtain ⟨mode, _, readsMode, read⟩ := Reader.exists_of_bind read
      obtain ⟨rfl, rfl⟩ := Reader.pure_eq_ok_iff.mp read
      rw [Reader.coded_eq_ok_iff.mp readsColor, Reader.coded_eq_ok_iff.mp readsMode]
      exact ⟨rfl, rfl, nofun⟩
  | program =>
      obtain ⟨slot, _, readsSlot, read⟩ := Reader.exists_of_bind read
      obtain ⟨label, _, readsLabel, read⟩ := Reader.exists_of_bind read
      obtain ⟨rfl, rfl⟩ := Reader.pure_eq_ok_iff.mp read
      obtain ⟨isLabel, rfl⟩ := Reader.text_eq_ok_iff.mp readsLabel
      rw [Reader.byte_eq_ok_iff.mp readsSlot, isLabel, List.append_nil]
      exact ⟨rfl, rfl, fun _ => rfl⟩
  | text =>
      obtain ⟨row, _, readsRow, read⟩ := Reader.exists_of_bind read
      obtain ⟨column, _, readsColumn, read⟩ := Reader.exists_of_bind read
      obtain ⟨erase, _, readsErase, read⟩ := Reader.exists_of_bind read
      obtain ⟨content, _, readsContent, read⟩ := Reader.exists_of_bind read
      obtain ⟨rfl, rfl⟩ := Reader.pure_eq_ok_iff.mp read
      obtain ⟨isContent, rfl⟩ := Reader.text_eq_ok_iff.mp readsContent
      rw [Reader.byte_eq_ok_iff.mp readsRow, Reader.byte_eq_ok_iff.mp readsColumn,
        Reader.coded_eq_ok_iff.mp readsErase, isContent, List.append_nil]
      exact ⟨rfl, rfl, fun _ => rfl⟩
  | beep =>
      obtain ⟨tone, _, readsTone, read⟩ := Reader.exists_of_bind read
      obtain ⟨rfl, rfl⟩ := Reader.pure_eq_ok_iff.mp read
      exact ⟨rfl, Reader.byte_eq_ok_iff.mp readsTone, nofun⟩
  | timer | echo =>
      obtain ⟨value, _, readsValue, read⟩ := Reader.exists_of_bind read
      obtain ⟨rfl, rfl⟩ := Reader.pure_eq_ok_iff.mp read
      exact ⟨rfl, Reader.flag_eq_ok_iff.mp readsValue, nofun⟩
  | ring | scroll | keypadMode =>
      obtain ⟨value, _, readsValue, read⟩ := Reader.exists_of_bind read
      obtain ⟨rfl, rfl⟩ := Reader.pure_eq_ok_iff.mp read
      exact ⟨rfl, Reader.coded_eq_ok_iff.mp readsValue, nofun⟩
  | offHook | onHook | ringOff | identify =>
      obtain ⟨rfl, rfl⟩ := Reader.pure_eq_ok_iff.mp read
      exact ⟨rfl, rfl, nofun⟩

/-- A command is read from its own bytes and what is behind them. -/
theorem Command.exists_encode_of_read
    {command : Command}
    {message rest : List UInt8}
    (fits : message.length ≤ maxTrainBytes)
    (read : Command.read message = .ok (command, rest)) :
    command.station = "" ∧
      ∃ written, command.encode = .ok written ∧ message = written ++ rest ∧
        (command.kind.endsInText = true → rest = []) := by
  obtain ⟨code, name, behind, short, shape, read⟩ := Reader.header_bind_eq_ok_iff.mp read
  obtain ⟨kind, _, readsKind, read⟩ := Reader.exists_of_bind read
  obtain ⟨rfl, rfl⟩ := Reader.pure_eq_ok_iff.mp read
  obtain ⟨rfl, rfl, atEnd⟩ := CommandKind.fields_of_read readsKind
  obtain ⟨written, isWritten, goesOn⟩ := exists_write_of_shape short shape fits
  exact ⟨rfl, written, isWritten, goesOn, atEnd⟩

/-- The bytes of a command spell it at a station not yet known, and so do some that go on. -/
theorem Command.decode_eq_ok_iff
    {message : List UInt8}
    (fits : message.length ≤ maxTrainBytes)
    {command : Command} :
    Command.decode message = .ok command ↔
      command.station = "" ∧
        ∃ written, command.encode = .ok written ∧ written <+: message ∧
          (command.kind.endsInText = true → written = message) := by
  refine Reader.run'_eq_ok_iff.trans ?_
  constructor
  · rintro ⟨rest, read⟩
    obtain ⟨noStation, written, isWritten, rfl, atEnd⟩ := exists_encode_of_read fits read
    refine ⟨noStation, written, isWritten, List.prefix_append written rest, fun endsInText => ?_⟩
    rw [atEnd endsInText, List.append_nil]
  · rintro ⟨noStation, written, isWritten, ⟨rest, rfl⟩, atEnd⟩
    have isPlain : command.withStation "" = command := by
      rw [Command.withStation, ← noStation]
    have behind : command.kind.endsInText = true → rest = [] :=
      fun endsInText => List.self_eq_append_right.mp (atEnd endsInText)
    have read := read_append isWritten behind
    rw [isPlain] at read
    exact ⟨rest, read⟩

/-- For which station a command is meant makes no difference to how it is encoded. -/
theorem Command.encode_withStation
    (command : Command)
    (station : String) :
    (command.withStation station).encode = command.encode :=
  rfl

/--
A message that a train can carry is read as a command exactly if the command has
no station, can be written, and its bytes begin the message, and are all of it if
it ends in a text. So reading undoes writing, commands that are written alike
differ in nothing but the station, and bytes may follow a command unless it ends
in a text.
-/
theorem Command.decode_eq_ok_iff_encode
    {message : List UInt8}
    (fits : message.length ≤ maxTrainBytes)
    (command : Command) :
    (Command.decode message = .ok command ↔
        command.station = "" ∧
          ∃ written, command.encode = .ok written ∧ written <+: message ∧
            (command.kind.endsInText = true → written = message)) ∧
      (command.encode = .ok message →
        Command.decode message = .ok (command.withStation "")) ∧
      (∀ other : Command,
        command.encode = .ok message → other.encode = .ok message →
          command.withStation "" = other.withStation "") ∧
      ∀ written,
        command.encode = .ok written → written <+: message → written ≠ message →
          (Command.decode message = .ok (command.withStation "") ↔
            command.kind.endsInText = false) := by
  refine ⟨decode_eq_ok_iff fits, decode_of_encode, ?_, ?_⟩
  · intro other isWritten alsoWritten
    have same := (decode_of_encode isWritten).symm.trans (decode_of_encode alsoWritten)
    exact Except.ok.inj same
  · intro written isWritten begins goesOn
    constructor
    · intro decoded
      obtain ⟨_, also, alsoWritten, _, atEnd⟩ := (decode_eq_ok_iff fits).mp decoded
      rw [encode_withStation, isWritten] at alsoWritten
      cases alsoWritten
      exact Bool.eq_false_iff.mpr fun endsInText => goesOn (atEnd endsInText)
    · intro notText
      refine (decode_eq_ok_iff fits).mpr ⟨rfl, written, isWritten, begins, ?_⟩
      intro endsInText
      cases notText.symm.trans endsInText

/-- A byte that is left over behind a ring pattern is ignored. -/
theorem Command.decode_of_ring_and_more :
    let message : List UInt8 := [0x81, 0x30, 1, 0x41, 2, 0xFF]
    message.length ≤ maxTrainBytes ∧
      Command.decode message =
        .ok { station := "", control := "A", kind := .ring .intercom } := by
  intro message
  have fits : message.length ≤ maxTrainBytes := by decide
  have isWritten :
      Command.encode { station := "", control := "A", kind := .ring .intercom } =
        .ok [0x81, 0x30, 1, 0x41, 2] :=
    rfl
  have begins : [0x81, 0x30, 1, 0x41, 2] <+: message := ⟨[0xFF], rfl⟩
  exact ⟨fits, (decode_eq_ok_iff_encode fits _).1.mpr ⟨rfl, _, isWritten, begins, nofun⟩⟩

/-! ## Events -/

/-- What spells an event kind begins with the fields that are written for it. -/
theorem EventKind.exists_fields_of_read
    {code : EventCode}
    {kind : EventKind}
    {input rest : List UInt8}
    (read : EventKind.read code input = .ok (kind, rest)) :
    kind.isUnknown = false ∧
      ∃ fields, input = fields ++ rest ∧
        ∀ station control,
          Event.encode { station, control, kind } =
            Message.write eventClass (Coded.code code) control fields := by
  cases code with
  | offHook | onHook | keyPress | keyRelease | menuExit =>
      obtain ⟨rfl, rfl⟩ := Reader.pure_eq_ok_iff.mp read
      exact ⟨rfl, [], rfl, fun _ _ => rfl⟩
  | padPress | padRelease | menuItem =>
      obtain ⟨value, _, readsValue, read⟩ := Reader.exists_of_bind read
      obtain ⟨rfl, rfl⟩ := Reader.pure_eq_ok_iff.mp read
      exact ⟨rfl, [value], Reader.byte_eq_ok_iff.mp readsValue, fun _ _ => rfl⟩
  | programResult =>
      obtain ⟨slot, _, readsSlot, read⟩ := Reader.exists_of_bind read
      obtain ⟨ok, _, readsOk, read⟩ := Reader.exists_of_bind read
      obtain ⟨rfl, rfl⟩ := Reader.pure_eq_ok_iff.mp read
      rw [Reader.byte_eq_ok_iff.mp readsSlot, Reader.flag_eq_ok_iff.mp readsOk]
      exact ⟨rfl, [slot, Message.flag ok], rfl, fun _ _ => rfl⟩

namespace Event

/-- A message without a length byte spells no event. -/
theorem three_le_length_of_read
    {event : Event}
    {message rest : List UInt8}
    (read : Event.read message = .ok (event, rest)) :
    3 ≤ message.length := by
  obtain ⟨code, name, behind, _, rfl, _⟩ := Reader.header_bind_eq_ok_iff.mp read
  simp only [List.length_cons]
  omega

/-- A well-formed event is read from its own bytes and what is behind them. -/
theorem exists_encode_of_read
    {event : Event}
    {message rest : List UInt8}
    (fits : message.length ≤ maxTrainBytes)
    (read : Event.read message = .ok (event, rest)) :
    event.station = "" ∧ event.kind.isUnknown = false ∧
      ∃ written, event.encode = .ok written ∧ message = written ++ rest := by
  obtain ⟨code, name, behind, short, shape, read⟩ := Reader.header_bind_eq_ok_iff.mp read
  obtain ⟨kind, _, readsKind, read⟩ := Reader.exists_of_bind read
  obtain ⟨rfl, rfl⟩ := Reader.pure_eq_ok_iff.mp read
  obtain ⟨known, fields, rfl, encodes⟩ := EventKind.exists_fields_of_read readsKind
  obtain ⟨written, isWritten, goesOn⟩ := exists_write_of_shape short shape fits
  exact ⟨rfl, known, written, (encodes "" name).trans isWritten, goesOn⟩

/-- What cannot be read as an event is kept as an unknown one. -/
theorem decode_of_unread
    {message : List UInt8}
    (unread : ∀ event rest, Event.read message ≠ .ok (event, rest)) :
    Event.decode message = unknownOf message := by
  cases outcome : Event.read.run' message with
  | ok event =>
      obtain ⟨rest, read⟩ := Reader.run'_eq_ok_iff.mp outcome
      exact (unread event rest read).elim
  | error error =>
      rw [decode, outcome]

/-- The bytes that an unknown event keeps: those of the message, but at least two. -/
def keptOf (message : List UInt8) : List UInt8 :=
  message.getD 0 0 :: message.getD 1 0 :: message.drop 2

/-- All of a message of two bytes or more is kept. -/
theorem keptOf_of_two_le_length
    {message : List UInt8}
    (enough : 2 ≤ message.length) :
    keptOf message = message := by
  match message, enough with
  | _ :: _ :: _, _ => rfl

/-- Of a shorter message two bytes are kept. -/
theorem length_keptOf_of_length_lt_two
    {message : List UInt8}
    (few : message.length < 2) :
    (keptOf message).length = 2 := by
  match message, few with
  | [], _ => rfl
  | [_], _ => rfl

/-- What is kept of a message is all that makes a difference to it as an unknown event. -/
theorem unknownOf_keptOf
    (message : List UInt8) :
    unknownOf (keptOf message) = unknownOf message :=
  rfl

/-- The bytes of an unknown event are those that it keeps. -/
theorem encode_unknownOf
    {message : List UInt8}
    (fits : message.length ≤ maxTrainBytes) :
    (unknownOf message).encode = .ok (keptOf message) := by
  change checkSize (keptOf message) = _
  rw [checkSize, if_pos]
  by_cases enough : 2 ≤ message.length
  · rw [keptOf_of_two_le_length enough]
    exact fits
  · rw [length_keptOf_of_length_lt_two (Nat.lt_of_not_le enough)]
    decide

/-- The bytes that are kept of a message that makes no sense make none either. -/
theorem decode_keptOf
    {message : List UInt8}
    (unread : ∀ event rest, Event.read message ≠ .ok (event, rest)) :
    Event.decode (keptOf message) = unknownOf message := by
  by_cases enough : 2 ≤ message.length
  · rw [keptOf_of_two_le_length enough, decode_of_unread unread]
  · have isShort := length_keptOf_of_length_lt_two (Nat.lt_of_not_le enough)
    have alsoUnread : ∀ event rest, Event.read (keptOf message) ≠ .ok (event, rest) := by
      intro event rest read
      have long := three_le_length_of_read read
      omega
    rw [decode_of_unread alsoUnread, unknownOf_keptOf]

/--
Whatever a train can carry is read as an event that can be written again, and
what is written for it is read as the same event. If the message had two bytes at
least, the written ones are its beginning, and all of it if it made no sense. The
other way round, an event that makes sense and can be written is read back as it
was, at a station not yet known.
-/
theorem decode_lossless
    {message : List UInt8}
    (fits : message.length ≤ maxTrainBytes) :
    (∃ written,
      (Event.decode message).encode = .ok written ∧
        Event.decode written = Event.decode message ∧
        (2 ≤ message.length →
          written <+: message ∧
            ((Event.decode message).kind.isUnknown = true → written = message))) ∧
      ∀ (event : Event) (written : List UInt8),
        event.kind.isUnknown = false → event.encode = .ok written →
          Event.decode written = event.withStation "" := by
  refine ⟨?_, fun event written => decode_of_encode⟩
  cases outcome : Event.read message with
  | ok read =>
      obtain ⟨event, rest⟩ := read
      obtain ⟨noStation, known, written, isWritten, shape⟩ := exists_encode_of_read fits outcome
      have isPlain : event.withStation "" = event := by
        rw [Event.withStation, ← noStation]
      rw [decode_of_read outcome]
      refine ⟨written, isWritten, (decode_of_encode known isWritten).trans isPlain, fun _ => ?_⟩
      refine ⟨⟨rest, shape.symm⟩, fun isUnknown => ?_⟩
      cases known.symm.trans isUnknown
  | error error =>
      have unread : ∀ event rest, Event.read message ≠ .ok (event, rest) := by
        intro event rest read
        cases outcome.symm.trans read
      rw [decode_of_unread unread]
      refine ⟨keptOf message, encode_unknownOf fits, decode_keptOf unread, fun enough => ?_⟩
      rw [keptOf_of_two_le_length enough]
      exact ⟨List.prefix_rfl, fun _ => rfl⟩

/-- A press of a digit that was cut off keeps its bytes, and a complete one its meaning. -/
theorem decode_lossless_of_digit :
    let cutOff : List UInt8 := [0x42, 0x05, 1, 0x41]
    let press : Event := { station := "desk", control := "A", kind := .padPress 7 }
    cutOff.length ≤ maxTrainBytes ∧
      (Event.decode cutOff).kind.isUnknown = true ∧
      (Event.decode cutOff).encode = .ok cutOff ∧
      Event.decode [0x42, 0x05, 1, 0x41, 7] = press.withStation "" := by
  intro cutOff press
  have fits : cutOff.length ≤ maxTrainBytes := by decide
  have isUnknown : (Event.decode cutOff).kind.isUnknown = true := rfl
  have isWritten : press.encode = .ok [0x42, 0x05, 1, 0x41, 7] := rfl
  obtain ⟨⟨written, rewrites, _, keeps⟩, undoes⟩ := decode_lossless fits
  rw [(keeps (by decide)).2 isUnknown] at rewrites
  exact ⟨fits, isUnknown, rewrites, undoes press _ rfl isWritten⟩

end Event

end StationLink
