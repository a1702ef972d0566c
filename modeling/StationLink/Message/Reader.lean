import StationLink.Message.Writer

namespace StationLink

/-!
# Reading messages

`Command.decode` reads a command, reporting the first thing that is wrong from
left to right. Bytes behind the fields of a command are ignored; a text takes
all bytes to the end.

`Event.decode` never fails: a message it cannot read becomes an `unknown` event
that keeps every byte. A message of fewer than two bytes is filled up with
zeros at the front fields.
-/

namespace Message

/-- A reader of the bytes of a message from left to right. -/
abbrev Reader (α : Type) : Type :=
  StateT (List UInt8) (Except DecodeError) α

namespace Reader

/-- Read one byte. -/
def byte : Reader UInt8
  | [] => .error (.truncated 1)
  | first :: rest => .ok (first, rest)

/-- Read a given number of bytes. -/
def bytes (count : Nat) : Reader (List UInt8) := fun input =>
  if input.length < count then
    .error (.truncated (count - input.length))
  else
    .ok (input.take count, input.drop count)

/-- Read all remaining bytes. -/
def remaining : Reader (List UInt8) := fun input =>
  .ok (input, [])

/-- Read bytes as a text, naming it in the error. -/
def asText (what : String) (bytes : List UInt8) : Reader String :=
  match Text.ofUtf8? bytes with
  | some text => pure text
  | none => throw (.invalidText what)

/-- Read all remaining bytes as a text. -/
def text (what : String) : Reader String := do
  asText what (← remaining)

/-- Read the control name behind its length byte. -/
def control : Reader String := do
  let length ← byte
  asText "control name" (← bytes length.toNat)

/-- Read one byte as a value of a vocabulary. -/
def coded (α : Type) [Coded α] : Reader α := do
  let code ← byte
  match Coded.ofCode? code with
  | some value => pure value
  | none => throw (.invalidCode (Coded.label α) code)

/-- Read one byte as a yes-or-no field. -/
def flag : Reader Bool := do
  let code ← byte
  if code = 0 then
    pure false
  else if code = 1 then
    pure true
  else
    throw (.invalidCode "flag" code)

/--
Read the class byte, which must be the one given, and the operation byte, which
must be an operation of that class.
-/
def operation (α : Type) [Coded α] (messageClass : UInt8) : Reader α := do
  let first ← byte
  let second ← byte
  if first = messageClass then
    match Coded.ofCode? second with
    | some code => pure code
    | none => throw (.unknownHeader first second)
  else
    throw (.unknownHeader first second)

end Reader

end Message

open Message

/-- Read the fields of a command kind. -/
def CommandKind.read : CommandCode → Reader CommandKind
  | .led => do
      let color ← Reader.coded LampColor
      let mode ← Reader.coded LampMode
      pure (.led color mode)
  | .program => do
      let slot ← Reader.byte
      let label ← Reader.text "program text"
      pure (.program slot label)
  | .text => do
      let row ← Reader.byte
      let column ← Reader.byte
      let erase ← Reader.coded EraseMode
      let content ← Reader.text "display text"
      pure (.text row column erase content)
  | .offHook => pure .offHook
  | .onHook => pure .onHook
  | .ring => do
      let pattern ← Reader.coded RingPattern
      pure (.ring pattern)
  | .ringOff => pure .ringOff
  | .beep => do
      let tone ← Reader.byte
      pure (.beep tone)
  | .timer => do
      let running ← Reader.flag
      pure (.timer running)
  | .identify => pure .identify
  | .echo => do
      let enabled ← Reader.flag
      pure (.echo enabled)
  | .scroll => do
      let direction ← Reader.coded ScrollDirection
      pure (.scroll direction)
  | .keypadMode => do
      let mode ← Reader.coded KeypadMode
      pure (.keypadMode mode)

/-- Read a command for a station not yet known. -/
def Command.read : Reader Command := do
  let code ← Reader.operation CommandCode commandClass
  let control ← Reader.control
  let kind ← CommandKind.read code
  pure { station := "", control, kind }

/-- The command that bytes spell. -/
def Command.decode (message : List UInt8) : Except DecodeError Command :=
  Command.read.run' message

/-- Read the fields of an event kind. -/
def EventKind.read : EventCode → Reader EventKind
  | .offHook => pure .offHook
  | .onHook => pure .onHook
  | .keyPress => pure .keyPress
  | .keyRelease => pure .keyRelease
  | .padPress => do
      let digit ← Reader.byte
      pure (.padPress digit)
  | .padRelease => do
      let digit ← Reader.byte
      pure (.padRelease digit)
  | .menuExit => pure .menuExit
  | .menuItem => do
      let item ← Reader.byte
      pure (.menuItem item)
  | .programResult => do
      let slot ← Reader.byte
      let ok ← Reader.flag
      pure (.programResult slot ok)

/-- Read a well-formed event at a station not yet known. -/
def Event.read : Reader Event := do
  let code ← Reader.operation EventCode eventClass
  let control ← Reader.control
  let kind ← EventKind.read code
  pure { station := "", control, kind }

/-- The event that keeps the bytes of a message as they are. -/
def Event.unknownOf (message : List UInt8) : Event where
  station := ""
  control := ""
  kind := .unknown (message.getD 0 0) (message.getD 1 0) (message.drop 2)

/-- The event that bytes spell, or else the one that keeps them. -/
def Event.decode (message : List UInt8) : Event :=
  match Event.read.run' message with
  | .ok event => event
  | .error _ => Event.unknownOf message

end StationLink
