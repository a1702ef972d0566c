import StationLink.Command
import StationLink.Event
import StationLink.Text.Utf8
import StationLink.Train

namespace StationLink

/-!
# Writing messages

A message is a class byte, an operation byte, the control name behind its
length byte, and the fields of its kind. `Command.encode` and `Event.encode`
refuse a control name of more than 255 bytes first and a message that no train
can carry last. An unknown event is written as the bytes it was read from.
-/

/-- The class byte of a command. -/
def commandClass : UInt8 := 0x81

/-- The class byte of a station event. -/
def eventClass : UInt8 := 0x42

namespace Message

/-- The bytes that introduce a message of a class, operation and control. -/
def header
    (messageClass code : UInt8)
    (control : String) :
    Except EncodeError (List UInt8) :=
  let name := Text.utf8 control
  if name.length ≤ 255 then
    .ok (messageClass :: code :: name.length.toUInt8 :: name)
  else
    .error (.controlTooLong name.length)

/-- Refuse a message that no train can carry. -/
def checkSize (message : List UInt8) : Except EncodeError (List UInt8) :=
  if message.length ≤ maxTrainBytes then
    .ok message
  else
    .error (.tooLarge message.length maxTrainBlocks)

/-- The byte of a yes-or-no field. -/
def flag (value : Bool) : UInt8 :=
  if value then 1 else 0

/-- A header followed by fields, if a train can carry them. -/
def write
    (messageClass code : UInt8)
    (control : String)
    (fields : List UInt8) :
    Except EncodeError (List UInt8) := do
  let start ← header messageClass code control
  checkSize (start ++ fields)

end Message

/-- The fields of a command kind as bytes. -/
def CommandKind.fields : CommandKind → List UInt8
  | .led color mode => [Coded.code color, Coded.code mode]
  | .program slot label => slot :: Text.utf8 label
  | .text row column erase content =>
      row :: column :: Coded.code erase :: Text.utf8 content
  | .ring pattern => [Coded.code pattern]
  | .beep tone => [tone]
  | .timer running => [Message.flag running]
  | .echo enabled => [Message.flag enabled]
  | .scroll direction => [Coded.code direction]
  | .keypadMode mode => [Coded.code mode]
  | .offHook => []
  | .onHook => []
  | .ringOff => []
  | .identify => []

/-- The bytes of a command; its station is not written. -/
def Command.encode (command : Command) : Except EncodeError (List UInt8) :=
  Message.write commandClass (Coded.code command.kind.code) command.control command.kind.fields

/-- The bytes of an event; its station is not written. -/
def Event.encode (event : Event) : Except EncodeError (List UInt8) :=
  let write (code : EventCode) (fields : List UInt8) :=
    Message.write eventClass (Coded.code code) event.control fields
  match event.kind with
  | .offHook => write .offHook []
  | .onHook => write .onHook []
  | .keyPress => write .keyPress []
  | .keyRelease => write .keyRelease []
  | .padPress digit => write .padPress [digit]
  | .padRelease digit => write .padRelease [digit]
  | .menuExit => write .menuExit []
  | .menuItem item => write .menuItem [item]
  | .programResult slot ok => write .programResult [slot, Message.flag ok]
  | .unknown first second data => Message.checkSize (first :: second :: data)
  | .up => .error (.notTransmittable event.kind.shortName)
  | .lost => .error (.notTransmittable event.kind.shortName)

end StationLink
