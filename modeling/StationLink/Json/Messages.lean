import StationLink.Command
import StationLink.Event
import StationLink.Json.Record

namespace StationLink.Json

/-!
# Commands and events as JSON

A command or event is a record of station, control and kind. A kind is a choice
whose name is that of its operation; what the operation takes is a record.
`asCommand` and `asEvent` read such records, `ofCommand` and `ofEvent` write
them.
-/

/-! ## Reading -/

/-- The kind of a command. -/
def asCommandKind : Decoder CommandKind :=
  asChoice fun name content? =>
    match Coded.ofName? name, content? with
    | some CommandCode.offHook, content? => holdsNothing .offHook content?
    | some .onHook, content? => holdsNothing .onHook content?
    | some .ringOff, content? => holdsNothing .ringOff content?
    | some .identify, content? => holdsNothing .identify content?
    | some .led, some content =>
        record ["color", "mode"]
          (do
            let color ← required (asCoded LampColor)
            let mode ← required (asCoded LampMode)
            pure (.led color mode))
          content
    | some .program, some content =>
        record ["slot", "text"]
          (do
            let slot ← required asByte
            let label ← required asText
            pure (.program slot label))
          content
    | some .text, some content =>
        record ["row", "column", "erase", "text"]
          (do
            let row ← required asByte
            let column ← required asByte
            let erase ← required (asCoded EraseMode)
            let content ← required asText
            pure (.text row column erase content))
          content
    | some .ring, some content =>
        record ["pattern"]
          (do
            let pattern ← required (asCoded RingPattern)
            pure (.ring pattern))
          content
    | some .beep, some content =>
        record ["tone"]
          (do
            let tone ← required asByte
            pure (.beep tone))
          content
    | some .timer, some content =>
        record ["running"]
          (do
            let running ← required asFlag
            pure (.timer running))
          content
    | some .echo, some content =>
        record ["enabled"]
          (do
            let enabled ← required asFlag
            pure (.echo enabled))
          content
    | some .scroll, some content =>
        record ["direction"]
          (do
            let direction ← required (asCoded ScrollDirection)
            pure (.scroll direction))
          content
    | some .keypadMode, some content =>
        record ["mode"]
          (do
            let mode ← required (asCoded KeypadMode)
            pure (.keypadMode mode))
          content
    | _, _ => none

/-- A command. -/
def asCommand : Decoder Command :=
  record ["station", "control", "kind"] do
    let station ← required asText
    let control ← required asText
    let kind ← required asCommandKind
    pure { station, control, kind }

/-- The two leading bytes of a message, as an array. -/
def asBytePair : Decoder (UInt8 × UInt8) := fun json =>
  match asList asByte json with
  | some [first, second] => some (first, second)
  | _ => none

/-- The kind of an event. -/
def asEventKind : Decoder EventKind :=
  asChoice fun name content? =>
    match name, content? with
    | "OffHook", content? => holdsNothing .offHook content?
    | "OnHook", content? => holdsNothing .onHook content?
    | "KeyPress", content? => holdsNothing .keyPress content?
    | "KeyRelease", content? => holdsNothing .keyRelease content?
    | "MenuExit", content? => holdsNothing .menuExit content?
    | "Up", content? => holdsNothing .up content?
    | "Lost", content? => holdsNothing .lost content?
    | "PadPress", some content =>
        record ["digit"]
          (do
            let digit ← required asByte
            pure (.padPress digit))
          content
    | "PadRelease", some content =>
        record ["digit"]
          (do
            let digit ← required asByte
            pure (.padRelease digit))
          content
    | "MenuItem", some content =>
        record ["item"]
          (do
            let item ← required asByte
            pure (.menuItem item))
          content
    | "ProgramResult", some content =>
        record ["slot", "ok"]
          (do
            let slot ← required asByte
            let ok ← required asFlag
            pure (.programResult slot ok))
          content
    | "Unknown", some content =>
        record ["prefix", "data"]
          (do
            let lead ← required asBytePair
            let data ← required (asList asByte)
            pure (.unknown lead.1 lead.2 data))
          content
    | _, _ => none

/-- An event. -/
def asEvent : Decoder Event :=
  record ["station", "control", "kind"] do
    let station ← required asText
    let control ← required asText
    let kind ← required asEventKind
    pure { station, control, kind }

/-! ## Writing -/

/-- The kind of a command. -/
def ofCommandKind (kind : CommandKind) : Json :=
  let holding (members : Members) : Json := ofChoice (Coded.name kind.code) members
  match kind with
  | .led color mode => holding [("color", ofCoded color), ("mode", ofCoded mode)]
  | .program slot label => holding [("slot", ofByte slot), ("text", ofText label)]
  | .text row column erase content =>
      holding
        [("row", ofByte row), ("column", ofByte column), ("erase", ofCoded erase),
          ("text", ofText content)]
  | .ring pattern => holding [("pattern", ofCoded pattern)]
  | .beep tone => holding [("tone", ofByte tone)]
  | .timer running => holding [("running", .boolean running)]
  | .echo enabled => holding [("enabled", .boolean enabled)]
  | .scroll direction => holding [("direction", ofCoded direction)]
  | .keypadMode mode => holding [("mode", ofCoded mode)]
  | .offHook => ofCoded kind.code
  | .onHook => ofCoded kind.code
  | .ringOff => ofCoded kind.code
  | .identify => ofCoded kind.code

/-- A command. -/
def ofCommand (command : Command) : Json :=
  ofMembers
    [("station", ofText command.station), ("control", ofText command.control),
      ("kind", ofCommandKind command.kind)]

/-- The kind of an event. -/
def ofEventKind : EventKind → Json
  | .offHook => ofText "OffHook"
  | .onHook => ofText "OnHook"
  | .keyPress => ofText "KeyPress"
  | .keyRelease => ofText "KeyRelease"
  | .padPress digit => ofChoice "PadPress" [("digit", ofByte digit)]
  | .padRelease digit => ofChoice "PadRelease" [("digit", ofByte digit)]
  | .menuExit => ofText "MenuExit"
  | .menuItem item => ofChoice "MenuItem" [("item", ofByte item)]
  | .programResult slot ok =>
      ofChoice "ProgramResult" [("slot", ofByte slot), ("ok", .boolean ok)]
  | .unknown first second data =>
      ofChoice "Unknown" [("prefix", ofList ofByte [first, second]), ("data", ofList ofByte data)]
  | .up => ofText "Up"
  | .lost => ofText "Lost"

/-- An event. -/
def ofEvent (event : Event) : Json :=
  ofMembers
    [("station", ofText event.station), ("control", ofText event.control),
      ("kind", ofEventKind event.kind)]

end StationLink.Json
