import StationLink.Frame
import StationLink.Json.Record
import StationLink.Text.Hex

namespace StationLink.Json

/-!
# Frames as JSON

A frame or block is an object of its parts. Bytes are a text of hexadecimal
digits, two for each. Of a frame only its interface and kind have to be written.
-/

/-- Bytes in hexadecimal digits. -/
def asBytes : Decoder (List UInt8) := fun json =>
  (asText json).bind Text.ofHex?

/-- A kind of frame, by its name alone. -/
def asFrameKind : Decoder FrameKind := fun json => do
  let name ← asText json
  Coded.all.find? fun kind => Coded.name kind == name

/-- A frame; what is not written of it is no, or nothing. -/
def asFrame : Decoder Frame :=
  namedRecord ["id", "kind", "command", "more", "payload"] do
    let id ← required asWord
    let kind ← required asFrameKind
    let command? ← withDefault none (asOptional asFlag)
    let more? ← withDefault none (asOptional asFlag)
    let payload? ← withDefault none (asOptional asBytes)
    pure {
      id
      kind
      command := command?.getD false
      more := more?.getD false
      payload := payload?.getD [] }

/-- Bytes in hexadecimal digits. -/
def ofBytes (bytes : List UInt8) : Json :=
  ofText (Text.hex bytes)

/-- A block by its parts. -/
def ofBlock (block : Block) : Json :=
  ofMembers [("payload", ofBytes block.payload), ("more", .boolean block.more)]

/-- A frame by its parts. -/
def ofFrame (frame : Frame) : Json :=
  ofMembers
    [("id", ofWord frame.id), ("kind", ofCoded frame.kind), ("command", .boolean frame.command),
      ("more", .boolean frame.more), ("payload", ofBytes frame.payload)]

end StationLink.Json
