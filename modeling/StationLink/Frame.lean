import StationLink.Coded
import StationLink.Interface
import StationLink.Train

namespace StationLink

/-!
# Frames

Everything on the link travels in frames. A frame starts with the synchronising
byte `0xD5`, followed by a control byte, the interface number in two bytes, the
length of the payload and the payload. The low four bits of the control byte
give the kind of frame, bit 4 marks a command, bit 5 marks a block that others
follow; the two high bits are reserved and zero.
-/

/-- The byte that starts every frame. -/
def syncByte : UInt8 := 0xD5

/-- The bytes of a frame before its payload. -/
def frameHeaderLength : Nat := 5

/-- The most bytes a frame can have. -/
def maxFrameLength : Nat := frameHeaderLength + maxBlockPayload

/-- What a frame is for. -/
inductive FrameKind where
  /-- It carries a block of a message. -/
  | data
  /-- It asks whether the peer is there. -/
  | probe
  /-- It answers a probe. -/
  | ack
  /-- It ends the link of the interface. -/
  | disconnect
  deriving Repr, DecidableEq

instance : Coded FrameKind where
  label := "frame kind"
  all := [.data, .probe, .ack, .disconnect]
  code
    | .data => 0
    | .probe => 1
    | .ack => 2
    | .disconnect => 3
  name
    | .data => "data"
    | .probe => "probe"
    | .ack => "ack"
    | .disconnect => "disconnect"
  mem_all := by intro value; cases value <;> decide
  code_injective := by intro one other; cases one <;> cases other <;> decide

/-- One frame on the link. -/
structure Frame where
  id : InterfaceId
  kind : FrameKind
  /-- The message goes towards the station. -/
  command : Bool
  /-- Another block of the same train follows. -/
  more : Bool
  payload : List UInt8
  deriving Repr, DecidableEq

/-- The meaning of the control byte of a frame. -/
structure FrameControl where
  kind : FrameKind
  command : Bool
  more : Bool
  deriving Repr, DecidableEq

namespace FrameControl

/-- The control byte that says this. -/
def byte (control : FrameControl) : UInt8 :=
  Coded.code control.kind
    ||| (if control.command then 0x10 else 0)
    ||| (if control.more then 0x20 else 0)

/-- The meaning of a control byte, unless a reserved bit is set or the kind is unknown. -/
def ofByte? (byte : UInt8) : Option FrameControl :=
  if byte &&& 0xC0 = 0 then
    (Coded.ofCode? (byte &&& 0x0F)).map fun kind =>
      { kind, command := byte &&& 0x10 != 0, more := byte &&& 0x20 != 0 }
  else
    none

theorem ofByte?_byte (control : FrameControl) : ofByte? control.byte = some control := by
  obtain ⟨kind, command, more⟩ := control
  cases kind <;> cases command <;> cases more <;> decide

theorem byte_of_ofByte? :
    ∀ {byte : UInt8} {control : FrameControl},
      ofByte? byte = some control → control.byte = byte := by
  have small : ∀ number : Fin 256, ∀ control,
      ofByte? (UInt8.ofFin number) = some control → control.byte = UInt8.ofFin number := by
    decide +kernel
  intro byte control found
  exact small byte.toFin control found

end FrameControl

namespace Frame

/-- The control part of a frame. -/
def control (frame : Frame) : FrameControl where
  kind := frame.kind
  command := frame.command
  more := frame.more

/-- The bytes of a frame; of a payload only the first 255 bytes are written. -/
def encode (frame : Frame) : List UInt8 :=
  let payload := frame.payload.take maxBlockPayload
  syncByte :: frame.control.byte :: (frame.id >>> 8).toUInt8 :: frame.id.toUInt8 ::
    payload.length.toUInt8 :: payload

/-- The frame that carries a block. -/
def ofBlock (id : InterfaceId) (command : Bool) (block : Block) : Frame where
  id
  kind := .data
  command
  more := block.more
  payload := block.payload

/-- The frame that asks whether the peer is there, naming a logical channel. -/
def probe (id : InterfaceId) (channel : UInt8) : Frame where
  id
  kind := .probe
  command := false
  more := false
  payload := [channel]

/-- The frame that answers a probe. -/
def ack (id : InterfaceId) : Frame where
  id
  kind := .ack
  command := false
  more := false
  payload := []

/-- The frame that ends the link of an interface. -/
def disconnect (id : InterfaceId) : Frame where
  id
  kind := .disconnect
  command := false
  more := false
  payload := []

/-- The block that a data frame carries. -/
def block (frame : Frame) : Block where
  payload := frame.payload
  more := frame.more

/-- The data frames that carry a message, in order. -/
def ofMessage (id : InterfaceId) (command : Bool) (message : List UInt8) : List Frame :=
  (Train.cut message).map (ofBlock id command)

end Frame

end StationLink
