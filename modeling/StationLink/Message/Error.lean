import StationLink.Text.Hex

namespace StationLink

/-!
# Errors of the message format

`DecodeError` says why received bytes are not a message, `EncodeError` why a
command or event has no bytes. Their wording is in `DecodeError.text` and
`EncodeError.text` alone.
-/

/-- Why received bytes could not be read. -/
inductive DecodeError where
  /-- The message ends too early; so many bytes are missing. -/
  | truncated (missing : Nat)
  /-- The two leading bytes announce no known message. -/
  | unknownHeader (first second : UInt8)
  /-- A byte is none of the codes of its vocabulary. -/
  | invalidCode (label : String) (code : UInt8)
  /-- A text is not well-formed UTF-8. -/
  | invalidText (what : String)
  /-- A train has more than the permitted number of blocks. -/
  | trainTooLong (limit : Nat)
  deriving Repr, DecidableEq

/-- Why a command or event cannot be written. -/
inductive EncodeError where
  /-- The control name has more bytes than its length byte can say. -/
  | controlTooLong (length : Nat)
  /-- The message has more bytes than a train can carry. -/
  | tooLarge (length limit : Nat)
  /-- The event is not one that travels on the link. -/
  | notTransmittable (name : String)
  deriving Repr, DecidableEq

/-- The wording of a decode error. -/
def DecodeError.text : DecodeError → String
  | .truncated missing => s!"truncated message: need {missing} more bytes"
  | .unknownHeader first second =>
      "unknown prefix: " ++ Text.hexByte first ++ " " ++ Text.hexByte second
  | .invalidCode label code => s!"invalid {label} code: 0x" ++ Text.hexByte code
  | .invalidText what => s!"invalid UTF-8 in {what}"
  | .trainTooLong limit => s!"train exceeds {limit} blocks"

/-- The wording of an encode error. -/
def EncodeError.text : EncodeError → String
  | .controlTooLong length => s!"control name too long: {length} bytes"
  | .tooLarge length limit => s!"message of {length} bytes exceeds {limit} blocks"
  | .notTransmittable name => s!"{name} event cannot be transmitted"

end StationLink
