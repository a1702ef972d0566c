import StationLink.Vocabulary

namespace StationLink

/-!
# Commands

A command is sent by the switching core to a keyset. It addresses a control of
a station and says what to do with it. On the link only the control and the
operation travel; the station is known from the interface.
-/

/-- What a command asks a keyset to do. -/
inductive CommandKind where
  /-- Light a lamp. -/
  | led (color : LampColor) (mode : LampMode)
  /-- Label a soft key. -/
  | program (slot : UInt8) (label : String)
  /-- Write on the display. -/
  | text (row column : UInt8) (erase : EraseMode) (content : String)
  /-- Turn the speaker on. -/
  | offHook
  /-- Turn the speaker off. -/
  | onHook
  /-- Start ringing. -/
  | ring (pattern : RingPattern)
  /-- Stop ringing. -/
  | ringOff
  /-- Sound a tone. -/
  | beep (tone : UInt8)
  /-- Run or stop the call timer. -/
  | timer (running : Bool)
  /-- Reset the presentation and ask the keyset who it is. -/
  | identify
  /-- Turn local echo on or off. -/
  | echo (enabled : Bool)
  /-- Scroll the display. -/
  | scroll (direction : ScrollDirection)
  /-- Choose what the keypad is used for. -/
  | keypadMode (mode : KeypadMode)
  deriving Repr, DecidableEq

/-- A command for one control of one station. -/
structure Command where
  station : String
  control : String
  kind : CommandKind
  deriving Repr, DecidableEq

namespace CommandKind

/-- The operation byte that announces a command of this kind. -/
def code : CommandKind → CommandCode
  | .led .. => .led
  | .program .. => .program
  | .text .. => .text
  | .offHook => .offHook
  | .onHook => .onHook
  | .ring .. => .ring
  | .ringOff => .ringOff
  | .beep .. => .beep
  | .timer .. => .timer
  | .identify => .identify
  | .echo .. => .echo
  | .scroll .. => .scroll
  | .keypadMode .. => .keypadMode

/-- The short name of a command kind. -/
def shortName : CommandKind → String
  | .led .. => "led"
  | .program .. => "program"
  | .text .. => "text"
  | .offHook => "offhook"
  | .onHook => "onhook"
  | .ring .. => "ring"
  | .ringOff => "ringoff"
  | .beep .. => "beep"
  | .timer .. => "timer"
  | .identify => "identify"
  | .echo .. => "echo"
  | .scroll .. => "scroll"
  | .keypadMode .. => "keypad"

end CommandKind

namespace Command

/-- The same command for another station. -/
def withStation (command : Command) (station : String) : Command :=
  { command with station }

/-- The command that names nothing and only asks for identification. -/
def blank : Command where
  station := ""
  control := ""
  kind := .identify

/-- The command that writes a text on the display of a station. -/
def display
    (station control : String)
    (row column : UInt8)
    (erase : EraseMode)
    (content : String) :
    Command where
  station
  control
  kind := .text row column erase content

end Command

end StationLink
