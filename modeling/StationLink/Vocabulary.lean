import StationLink.Coded

namespace StationLink

/-!
# Vocabulary of station messages

The closed vocabularies that commands and events draw on: lamp colours and
modes, display erase modes, ring patterns, scroll directions and keypad modes,
and the operation codes of commands and station reports.
-/

/-- The colours of a lamp. -/
inductive LampColor where
  | red
  | green
  | amber
  deriving Repr, DecidableEq

/-- How a lamp is lit. -/
inductive LampMode where
  | off
  | steady
  | flash
  | flutter
  | wink
  | brokenFlutter
  deriving Repr, DecidableEq

/-- What a display write erases before it writes. -/
inductive EraseMode where
  | nothing
  | toEndOfLine
  | line
  | display
  deriving Repr, DecidableEq

/-- The cadence of the ringer. -/
inductive RingPattern where
  | standard
  | intercom
  | priority
  | splash
  deriving Repr, DecidableEq

/-- The direction in which a display scrolls. -/
inductive ScrollDirection where
  | up
  | down
  | left
  | right
  deriving Repr, DecidableEq

/-- What the keypad of a keyset is used for. -/
inductive KeypadMode where
  | dial
  | menu
  | feature
  deriving Repr, DecidableEq

/-- The operation byte of a command. -/
inductive CommandCode where
  | led
  | program
  | text
  | offHook
  | onHook
  | ring
  | ringOff
  | beep
  | timer
  | identify
  | echo
  | scroll
  | keypadMode
  deriving Repr, DecidableEq

/-- The operation byte of a station event. -/
inductive EventCode where
  | offHook
  | onHook
  | keyPress
  | keyRelease
  | padPress
  | padRelease
  | menuExit
  | menuItem
  | programResult
  deriving Repr, DecidableEq

instance : Coded LampColor where
  label := "led color"
  all := [.red, .green, .amber]
  code
    | .red => 1
    | .green => 2
    | .amber => 3
  name
    | .red => "Red"
    | .green => "Green"
    | .amber => "Amber"
  mem_all := by intro value; cases value <;> decide
  code_injective := by intro one other; cases one <;> cases other <;> decide

instance : Coded LampMode where
  label := "led mode"
  all := [.off, .steady, .flash, .flutter, .wink, .brokenFlutter]
  code
    | .off => 0
    | .steady => 1
    | .flash => 2
    | .flutter => 3
    | .wink => 4
    | .brokenFlutter => 5
  name
    | .off => "Off"
    | .steady => "On"
    | .flash => "Flash"
    | .flutter => "Flutter"
    | .wink => "Wink"
    | .brokenFlutter => "BrokenFlutter"
  mem_all := by intro value; cases value <;> decide
  code_injective := by intro one other; cases one <;> cases other <;> decide

instance : Coded EraseMode where
  label := "erase mode"
  all := [.nothing, .toEndOfLine, .line, .display]
  code
    | .nothing => 0
    | .toEndOfLine => 1
    | .line => 2
    | .display => 3
  name
    | .nothing => "None"
    | .toEndOfLine => "ToEndOfLine"
    | .line => "Line"
    | .display => "Display"
  mem_all := by intro value; cases value <;> decide
  code_injective := by intro one other; cases one <;> cases other <;> decide

instance : Coded RingPattern where
  label := "ring pattern"
  all := [.standard, .intercom, .priority, .splash]
  code
    | .standard => 1
    | .intercom => 2
    | .priority => 3
    | .splash => 4
  name
    | .standard => "Standard"
    | .intercom => "Intercom"
    | .priority => "Priority"
    | .splash => "Splash"
  mem_all := by intro value; cases value <;> decide
  code_injective := by intro one other; cases one <;> cases other <;> decide

instance : Coded ScrollDirection where
  label := "scroll direction"
  all := [.up, .down, .left, .right]
  code
    | .up => 1
    | .down => 2
    | .left => 3
    | .right => 4
  name
    | .up => "Up"
    | .down => "Down"
    | .left => "Left"
    | .right => "Right"
  mem_all := by intro value; cases value <;> decide
  code_injective := by intro one other; cases one <;> cases other <;> decide

instance : Coded KeypadMode where
  label := "keypad mode"
  all := [.dial, .menu, .feature]
  code
    | .dial => 0
    | .menu => 1
    | .feature => 2
  name
    | .dial => "Dial"
    | .menu => "Menu"
    | .feature => "Feature"
  mem_all := by intro value; cases value <;> decide
  code_injective := by intro one other; cases one <;> cases other <;> decide

instance : Coded CommandCode where
  label := "command opcode"
  all :=
    [.led, .program, .text, .offHook, .onHook, .ring, .ringOff, .beep, .timer,
      .identify, .echo, .scroll, .keypadMode]
  code
    | .led => 0x10
    | .program => 0x11
    | .text => 0x12
    | .offHook => 0x20
    | .onHook => 0x21
    | .ring => 0x30
    | .ringOff => 0x31
    | .beep => 0x32
    | .timer => 0x40
    | .identify => 0x41
    | .echo => 0x42
    | .scroll => 0x43
    | .keypadMode => 0x44
  name
    | .led => "Led"
    | .program => "Program"
    | .text => "Text"
    | .offHook => "OffHook"
    | .onHook => "OnHook"
    | .ring => "Ring"
    | .ringOff => "RingOff"
    | .beep => "Beep"
    | .timer => "Timer"
    | .identify => "Identify"
    | .echo => "Echo"
    | .scroll => "Scroll"
    | .keypadMode => "KeypadMode"
  mem_all := by intro value; cases value <;> decide
  code_injective := by intro one other; cases one <;> cases other <;> decide

instance : Coded EventCode where
  label := "status code"
  all :=
    [.offHook, .onHook, .keyPress, .keyRelease, .padPress, .padRelease, .menuExit,
      .menuItem, .programResult]
  code
    | .offHook => 1
    | .onHook => 2
    | .keyPress => 3
    | .keyRelease => 4
    | .padPress => 5
    | .padRelease => 6
    | .menuExit => 7
    | .menuItem => 8
    | .programResult => 9
  name
    | .offHook => "OffHook"
    | .onHook => "OnHook"
    | .keyPress => "KeyPress"
    | .keyRelease => "KeyRelease"
    | .padPress => "PadPress"
    | .padRelease => "PadRelease"
    | .menuExit => "MenuExit"
    | .menuItem => "MenuItem"
    | .programResult => "ProgramResult"
  mem_all := by intro value; cases value <;> decide
  code_injective := by intro one other; cases one <;> cases other <;> decide

end StationLink
